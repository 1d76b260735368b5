import BasicComputer.Text.Numeral

/-!
Contract: messages with places for arguments.

A place is `%d` for integers, `%s` for texts, `%v` for both, or `%x` with an
optional width, of which a leading zero asks for zeros on the left. Integers are
grouped by thousands except in hex, and `%%` is a percent sign.

An argument that a place cannot show, a place without an argument and, if any
place has taken one, an argument without a place are told in the message.
-/

namespace BasicComputer

open Text

inductive MessageArgument where
  | integer (value : Int)
  | text (content : Bytes)
deriving DecidableEq, Repr

namespace Message

inductive Piece where
  | literal (byte : UInt8)
  | place (pad : UInt8) (width : Nat) (letter : UInt8)
  /-- A percent sign at the end. -/
  | unfinished
deriving DecidableEq, Repr

/-- The width at the start of a text, and what follows it. -/
def readWidth (width : Nat) : Bytes → Nat × Bytes
  | [] => (width, [])
  | byte :: rest =>
      match digitOf? 10 byte with
      | some digit => readWidth (width * 10 + digit) rest
      | none => (width, byte :: rest)

theorem readWidth_length (width : Nat) (text : Bytes) :
    (readWidth width text).2.length ≤ text.length := by
  induction text generalizing width with
  | nil => simp [readWidth]
  | cons byte rest inductionHypothesis =>
      unfold readWidth
      split
      · have shorter := inductionHypothesis (width * 10 + ‹Nat›)
        simp only [List.length_cons]
        omega
      · simp

/-- The parts of a template, after the ones in `done`, last one first. -/
def pieces (done : List Piece) (template : Bytes) : List Piece :=
  match template with
  | [] => done.reverse
  | byte :: rest =>
      if byte ≠ 0x25 then pieces (.literal byte :: done) rest
      else
        let pad : UInt8 := if rest.head? = some 0x30 then 0x30 else 0x20
        match _found : (readWidth 0 rest).2 with
        | [] => (.unfinished :: done).reverse
        | letter :: after =>
            if letter = 0x25 then pieces (.literal letter :: done) after
            else pieces (.place pad (readWidth 0 rest).1 letter :: done) after
termination_by template.length
decreasing_by
  · simp
  · have bound := readWidth_length 0 rest
    rw [_found] at bound
    simp only [List.length_cons] at bound ⊢
    omega
  · have bound := readWidth_length 0 rest
    rw [_found] at bound
    simp only [List.length_cons] at bound ⊢
    omega

/-- An integer in hex, filled to a width that its sign counts to. -/
def signedHex (pad : UInt8) (width : Nat) (value : Int) : Bytes :=
  let digits := lowerHex 1 value.natAbs
  if 0 ≤ value then padLeft pad width digits
  else if pad = 0x30 then 0x2D :: padLeft pad (width - 1) digits
  else padLeft pad width (0x2D :: digits)

/-- A text in hex, byte by byte, filled to a width. -/
def textHex (pad : UInt8) (width : Nat) (content : Bytes) : Bytes :=
  padLeft pad width (content.flatMap fun byte => lowerHex 2 byte.toNat)

def typed : MessageArgument → Bytes
  | .integer value => Bytes.ofString "int64=" ++ groupedDecimal value
  | .text content => Bytes.ofString "string=" ++ content

/-- What is told of an argument that the place of a letter cannot show. -/
def mismatch (letter : UInt8) (argument : MessageArgument) : Bytes :=
  Bytes.ofString "%!" ++ letter :: 0x28 :: typed argument ++ [0x29]

def shown (pad : UInt8) (width : Nat) (letter : UInt8) (argument : MessageArgument) : Bytes :=
  match letter, argument with
  | 0x78, .integer value => signedHex pad width value
  | 0x64, .integer value => padLeft pad width (groupedDecimal value)
  | 0x76, .integer value => padLeft pad width (groupedDecimal value)
  | 0x78, .text content => textHex pad width content
  | 0x73, .text content => padLeft pad width content
  | 0x76, .text content => padLeft pad width content
  | _, _ => mismatch letter argument

/-- What is told of arguments that no place has taken. -/
def surplus : List MessageArgument → Bytes
  | [] => []
  | first :: rest =>
      Bytes.ofString "%!(EXTRA " ++
        Bytes.join (Bytes.ofString ", ") ((first :: rest).map typed) ++ [0x29]

/-- A template with its places filled in order. `taken` tells that a place has
taken an argument. -/
def fill (taken : Bool) : List Piece → List MessageArgument → Bytes
  | [], given => if taken then surplus given else []
  | .literal byte :: rest, given => byte :: fill taken rest given
  | .unfinished :: rest, given => Bytes.ofString "%!(NOVERB)" ++ fill taken rest given
  | .place pad width letter :: rest, argument :: given =>
      shown pad width letter argument ++ fill true rest given
  | .place _ _ letter :: rest, [] =>
      Bytes.ofString "%!" ++ letter :: Bytes.ofString "(MISSING)" ++ fill taken rest []

def text (template : Bytes) (given : List MessageArgument) : Bytes :=
  fill false (pieces [] template) given

end Message

end BasicComputer
