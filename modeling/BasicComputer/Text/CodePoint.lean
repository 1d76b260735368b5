import BasicComputer.Text.Bytes

/-!
Contract: UTF-8 inside byte strings.

A text is a sequence of characters. A character is a code point with a valid
UTF-8 encoding, or a single stray byte where no valid encoding starts.

Owns decoding, encoding and the count of characters. Does not own properties of
code points (`Text.Category`).
-/

namespace BasicComputer.Text

/-- A character of a byte string. -/
inductive Character where
  /-- A code point and its UTF-8 encoding. -/
  | point (code : Nat) (encoding : Bytes)
  /-- A byte at which no valid encoding starts. -/
  | stray (byte : UInt8)
deriving DecidableEq, Repr

namespace Character

/-- The code point that stands for a stray byte when text is re-encoded. -/
def replacement : Nat := 0xFFFD

def bytes : Character → Bytes
  | .point _ encoding => encoding
  | .stray byte => [byte]

/-- The code point of a character, with the replacement code point for a stray
byte. -/
def code : Character → Nat
  | .point code _ => code
  | .stray _ => replacement

end Character

/-- Whether a byte can continue a multi-byte encoding. -/
def isTail (byte : UInt8) : Bool :=
  0x80 ≤ byte && byte ≤ 0xBF

/-- The six low bits of a continuation byte. -/
def tailBits (byte : UInt8) : Nat :=
  byte.toNat % 64

/-- Whether `first second` can start an encoding of three bytes: overlong forms
and surrogates are excluded. -/
def startsThree (first second : UInt8) : Bool :=
  if first = 0xE0 then 0xA0 ≤ second && second ≤ 0xBF
  else if first = 0xED then 0x80 ≤ second && second ≤ 0x9F
  else 0xE1 ≤ first && first ≤ 0xEF && isTail second

/-- Whether `first second` can start an encoding of four bytes: overlong forms
and code points above U+10FFFF are excluded. -/
def startsFour (first second : UInt8) : Bool :=
  if first = 0xF0 then 0x90 ≤ second && second ≤ 0xBF
  else if first = 0xF4 then 0x80 ≤ second && second ≤ 0x8F
  else 0xF1 ≤ first && first ≤ 0xF3 && isTail second

def firstCharacter? : Bytes → Option Character
  | [] => none
  | first :: rest =>
      if first < 0x80 then some (.point first.toNat [first])
      else
        match rest with
        | second :: third :: fourth :: _ =>
            if startsFour first second && isTail third && isTail fourth then
              some (.point
                (((first.toNat % 8 * 64 + tailBits second) * 64 + tailBits third) * 64
                  + tailBits fourth)
                [first, second, third, fourth])
            else if startsThree first second && isTail third then
              some (.point ((first.toNat % 16 * 64 + tailBits second) * 64 + tailBits third)
                [first, second, third])
            else if 0xC2 ≤ first && first ≤ 0xDF && isTail second then
              some (.point (first.toNat % 32 * 64 + tailBits second) [first, second])
            else some (.stray first)
        | [second, third] =>
            if startsThree first second && isTail third then
              some (.point ((first.toNat % 16 * 64 + tailBits second) * 64 + tailBits third)
                [first, second, third])
            else if 0xC2 ≤ first && first ≤ 0xDF && isTail second then
              some (.point (first.toNat % 32 * 64 + tailBits second) [first, second])
            else some (.stray first)
        | [second] =>
            if 0xC2 ≤ first && first ≤ 0xDF && isTail second then
              some (.point (first.toNat % 32 * 64 + tailBits second) [first, second])
            else some (.stray first)
        | [] => some (.stray first)

theorem firstCharacter?_bytes_pos {text : Bytes} {character : Character}
    (found : firstCharacter? text = some character) : 0 < character.bytes.length := by
  unfold firstCharacter? at found
  repeat' split at found
  all_goals
    first
      | contradiction
      | (cases Option.some.inj found; simp [Character.bytes])

/-- The characters of a text, after those in `passed` (last one first). -/
def charactersFrom (passed : List Character) (text : Bytes) : List Character :=
  match text with
  | [] => passed.reverse
  | head :: tail =>
      match _found : firstCharacter? (head :: tail) with
      | none => passed.reverse
      | some character =>
          charactersFrom (character :: passed) ((head :: tail).drop character.bytes.length)
termination_by text.length
decreasing_by
  have positive := firstCharacter?_bytes_pos _found
  simp only [List.length_drop, List.length_cons]
  omega

def characters (text : Bytes) : List Character :=
  charactersFrom [] text

def characterCount (text : Bytes) : Nat :=
  (characters text).length

/-- The code points of a text, the replacement code point for each stray byte. -/
def codePoints (text : Bytes) : List Nat :=
  (characters text).map Character.code

/-- The UTF-8 encoding of a code point; a number that is no code point (a
surrogate, or above U+10FFFF) is encoded as the replacement code point. -/
def encodePoint (code : Nat) : Bytes :=
  if code < 0x80 then [UInt8.ofNat code]
  else if code < 0x800 then
    [UInt8.ofNat (0xC0 + code / 64), UInt8.ofNat (0x80 + code % 64)]
  else if 0xD800 ≤ code ∧ code ≤ 0xDFFF ∨ 0x10FFFF < code then [0xEF, 0xBF, 0xBD]
  else if code < 0x10000 then
    [UInt8.ofNat (0xE0 + code / 4096), UInt8.ofNat (0x80 + code / 64 % 64),
      UInt8.ofNat (0x80 + code % 64)]
  else
    [UInt8.ofNat (0xF0 + code / 262144), UInt8.ofNat (0x80 + code / 4096 % 64),
      UInt8.ofNat (0x80 + code / 64 % 64), UInt8.ofNat (0x80 + code % 64)]

def encodePoints (codes : List Nat) : Bytes :=
  codes.flatMap encodePoint

end BasicComputer.Text
