import BasicComputer.Command.Flag
import BasicComputer.Text.Search

/-!
Contract: the flags of the log, which every command has.

They say where log lines go, which of them are kept back, and which places of a
program log more. The commands here log no such places and never look at where
their log lines go, so all that these flags can change is that a value is refused.
-/

namespace BasicComputer

open Text

namespace LogFlag

/-- Refuses a value with a fixed reason unless it is fine. -/
def refuseUnless (fine : Bytes → Bool) (reason : String) (value : Bytes) : Option Bytes :=
  if fine value then none else some (Bytes.ofString reason)

/-- Why a text is not a decimal number. -/
def numeralRefusal {Number : Type} (value : Bytes) : Reading Number → Option Bytes
  | .value _ => none
  | .outOfRange => some (parsing ++ Bytes.ofString ": value out of range")
  | .notNumeral => some (parsing ++ Bytes.ofString ": invalid syntax")
where
  parsing := Bytes.ofString "strconv.Atoi: parsing " ++ quoted value

def severityNames : List Bytes :=
  ["INFO", "WARNING", "ERROR", "FATAL"].map Bytes.ofString

/-- A code point in upper case, as far as it matters for the letters of a severity. The
dotless i is one of two that become such a letter from outside the alphabet; no severity has
the other. -/
def upperPoint (code : Nat) : Nat :=
  if 0x61 ≤ code ∧ code ≤ 0x7A then code - 0x20
  else if code = 0x131 then 0x49
  else code

/-- A severity is a name in either case, or the number of one. -/
def severityRefusal (value : Bytes) : Option Bytes :=
  if severityNames.contains (encodePoints ((codePoints value).map upperPoint)) then none
  else
    match readSigned 10 value with
    | .value number =>
        if 0 ≤ number ∧ number < severityNames.length then none
        else
          some (Bytes.ofString "Severity " ++ signedDecimal number ++
            Bytes.ofString " out of range (min 0, max 3).")
    | reading => numeralRefusal value reading

/-- The pieces of a list with commas, without the empty ones. -/
def listed (value : Bytes) : List Bytes :=
  (splitAll [0x2C] value).filter (· ≠ [])

/-- Refuses a list at its first piece that is refused. -/
def listRefusal (pieceRefusal : Bytes → Option Bytes) (value : Bytes) : Option Bytes :=
  (listed value).findSome? pieceRefusal

def besideRefusal (malformed negative : String) (number : Bytes) : Option Bytes :=
  match readSigned 10 number with
  | .value number => if number < 0 then some (Bytes.ofString negative) else none
  | _ => some (Bytes.ofString malformed)

def placeForm : String := "syntax error: expect comma-separated list of file.go:234"

/-- A place is a file name with a dot, a colon and a line number. -/
def placeRefusal (piece : Bytes) : Option Bytes :=
  match splitAll [0x3A] piece with
  | [file, line] =>
      if file.contains 0x2E then besideRefusal placeForm "negative value for line" line
      else some (Bytes.ofString placeForm)
  | _ => some (Bytes.ofString placeForm)

def patternForm : String := "syntax error: expect comma-separated list of filename=N"

def patternRefusal (piece : Bytes) : Option Bytes :=
  match splitAll [0x3D] piece with
  | [pattern, level] =>
      if pattern = [] then some (Bytes.ofString patternForm)
      else besideRefusal patternForm "negative value for vmodule level" level
  | _ => some (Bytes.ofString patternForm)

/-- The base that a numeral names in front, with what follows. -/
def namedBase : Bytes → Nat × Bytes
  -- the mark of a base is one only in front of something
  | 0x30 :: mark :: digit :: rest =>
      match mark ||| 0x20 with
      | 0x62 => (2, digit :: rest)
      | 0x6F => (8, digit :: rest)
      | 0x78 => (16, digit :: rest)
      | _ => (8, mark :: digit :: rest)
  | 0x30 :: rest => (8, rest)
  | text => (10, text)

/-- Whether underscores stand between digits only, among nothing but digits and underscores.
`afterDigit` says whether a digit or the name of a base stands in front. -/
def isSpaced (afterDigit : Bool) : Bytes → Bool
  | [] => true
  | [0x5F] => false
  | 0x5F :: digit :: rest => afterDigit && digit != 0x5F && isSpaced true rest
  | _ :: rest => isSpaced true rest

/-- Reads an unsigned numeral whose base it names itself. -/
def readLiteral (text : Bytes) : Reading Nat :=
  let (base, digits) := namedBase text
  if text = [] then .notNumeral
  else
    match readDigits base 0 (digits.filter (· ≠ 0x5F)) with
    | .value number => if isSpaced (base ≠ 10) digits then .value number else .notNumeral
    | reading => reading

def readSignedLiteral : Bytes → Reading Int
  | 0x2B :: rest => signedReading false (readLiteral rest)
  | 0x2D :: rest => signedReading true (readLiteral rest)
  | text => signedReading false (readLiteral text)

def levelRefusal (value : Bytes) : Option Bytes :=
  match readSignedLiteral value with
  | .value _ => none
  | .outOfRange => some (Bytes.ofString "value out of range")
  | .notNumeral => some (Bytes.ofString "parse error")

def switch (name : String) : Flag where
  name := Bytes.ofString name
  isSwitch := true
  refusal? := refuseUnless isSwitchWord "parse error"

def valued (name : String) (refusal? : Bytes → Option Bytes) : Flag where
  name := Bytes.ofString name
  refusal? := refusal?

def level : Flag where
  name := Bytes.ofString "v"
  letter := some 0x76
  refusal? value := numeralRefusal value (readSigned 10 value)

def all : List Flag :=
  [switch "logtostderr", switch "alsologtostderr", valued "stderrthreshold" severityRefusal,
    valued "log_dir" fun _ => none, valued "log_link" fun _ => none,
    valued "logbuflevel" levelRefusal, valued "log_backtrace_at" (listRefusal placeRefusal),
    level, valued "vmodule" (listRefusal patternRefusal)]

end LogFlag

end BasicComputer
