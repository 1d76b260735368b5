import BasicComputer.Text.Bytes

/-!
Contract: numbers written in a base between 2 and 36.

Owns the digits, the readers of signed and unsigned numerals, and the writers:
plain, padded to a width, and grouped by thousands.

The readers work on 64-bit quantities. A numeral is read from left to right and
is out of range the moment the magnitude needs more than 64 bits, so what stands
after that point is never looked at.
-/

namespace BasicComputer.Text

/-- The value of a byte as a digit, in either case, whatever the base. -/
def digitValue? (byte : UInt8) : Option Nat :=
  if 0x30 ≤ byte ∧ byte ≤ 0x39 then some (byte.toNat - 0x30)
  else if 0x61 ≤ byte ∧ byte ≤ 0x7A then some (byte.toNat - 0x61 + 10)
  else if 0x41 ≤ byte ∧ byte ≤ 0x5A then some (byte.toNat - 0x41 + 10)
  else none

def digitOf? (base : Nat) (byte : UInt8) : Option Nat :=
  match digitValue? byte with
  | some value => if value < base then some value else none
  | none => none

/-- What reading a numeral gives. -/
inductive Reading (Number : Type) where
  | value (number : Number)
  /-- A numeral as far as it was read, and too large. -/
  | outOfRange
  | notNumeral
deriving DecidableEq, Repr

/-- The first magnitude that needs more than 64 bits. -/
def magnitudeLimit : Nat := Nat.pow 2 64

/-- Reads digits after a magnitude that has been read already. -/
def readDigits (base : Nat) (magnitude : Nat) : Bytes → Reading Nat
  | [] => .value magnitude
  | byte :: rest =>
      match digitOf? base byte with
      | none => .notNumeral
      | some digit =>
          -- reading stops at the digit that is too much, whatever follows it
          if magnitude * base + digit < magnitudeLimit then
            readDigits base (magnitude * base + digit) rest
          else .outOfRange

/-- Reads an unsigned numeral: one or more digits and nothing else. -/
def readUnsigned (base : Nat) (text : Bytes) : Reading Nat :=
  if text.isEmpty then .notNumeral else readDigits base 0 text

/-- A signed 64-bit number from its sign and magnitude. -/
def signedReading (negative : Bool) : Reading Nat → Reading Int
  | .value magnitude =>
      if negative then
        if magnitude ≤ Nat.pow 2 63 then .value (-(magnitude : Int)) else .outOfRange
      else
        if magnitude < Nat.pow 2 63 then .value (magnitude : Int) else .outOfRange
  | .outOfRange => .outOfRange
  | .notNumeral => .notNumeral

/-- Reads a signed numeral: at most one sign, then an unsigned numeral. -/
def readSigned (base : Nat) (text : Bytes) : Reading Int :=
  match text with
  | 0x2B :: rest => signedReading false (readUnsigned base rest)
  | 0x2D :: rest => signedReading true (readUnsigned base rest)
  | _ => signedReading false (readUnsigned base text)

/-- The byte of a digit below 36; letters are lower case. -/
def digitByte (digit : Nat) : UInt8 :=
  if digit < 10 then UInt8.ofNat (0x30 + digit) else UInt8.ofNat (0x61 + (digit - 10))

/-- The byte of a digit below 36; letters are upper case. -/
def upperDigitByte (digit : Nat) : UInt8 :=
  if digit < 10 then UInt8.ofNat (0x30 + digit) else UInt8.ofNat (0x41 + (digit - 10))

/-- The digits of a number in a base, the most significant first, in front of
`suffix`. There are no digits for zero. -/
def digitsOnto (base : Nat) (suffix : List Nat) (number : Nat) : List Nat :=
  if _large : 1 < base ∧ 0 < number then
    digitsOnto base (number % base :: suffix) (number / base)
  else suffix
termination_by number
decreasing_by exact Nat.div_lt_self _large.2 _large.1

/-- The digits of a number in a base, the most significant first; `[0]` for
zero. -/
def digits (base : Nat) (number : Nat) : List Nat :=
  if number = 0 then [0] else digitsOnto base [] number

def decimal (number : Nat) : Bytes :=
  (digits 10 number).map digitByte

def signedDecimal (number : Int) : Bytes :=
  if number < 0 then 0x2D :: decimal number.natAbs else decimal number.natAbs

/-- `text` with copies of `pad` in front, so that it has at least `width`
bytes. -/
def padLeft (pad : UInt8) (width : Nat) (text : Bytes) : Bytes :=
  List.replicate (width - text.length) pad ++ text

/-- A number in upper-case hexadecimal, with leading zeros up to `width`
digits. -/
def upperHex (width : Nat) (number : Nat) : Bytes :=
  padLeft 0x30 width ((digits 16 number).map upperDigitByte)

def lowerHex (width : Nat) (number : Nat) : Bytes :=
  padLeft 0x30 width ((digits 16 number).map digitByte)

/-- Digits with a comma before every group of three, counted from the end. No
comma stands before the first digit. -/
def groupThousands (first : Bool) : Bytes → Bytes
  | [] => []
  | digit :: rest =>
      if !first && (rest.length + 1) % 3 == 0 then
        0x2C :: digit :: groupThousands false rest
      else digit :: groupThousands false rest

/-- A signed number in decimal, with a comma between groups of three digits. -/
def groupedDecimal (number : Int) : Bytes :=
  let magnitude := groupThousands true (decimal number.natAbs)
  if number < 0 then 0x2D :: magnitude else magnitude

end BasicComputer.Text
