import BasicComputer.Decimal.Binary64
import BasicComputer.Text.Numeral

/-!
Contract: reading binary64 numbers from text.

Accepted are an optional sign and decimal digits with an optional point and
exponent, hexadecimal digits with a binary exponent, and the words for infinity
and for undefined. Underscores may stand between digits. A finite text that is
too large for the type is refused.
-/

namespace BasicComputer.Decimal

open Text

def lowerByte (byte : UInt8) : UInt8 :=
  if 0x41 ≤ byte ∧ byte ≤ 0x5A then byte + 32 else byte

inductive UnderscoreState where
  | start
  | digit
  | underscore
  | other
deriving DecidableEq, Repr

/-- Whether every underscore stands between digits, where the mark of a base
counts as a digit. -/
def underscoresAllowed (hexadecimal : Bool) (state : UnderscoreState) : Bytes → Bool
  | [] => state != .underscore
  | byte :: rest =>
      if (digitOf? (if hexadecimal then 16 else 10) byte).isSome then
        underscoresAllowed hexadecimal .digit rest
      else if byte = 0x5F then
        state == .digit && underscoresAllowed hexadecimal .underscore rest
      else state != .underscore && underscoresAllowed hexadecimal .other rest

/-- Digits of a base with an optional point: the digits, the number of them
after the point, and what follows. -/
def spanDigits (base : Nat) (text : Bytes) : Bytes × Nat × Bytes :=
  let isDigit := fun byte => (digitOf? base byte).isSome
  let (whole, rest) := text.span isDigit
  match rest with
  | 0x2E :: after =>
      let (places, rest) := after.span isDigit
      (whole ++ places, places.length, rest)
  | _ => (whole, 0, rest)

def digitsNumber (base : Nat) (digits : Bytes) : Nat :=
  digits.foldl (fun number byte => number * base + (digitOf? base byte).getD 0) 0

/-- The exponent from which on further digits of it do not count. -/
def exponentLimit : Nat := 10000

/-- The value of the digits of an exponent, up to the digit that passes the
limit. -/
def exponentNumber (digits : Bytes) : Nat :=
  digits.foldl
    (fun number byte =>
      if number < exponentLimit then number * 10 + (digitOf? 10 byte).getD 0 else number) 0

/-- An exponent after its mark: an optional sign and at least one digit. -/
def exponent? (text : Bytes) : Option Int :=
  let read (negative : Bool) (digits : Bytes) : Option Int :=
    if digits.isEmpty || !digits.all (fun byte => (digitOf? 10 byte).isSome) then none
    else some (withSign negative (exponentNumber digits))
  match text with
  | 0x2B :: rest => read false rest
  | 0x2D :: rest => read true rest
  | _ => read false text

/-- The number nearest to `digits * 2 ^ exponent`. -/
def ofBinary (digits : Nat) (exponent : Int) : Float :=
  if digits = 0 then 0.0
  else if 2000 < exponent then 1.0 / 0.0
  else if (Nat.log2 digits : Int) + exponent < -2000 then 0.0
  else if 0 ≤ exponent then Float.ofScientific (digits * Nat.pow 2 exponent.toNat) false 0
  else
    Float.ofScientific (digits * Nat.pow 5 (-exponent).toNat) true (-exponent).toNat

def unsignedDecimal? (text : Bytes) : Option Float :=
  let (digits, places, after) := spanDigits 10 (text.filter (· != 0x5F))
  if digits.isEmpty then none
  else
    match after with
    | [] => some (ofDecimal (digitsNumber 10 digits) (-(places : Int)))
    | mark :: exponent =>
        if lowerByte mark != 0x65 then none
        else
          (exponent? exponent).map fun exponent =>
            ofDecimal (digitsNumber 10 digits) (exponent - places)

/-- An unsigned number in hexadecimal, after its base mark. -/
def unsignedHexadecimal? (text : Bytes) : Option Float :=
  let (digits, places, after) := spanDigits 16 (text.filter (· != 0x5F))
  match after with
  | power :: exponent =>
      if digits.isEmpty || lowerByte power != 0x70 then none
      else
        (exponent? exponent).map fun exponent =>
          ofBinary (digitsNumber 16 digits) (exponent - 4 * places)
  | [] => none

def unsigned? (text : Bytes) : Option Float :=
  match text with
  | 0x30 :: mark :: rest =>
      if lowerByte mark = 0x78 then unsignedHexadecimal? rest else unsignedDecimal? text
  | _ => unsignedDecimal? text

def underscoresValid (text : Bytes) : Bool :=
  match text with
  | 0x30 :: mark :: rest =>
      if lowerByte mark = 0x78 then underscoresAllowed true .digit rest
      else if lowerByte mark = 0x62 ∨ lowerByte mark = 0x6F then
        underscoresAllowed false .digit rest
      else underscoresAllowed false .start text
  | _ => underscoresAllowed false .start text

def read? (text : Bytes) : Option Float :=
  let (negative, body) :=
    match text with
    | 0x2B :: rest => (false, rest)
    | 0x2D :: rest => (true, rest)
    | _ => (false, text)
  let word := body.map lowerByte
  if word = Bytes.ofString "inf" ∨ word = Bytes.ofString "infinity" then
    some (if negative then -(1.0 / 0.0) else 1.0 / 0.0)
  else if word = Bytes.ofString "nan" then some (0.0 / 0.0)
  else if body.contains 0x5F && !underscoresValid body then none
  else
    match unsigned? body with
    | some magnitude =>
        if isFinite magnitude then some (if negative then -magnitude else magnitude) else none
    | none => none

end BasicComputer.Decimal
