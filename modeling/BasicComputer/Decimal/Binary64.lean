/-!
Contract: exact arithmetic on binary64 numbers.

A finite number is `mantissa * 2 ^ exponent` with an integer mantissa. Owns the
split into these parts, truncation, comparison with integers, the remainder of
the truncated quotient, and correctly rounded conversions from integers and
decimals. Does not own text (`Decimal.Written`, `Decimal.Reader`).
-/

namespace BasicComputer.Decimal

/-- A binary64 number in exact form. -/
inductive Parts where
  | nan
  | infinite (negative : Bool)
  /-- The number `mantissa * 2 ^ exponent`, negated if `negative`. -/
  | finite (negative : Bool) (mantissa : Nat) (exponent : Int)
deriving DecidableEq, Repr

def parts (number : Float) : Parts :=
  let bits : Nat := number.toBits.toNat
  let negative := decide (Nat.pow 2 63 ≤ bits)
  let biased : Nat := bits / Nat.pow 2 52 % Nat.pow 2 11
  let fraction : Nat := bits % Nat.pow 2 52
  if biased = 2047 then
    if fraction = 0 then .infinite negative else .nan
  else if biased = 0 then .finite negative fraction (-1074)
  else .finite negative (fraction + Nat.pow 2 52) ((biased : Int) - 1075)

def isFinite (number : Float) : Bool :=
  match parts number with
  | .finite _ _ _ => true
  | _ => false

def withSign (negative : Bool) (magnitude : Nat) : Int :=
  if negative then -(magnitude : Int) else magnitude

/-- The integer part of a finite number. -/
def truncate? (number : Float) : Option Int :=
  match parts number with
  | .finite negative mantissa exponent =>
      some (withSign negative
        (if 0 ≤ exponent then mantissa * Nat.pow 2 exponent.toNat
         else mantissa / Nat.pow 2 (-exponent).toNat))
  | _ => none

/-- The number nearest to an integer, the even one of two. -/
def ofInt (value : Int) : Float :=
  let magnitude := Float.ofScientific value.natAbs false 0
  if value < 0 then -magnitude else magnitude

def ofIntFinite? (value : Int) : Option Float :=
  if isFinite (ofInt value) then some (ofInt value) else none

/-- How an integer compares with a number. Every integer is below a number that
is undefined. -/
def compareInt (value : Int) (number : Float) : Ordering :=
  match parts number with
  | .nan => .lt
  | .infinite negative => if negative then .gt else .lt
  | .finite negative mantissa exponent =>
      if 0 ≤ exponent then
        compare value (withSign negative (mantissa * Nat.pow 2 exponent.toNat))
      else
        compare (value * Int.pow 2 (-exponent).toNat) (withSign negative mantissa)

/-- The order of numbers in which an undefined one equals itself and is above
all others. -/
def compareTotal (left right : Float) : Ordering :=
  if left > right then .gt
  else if left < right then .lt
  else if left == right then .eq
  else if left == left then .lt
  else if right == right then .gt
  else .eq

/-- The number `mantissa * 2 ^ exponent` for a mantissa of at most 53 bits. -/
def ofParts (negative : Bool) (mantissa : Nat) (exponent : Int) : Float :=
  let magnitude := Float.scaleB (Float.ofScientific mantissa false 0) exponent
  if negative then -magnitude else magnitude

/-- The remainder of the truncated quotient: it has the sign of the dividend
and is exact. -/
def truncatedRemainder (dividend divisor : Float) : Float :=
  match parts dividend, parts divisor with
  | .finite negative leftMantissa leftExponent, .finite _ rightMantissa rightExponent =>
      if rightMantissa = 0 then 0.0 / 0.0
      else
        let exponent := min leftExponent rightExponent
        let left := leftMantissa * Nat.pow 2 (leftExponent - exponent).toNat
        let right := rightMantissa * Nat.pow 2 (rightExponent - exponent).toNat
        ofParts negative (left % right) exponent
  | .finite _ _ _, .infinite _ => dividend
  | _, _ => 0.0 / 0.0

/-- The remainder of the floored quotient: it has the sign of the divisor. -/
def flooredRemainder (dividend divisor : Float) : Float :=
  let remainder := truncatedRemainder dividend divisor
  if (decide (dividend < 0)) != (decide (divisor < 0)) && remainder != 0 then
    remainder + divisor
  else remainder

/-- The number nearest to `digits * 10 ^ exponent`, where the digits have been
read as an integer. Magnitudes that cannot be represented give an infinity or
zero. -/
def ofDecimal (digits : Nat) (exponent : Int) : Float :=
  let width : Int := Nat.log2 digits / 3 + 1
  if digits = 0 then 0.0
  else if 400 < exponent then 1.0 / 0.0
  else if width + exponent < -400 then 0.0
  else if 0 ≤ exponent then Float.ofScientific digits false exponent.toNat
  else Float.ofScientific digits true (-exponent).toNat

end BasicComputer.Decimal
