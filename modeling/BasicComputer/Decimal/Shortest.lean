import BasicComputer.Decimal.Binary64
import BasicComputer.Text.Numeral

/-!
Contract: the fewest decimal digits that identify a binary64 number.

A number `mantissa * 2 ^ exponent` is what every real in an interval around it
rounds to; the ends belong to the interval if the mantissa is even. Of all
decimals in that interval with the fewest digits, the nearest to the number is
taken. Everything is decided in exact integer arithmetic.
-/

namespace BasicComputer.Decimal

/-- A decimal `digits * 10 ^ exponent`. -/
structure Scientific where
  digits : Nat
  exponent : Int
deriving DecidableEq, Repr

structure Fraction where
  numerator : Nat
  denominator : Nat

/-- The fraction `units * 2 ^ twos * 10 ^ tens`. -/
def fraction (units : Nat) (twos tens : Int) : Fraction :=
  ⟨units * Nat.pow 2 twos.toNat * Nat.pow 10 tens.toNat,
    Nat.pow 2 (-twos).toNat * Nat.pow 10 (-tens).toNat⟩

def Fraction.atLeast (value : Fraction) (bound : Nat) : Bool :=
  bound * value.denominator ≤ value.numerator

/-- The exponent of the leading decimal digit of a positive fraction. -/
def leadingExponent (value : Fraction) : Int :=
  if value.atLeast 1 then
    ((Text.digits 10 (value.numerator / value.denominator)).length : Int) - 1
  else
    match (List.range 400).find? fun power =>
        (Fraction.mk (value.numerator * Nat.pow 10 power) value.denominator).atLeast 1 with
    | some power => -(power : Int)
    | none => -400

/-- The decimal with `count` digits that lies in the interval of a number, the
nearest one if there are two. The interval is given in quarter units of the
last place: `low`, `middle` and `high`. -/
def withDigits? (low middle high : Nat) (closed : Bool) (twos : Int) (leading : Int)
    (count : Nat) : Option Scientific :=
  let exponent : Int := leading - ((count : Int) - 1)
  let scaled (units : Nat) : Fraction := fraction units twos (-exponent)
  let center := scaled middle
  let below := center.numerator / center.denominator
  let inside (digits : Nat) : Bool :=
    let lower := scaled low
    let upper := scaled high
    if closed then
      lower.numerator ≤ digits * lower.denominator &&
        digits * upper.denominator ≤ upper.numerator
    else
      lower.numerator < digits * lower.denominator &&
        digits * upper.denominator < upper.numerator
  let distanceBelow := center.numerator - below * center.denominator
  let distanceAbove := (below + 1) * center.denominator - center.numerator
  match inside below, inside (below + 1) with
  | true, true =>
      if distanceBelow < distanceAbove ∨ distanceBelow = distanceAbove ∧ below % 2 = 0 then
        some ⟨below, exponent⟩
      else some ⟨below + 1, exponent⟩
  | true, false => some ⟨below, exponent⟩
  | false, true => some ⟨below + 1, exponent⟩
  | false, false => none

/-- The shortest decimal that rounds to `mantissa * 2 ^ exponent`. -/
def shortest (mantissa : Nat) (exponent : Int) : Scientific :=
  if mantissa = 0 then ⟨0, 0⟩
  else
    let middle := 4 * mantissa
    -- below a power of two the numbers lie twice as close
    let low := if mantissa = Nat.pow 2 52 ∧ -1074 < exponent then middle - 1 else middle - 2
    let high := middle + 2
    let closed := mantissa % 2 == 0
    let leading := leadingExponent (fraction middle (exponent - 2) 0)
    let found := (List.range 17).findSome? fun count =>
      withDigits? low middle high closed (exponent - 2) leading (count + 1)
    found.getD ⟨0, 0⟩

/-- The nearest integer to a fraction, the even one of two. -/
def roundFraction (value : Fraction) : Nat :=
  let below := value.numerator / value.denominator
  let remainder := value.numerator % value.denominator
  if 2 * remainder < value.denominator then below
  else if value.denominator < 2 * remainder then below + 1
  else if below % 2 = 0 then below
  else below + 1

end BasicComputer.Decimal
