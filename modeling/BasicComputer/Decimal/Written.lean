import BasicComputer.Decimal.Shortest

/-!
Contract: how binary64 numbers are written.

The general notation uses the fewest digits, with an exponent if the leading
digit stands below the fourth place after the point or at the seventh before it
or higher, and always shows a point or an exponent. The fixed and the
exponential notation show six places.
-/

namespace BasicComputer.Decimal

open Text

inductive Style where
  | general
  | fixed
  | exponential
deriving DecidableEq, Repr

/-- Digits of a decimal without its trailing zeros. -/
def significant (digits : Bytes) : Bytes :=
  (digits.reverse.dropWhile (· == 0x30)).reverse

/-- An exponent: its mark, its sign, and at least two digits. -/
def exponentText (mark : UInt8) (exponent : Int) : Bytes :=
  mark :: (if exponent < 0 then 0x2D else 0x2B) :: padLeft 0x30 2 (decimal exponent.natAbs)

/-- Digits with a point after the first one, if others follow. -/
def pointed : Bytes → Bytes
  | [] => [0x30]
  | [digit] => [digit]
  | digit :: rest => digit :: 0x2E :: rest

/-- The digits of a decimal, written with a point at its place. -/
def positional (digits : Bytes) (leading : Int) : Bytes :=
  if leading < 0 then
    0x30 :: 0x2E :: (List.replicate ((-leading).toNat - 1) 0x30 ++ digits)
  else
    let whole := leading.toNat + 1
    if digits.length ≤ whole then digits ++ List.replicate (whole - digits.length) 0x30
    else digits.take whole ++ 0x2E :: digits.drop whole

def generalText (mark : UInt8) (mantissa : Nat) (exponent : Int) : Bytes :=
  if mantissa = 0 then Bytes.ofString "0.0"
  else
    let shortestForm := shortest mantissa exponent
    let allDigits := decimal shortestForm.digits
    let leading := shortestForm.exponent + (allDigits.length : Int) - 1
    let digits := significant allDigits
    if leading < -4 ∨ 6 ≤ leading then
      pointed digits ++ exponentText mark leading
    else
      -- a number that happens to be whole is still told from an integer
      let body := positional digits leading
      if body.contains 0x2E then body else body ++ Bytes.ofString ".0"

/-- A magnitude with six places after the point. -/
def fixedText (mantissa : Nat) (exponent : Int) : Bytes :=
  let scaled := roundFraction (fraction mantissa exponent 6)
  decimal (scaled / 1000000) ++ 0x2E :: padLeft 0x30 6 (decimal (scaled % 1000000))

/-- A magnitude with one digit before the point, six after it, and an
exponent. -/
def exponentialText (mark : UInt8) (mantissa : Nat) (exponent : Int) : Bytes :=
  if mantissa = 0 then Bytes.ofString "0.000000" ++ exponentText mark 0
  else
    let leading := leadingExponent (fraction mantissa exponent 0)
    let rounded := roundFraction (fraction mantissa exponent (6 - leading))
    if rounded = 10000000 then
      pointed (decimal 1000000) ++ exponentText mark (leading + 1)
    else pointed (decimal rounded) ++ exponentText mark leading

/-- A number in a notation; `mark` is the letter of the exponent. -/
def written (style : Style) (mark : UInt8) (number : Float) : Bytes :=
  match parts number with
  | .nan => Bytes.ofString "nan"
  | .infinite negative => Bytes.ofString (if negative then "-inf" else "+inf")
  | .finite negative mantissa exponent =>
      let magnitude :=
        match style with
        | .general => generalText mark mantissa exponent
        | .fixed => fixedText mantissa exponent
        | .exponential => exponentialText mark mantissa exponent
      if negative then 0x2D :: magnitude else magnitude

end BasicComputer.Decimal
