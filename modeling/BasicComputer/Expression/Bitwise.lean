/-!
Contract: bit operations on unbounded integers in two's complement.

A negative integer has infinitely many leading ones. Shifts to the right round
towards negative infinity.
-/

namespace BasicComputer.Expression.Bitwise

/-- The bits of the first number that the second does not have. -/
def without (left right : Nat) : Nat :=
  left ^^^ (left &&& right)

def both : Int → Int → Int
  | .ofNat left, .ofNat right => .ofNat (left &&& right)
  | .ofNat left, .negSucc right => .ofNat (without left right)
  | .negSucc left, .ofNat right => .ofNat (without right left)
  | .negSucc left, .negSucc right => .negSucc (left ||| right)

def either : Int → Int → Int
  | .ofNat left, .ofNat right => .ofNat (left ||| right)
  | .ofNat left, .negSucc right => .negSucc (without right left)
  | .negSucc left, .ofNat right => .negSucc (without left right)
  | .negSucc left, .negSucc right => .negSucc (left &&& right)

def differing : Int → Int → Int
  | .ofNat left, .ofNat right => .ofNat (left ^^^ right)
  | .ofNat left, .negSucc right => .negSucc (left ^^^ right)
  | .negSucc left, .ofNat right => .negSucc (left ^^^ right)
  | .negSucc left, .negSucc right => .ofNat (left ^^^ right)

def complement (value : Int) : Int :=
  -value - 1

/-- Moves all bits to the right. A count beyond the length of the number leaves
only its sign. -/
def shiftRight (value : Int) (count : Nat) : Int :=
  if value.natAbs.log2 + 1 < count then (if value < 0 then -1 else 0)
  else Int.fdiv value (Int.pow 2 count)

end BasicComputer.Expression.Bitwise
