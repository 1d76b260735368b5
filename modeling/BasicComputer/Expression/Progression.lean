/-!
Contract: arithmetic progressions of integers of 64 bits.

A progression runs from a start in steps up to a stop that it does not reach.
All its arithmetic wraps around at 64 bits. So the length of a progression
whose ends are too far apart comes out short or negative, and a progression of
a negative length has no elements.

Owns the length, the elements, membership, equality and slices.
-/

namespace BasicComputer.Expression

/-- A number reduced to a signed number of 64 bits. -/
def wrap64 (value : Int) : Int :=
  Int.bmod value (Nat.pow 2 64)

/-- An arithmetic progression. -/
structure Progression where
  start : Int
  stop : Int
  step : Int
deriving DecidableEq, Repr

namespace Progression

/-- The progression of a step other than zero. -/
def make? (start stop step : Int) : Option Progression :=
  if step = 0 then none else some ⟨start, stop, step⟩

/-- The number of steps from the first element to the last one, and one more. -/
def length (progression : Progression) : Int :=
  let ⟨start, stop, step⟩ := progression
  if 0 < step then
    if start < stop then wrap64 (Int.tdiv (wrap64 (stop - 1 - start)) step + 1) else 0
  else
    if stop < start then wrap64 (Int.tdiv (wrap64 (start - 1 - stop)) (wrap64 (-step)) + 1)
    else 0

def count (progression : Progression) : Nat :=
  progression.length.toNat

def item (progression : Progression) (position : Int) : Int :=
  wrap64 (progression.start + progression.step * position)

def contains (progression : Progression) (value : Int) : Bool :=
  let distance := wrap64 (value - progression.start)
  let steps := wrap64 (Int.tdiv distance progression.step)
  Int.tmod distance progression.step == 0 && 0 ≤ steps && decide (steps < progression.length)

/-- Whether two progressions have the same elements. -/
def sameItems (left right : Progression) : Bool :=
  left.length == right.length &&
    (left.length == 0 ||
      left.start == right.start && (left.length == 1 || left.step == right.step))

/-- The progression from one position to another in strides. -/
def slice? (progression : Progression) (low high stride : Int) : Option Progression :=
  make? (progression.item low) (progression.item high) (wrap64 (progression.step * stride))

end Progression

end BasicComputer.Expression
