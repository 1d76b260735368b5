import BasicComputer.Text.Category.CaseRuns
import BasicComputer.Text.Category.Digit
import BasicComputer.Text.Category.Letter
import BasicComputer.Text.Category.LetterCase
import BasicComputer.Text.Category.Printable

/-!
Contract: properties of code points.

ASCII is decided by comparison; other code points are looked up in the tables
of `Text.Category`. Owns the tests and the case mappings, not the tables.
-/

namespace BasicComputer.Text

/-- Membership after some changes, of which `inside` holds the outcome so far. -/
def inChangesFrom (inside : Bool) (code : Nat) : List Nat → Bool
  | [] => inside
  | change :: rest => if change ≤ code then inChangesFrom (!inside) code rest else inside

/-- Membership in a set that is given by the ascending list of code points at
which membership changes: a member has an odd number of changes at or below
it. -/
def inChanges (changes : List Nat) (code : Nat) : Bool :=
  inChangesFrom false code changes

def isAsciiLetter (code : Nat) : Bool :=
  (0x41 ≤ code && code ≤ 0x5A) || (0x61 ≤ code && code ≤ 0x7A)

def isAsciiDigit (code : Nat) : Bool :=
  0x30 ≤ code && code ≤ 0x39

/-- A letter: category L. -/
def isLetter (code : Nat) : Bool :=
  if code < 0x80 then isAsciiLetter code else inChanges Category.letterChanges code

/-- A decimal digit: category Nd. -/
def isDigit (code : Nat) : Bool :=
  if code < 0x80 then isAsciiDigit code else inChanges Category.digitChanges code

/-- A code point that is shown as it is inside quotes: categories L, M, N, P, S
and the blank U+0020. -/
def isPrintable (code : Nat) : Bool :=
  if code < 0x80 then 0x20 ≤ code && code < 0x7F
  else inChanges Category.printableChanges code

/-- White space: property White_Space. -/
def isSpace (code : Nat) : Bool :=
  (9 ≤ code && code ≤ 13) || code == 0x20 || code == 0x85 || code == 0xA0 || code == 0x1680 ||
  (0x2000 ≤ code && code ≤ 0x200A) || code == 0x2028 || code == 0x2029 || code == 0x202F ||
  code == 0x205F || code == 0x3000

def caseRun? (code : Nat) : Option Category.CaseRun :=
  Category.caseRuns.find? fun run =>
    run.first ≤ code && code ≤ run.last && (code - run.first) % run.stride == 0

def shifted (code : Nat) (distance : Int) : Nat :=
  ((code : Int) + distance).toNat

/-- The simple upper-case counterpart of a code point, itself if none. -/
def toUpper (code : Nat) : Nat :=
  if code < 0x80 then (if 0x61 ≤ code ∧ code ≤ 0x7A then code - 32 else code)
  else match caseRun? code with
    | some run => shifted code run.upper
    | none => code

def toLower (code : Nat) : Nat :=
  if code < 0x80 then (if 0x41 ≤ code ∧ code ≤ 0x5A then code + 32 else code)
  else match caseRun? code with
    | some run => shifted code run.lower
    | none => code

def toTitle (code : Nat) : Nat :=
  if code < 0x80 then (if 0x61 ≤ code ∧ code ≤ 0x7A then code - 32 else code)
  else match caseRun? code with
    | some run => shifted code run.title
    | none => code

/-- An upper-case letter: category Lu. -/
def isUpperLetter (code : Nat) : Bool :=
  if code < 0x80 then 0x41 ≤ code && code ≤ 0x5A
  else Category.upperRuns.any fun run => run.contains code

/-- A lower-case letter: category Ll. -/
def isLowerLetter (code : Nat) : Bool :=
  if code < 0x80 then 0x61 ≤ code && code ≤ 0x7A
  else Category.lowerRuns.any fun run => run.contains code

/-- A title-case letter: category Lt. -/
def isTitleLetter (code : Nat) : Bool :=
  Category.titleRuns.any fun run => run.contains code

/-- Code points that simple case folding joins with another one although they
have no simple case counterpart. -/
def foldedWithoutCounterpart : List Nat :=
  [0xDF, 0x390, 0x3B0, 0x1FD3, 0x1FE3, 0xFB05, 0xFB06]

/-- Code points that have a simple case counterpart although simple case folding
leaves them alone. -/
def unfoldedWithCounterpart : List Nat :=
  [0x130, 0x131]

/-- A code point that simple case folding joins with another one. -/
def isCased (code : Nat) : Bool :=
  foldedWithoutCounterpart.contains code ||
    !unfoldedWithCounterpart.contains code && (toUpper code != code || toLower code != code)

end BasicComputer.Text
