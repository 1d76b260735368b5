import BasicComputer.Text.Bytes

/-!
Contract: finding a pattern in a text, and cutting a text at its occurrences.

Positions count bytes. Occurrences are taken from left to right and do not
overlap. Owns nothing about characters or white space.
-/

namespace BasicComputer.Text

/-- The position of the first occurrence of `pattern`, where `text` starts at
position `position`. -/
def indexFrom (pattern : Bytes) (position : Nat) : Bytes → Option Nat
  | [] => if pattern.isEmpty then some position else none
  | head :: tail =>
      if pattern.isPrefixOf (head :: tail) then some position
      else indexFrom pattern (position + 1) tail

def indexOf? (pattern text : Bytes) : Option Nat :=
  indexFrom pattern 0 text

def lastIndexOf? (pattern text : Bytes) : Option Nat :=
  (indexOf? pattern.reverse text.reverse).map fun fromEnd =>
    text.length - fromEnd - pattern.length

def occursIn (pattern text : Bytes) : Bool :=
  (indexOf? pattern text).isSome

/-- The pieces of `text` between occurrences of a non-empty pattern, at most
`limit` cuts. `piece` holds the bytes of the piece being read, last one first,
and `skip` counts the bytes that remain of the occurrence being passed. -/
def splitFrom (pattern : Bytes) (limit skip : Nat) (done : List Bytes) (piece : Bytes) :
    Bytes → List Bytes
  | [] => (piece.reverse :: done).reverse
  | head :: tail =>
      match skip, limit with
      | skip + 1, _ => splitFrom pattern limit skip done piece tail
      | 0, 0 => splitFrom pattern 0 0 done (head :: piece) tail
      | 0, limit + 1 =>
          if pattern.isPrefixOf (head :: tail) then
            splitFrom pattern limit (pattern.length - 1) (piece.reverse :: done) [] tail
          else splitFrom pattern (limit + 1) 0 done (head :: piece) tail

/-- The pieces of `text` between the first `limit` occurrences of a non-empty
pattern. -/
def splitAtMost (limit : Nat) (pattern text : Bytes) : List Bytes :=
  splitFrom pattern limit 0 [] [] text

/-- The pieces of `text` between the occurrences of a non-empty pattern. -/
def splitAll (pattern text : Bytes) : List Bytes :=
  splitAtMost text.length pattern text

end BasicComputer.Text
