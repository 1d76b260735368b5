/-!
Contract: text as the assembler sees it.

Source files, labels and operands are byte strings. They need not be valid
UTF-8, so they are lists of bytes and not `String`s.

Owns the type `Bytes`, its literals, and the cuts that need no notion of a
character. Does not own white space (`Text.Blank`) or code points
(`Text.CodePoint`).
-/

namespace BasicComputer

abbrev Bytes := List UInt8

namespace Bytes

/-- The UTF-8 encoding of a string, used for the program's own words. -/
def ofString (text : String) : Bytes :=
  text.toByteArray.data.toList

/-- The text before and after the first byte that is `mark`; `none` if there is
no such byte. `passed` holds the bytes already looked at, last one first. -/
def cutByteFrom (mark : UInt8) (passed : Bytes) : Bytes → Option (Bytes × Bytes)
  | [] => none
  | head :: tail =>
      if head = mark then some (passed.reverse, tail)
      else cutByteFrom mark (head :: passed) tail

def cutByte? (mark : UInt8) (text : Bytes) : Option (Bytes × Bytes) :=
  cutByteFrom mark [] text

/-- The text before the first pair of neighbours `mark mark`, and all of it if
there is none. `passed` holds the bytes already looked at, last one first. -/
def beforePairFrom (mark : UInt8) (passed : Bytes) : Bytes → Bytes
  | [] => passed.reverse
  | [last] => (last :: passed).reverse
  | first :: second :: tail =>
      if first = mark ∧ second = mark then passed.reverse
      else beforePairFrom mark (first :: passed) (second :: tail)

def beforePair (mark : UInt8) (text : Bytes) : Bytes :=
  beforePairFrom mark [] text

/-- Pieces joined with `separator` between neighbours. -/
def join (separator : Bytes) (pieces : List Bytes) : Bytes :=
  (pieces.intersperse separator).flatten

end Bytes

end BasicComputer
