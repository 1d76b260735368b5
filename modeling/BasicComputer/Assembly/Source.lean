import BasicComputer.Text.Bytes

/-!
Contract: a source text as the lines that are read from it.

A line ends at a line feed, and one carriage return before its end is dropped.
Text after the last line feed is a line too. A line must be shorter than 65536
bytes, the carriage return counted; reading ends at the first one that is not.
The input itself may end in a failure, which is noticed after all lines.
-/

namespace BasicComputer

/-- How reading ends after the last line. -/
inductive Ending where
  | complete
  | tooLong
  /-- The input failed with a text. -/
  | broken (text : Bytes)
deriving DecidableEq, Repr

structure Source where
  /-- The lines that a line feed ends. -/
  lines : List Bytes
  /-- The line after the last line feed. -/
  tail : Option Bytes
  ending : Ending
deriving DecidableEq, Repr

namespace Source

/-- The number of bytes that a line must stay below. -/
def lineLimit : Nat := 65536

/-- A line from its bytes in reverse: one carriage return at its end is
dropped. -/
def lineOfReverse : Bytes → Bytes
  | 0x0D :: rest => rest.reverse
  | reversed => reversed.reverse

/-- Reads on after the complete lines in `done`, last one first, and the bytes
of the current line, of which there are `size`, last one first. -/
def readFrom (ending : Ending) (done : List Bytes) (size : Nat) (current : Bytes) :
    Bytes → Source
  | [] =>
      if current = [] then ⟨done.reverse, none, ending⟩
      else ⟨done.reverse, some (lineOfReverse current), ending⟩
  | byte :: rest =>
      if byte = 0x0A then readFrom ending (lineOfReverse current :: done) 0 [] rest
      -- a carriage return counts, even one that is dropped when the line is complete
      else if size + 1 < lineLimit then readFrom ending done (size + 1) (byte :: current) rest
      else ⟨done.reverse, none, .tooLong⟩

/-- The lines of a text. `failure` is the text of the failure that ends the
input, if it does not simply end. -/
def read (text : Bytes) (failure : Option Bytes) : Source :=
  let ending := match failure with
    | some message => Ending.broken message
    | none => .complete
  readFrom ending [] 0 [] text

end Source

end BasicComputer
