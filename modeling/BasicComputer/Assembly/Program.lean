import BasicComputer.Assembly.Labels
import BasicComputer.Machine.Memory
import BasicComputer.Text.CodePoint

/-!
Contract: assembled programs and the texts made of them.

A program is a memory image, the final label table and the list of emitted words
in source order. It is shown as a binary image, as hex rows, or as a listing.
-/

namespace BasicComputer

open Text

/-- An emitted word and where it came from. -/
structure Entry where
  lineNumber : Nat
  address : Word
  /-- The words of the body. -/
  words : List Bytes
  word : Word
deriving DecidableEq, Repr

/-- The result of a successful assembly. -/
structure Program where
  memory : Memory
  labels : Labels
  entries : Array Entry
deriving DecidableEq

namespace Program

/-- The entry that produced the word at an address: the last one there. -/
def debug (program : Program) (address : Word) : Option Entry :=
  program.entries.toList.reverse.find? fun entry => entry.address == address

/-- The addresses and words that were emitted, in source order. -/
def codes (program : Program) : List (Word × Word) :=
  program.entries.toList.map fun entry => (entry.address, entry.word)

def binary (program : Program) : Bytes :=
  program.memory.binary

/-- Rows of text, each ended by a line feed. -/
def rows (lines : List Bytes) : Bytes :=
  lines.flatMap fun line => line ++ [0x0A]

/-- A hex row for every word of memory that is not zero. -/
def hexRows (program : Program) : List Bytes :=
  program.memory.used.map fun (address, word) => Memory.hexRow address word

def hex (program : Program) : Bytes :=
  rows program.hexRows

/-- Text filled with blanks on the right to a number of characters. -/
def padRight (width : Nat) (text : Bytes) : Bytes :=
  text ++ List.replicate (width - characterCount text) 0x20

def listingTitle : Bytes := Bytes.ofString "ADDR WORD   LINE  SOURCE"

def labelsTitle : Bytes := Bytes.ofString "LABELS"

def entryRow (entry : Entry) : Bytes :=
  upperHex 3 entry.address.toNat ++ Bytes.ofString "  " ++ upperHex 4 entry.word.toNat ++
    Bytes.ofString "  " ++ padLeft 0x20 5 (decimal entry.lineNumber) ++ Bytes.ofString "  " ++
    Bytes.join [0x20] entry.words

def labelRow (binding : Bytes × Word) : Bytes :=
  padRight 8 binding.1 ++ 0x20 :: upperHex 3 binding.2.toNat

/-- The rows of the list of labels with its title, if there are labels. -/
def labelRows (labels : Labels) : List Bytes :=
  if labels.isEmpty then [] else [] :: labelsTitle :: labels.shown.map labelRow

def listingRows (program : Program) : List Bytes :=
  listingTitle :: program.entries.toList.map entryRow ++ labelRows program.labels

def listing (program : Program) : Bytes :=
  rows program.listingRows

end Program

end BasicComputer
