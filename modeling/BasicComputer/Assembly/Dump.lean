import BasicComputer.Assembly.Program
import BasicComputer.Text.Quoted

/-!
Contract: the coloured dump of a program for a terminal.

It shows the label table in the order of the names and the list of emitted
words. Colours are escape sequences around the coloured text. The addresses of
labels are aligned by the number of characters, those of the escape sequences
included.
-/

namespace BasicComputer

open Text

namespace Dump

/-- A text between an escape sequence and the one that ends all colours. -/
def coloured (codes : List String) (text : Bytes) : Bytes :=
  codes.flatMap (fun code => 0x1B :: 0x5B :: Bytes.ofString code ++ [0x6D]) ++ text ++
    0x1B :: Bytes.ofString "[0m"

def typeName (name : String) : Bytes :=
  coloured ["32"] (Bytes.ofString name)

def fieldName (name : String) : Bytes :=
  coloured ["33"] (Bytes.ofString name)

def number (value : Nat) : Bytes :=
  coloured ["34", "1"] (decimal value)

def quoteMark : Bytes :=
  coloured ["31", "1"] [0x22]

/-- The pieces of a string: stretches without escapes, and escapes. `stretch`
holds the current stretch in reverse. -/
def stringPieces (stretch : Bytes) : List QuotedPiece → Bytes
  | [] => if stretch.isEmpty then [] else coloured ["31"] stretch.reverse
  | .plain bytes :: rest => stringPieces (bytes.reverse ++ stretch) rest
  | .escape bytes :: rest =>
      (if stretch.isEmpty then [] else coloured ["31"] stretch.reverse) ++
        coloured ["35", "1"] bytes ++ stringPieces [] rest

def string (text : Bytes) : Bytes :=
  quoteMark ++ stringPieces [] (quotePieces text) ++ quoteMark

def indent (width : Nat) : Bytes :=
  List.replicate width 0x20

def labelsType : Bytes :=
  Bytes.ofString "cpu." ++ typeName "Labels"

def entryType : Bytes :=
  Bytes.ofString "cpu." ++ typeName "Opcode"

def labelRows (entries : List (Bytes × Word)) : List Bytes :=
  let cells := entries.map fun entry => (indent 2 ++ string entry.1 ++ [0x3A], entry.2)
  let width := cells.foldl (fun width cell => max width (characterCount cell.1)) 0
  cells.map fun cell =>
    Program.padRight (width + 1) cell.1 ++ number cell.2.toNat ++ [0x2C]

def labels (table : Labels) : Bytes :=
  if table.isEmpty then labelsType ++ Bytes.ofString "\x7b\x7d\n"
  else
    labelsType ++ Bytes.ofString "\x7b\n" ++ Program.rows (labelRows table.entries) ++
      Bytes.ofString "\x7d\n"

def entryRows (entry : Entry) : List Bytes :=
  [indent 2 ++ entryType ++ [0x7B],
    indent 4 ++ fieldName "LineNo" ++ Bytes.ofString ":  " ++ number entry.lineNumber ++ [0x2C],
    indent 4 ++ fieldName "Address" ++ Bytes.ofString ": " ++ number entry.address.toNat ++ [0x2C],
    indent 4 ++ fieldName "Words" ++ Bytes.ofString ":   []" ++ typeName "string" ++ [0x7B]] ++
    entry.words.map (fun word => indent 6 ++ string word ++ [0x2C]) ++
  [indent 4 ++ Bytes.ofString "\x7d,",
    indent 4 ++ fieldName "Code" ++ Bytes.ofString ": " ++ number entry.word.toNat ++ [0x2C],
    indent 2 ++ Bytes.ofString "\x7d,"]

/-- The greatest number of words that are shown. -/
def entryLimit : Nat := 1024

def entries (list : List Entry) : Bytes :=
  Bytes.ofString "[]" ++ entryType ++
    (if list.isEmpty then
      0x28 :: coloured ["36", "1"] (Bytes.ofString "nil") ++ Bytes.ofString ")\n"
    else if entryLimit < list.length then Bytes.ofString "\x7b...\x7d\n"
    else
      Bytes.ofString "\x7b\n" ++ Program.rows (list.flatMap entryRows) ++ Bytes.ofString "\x7d\n")

def program (program : Program) : Bytes :=
  labels program.labels ++ entries program.entries.toList

end Dump

end BasicComputer
