import BasicComputer.Assembly.Program

/-!
Contract: output formats and the default names of output files.
-/

namespace BasicComputer

inductive Format where
  | bin
  | hex
  | list
deriving DecidableEq, Repr

namespace Format

def all : List Format := [.bin, .hex, .list]

def name : Format → Bytes
  | .bin => Bytes.ofString "bin"
  | .hex => Bytes.ofString "hex"
  | .list => Bytes.ofString "list"

def extension : Format → Bytes
  | .bin => Bytes.ofString ".bin"
  | .hex => Bytes.ofString ".hex"
  | .list => Bytes.ofString ".lst"

def ofName? (name : Bytes) : Option Format :=
  all.find? fun format => format.name == name

def render (program : Program) : Format → Bytes
  | .bin => program.binary
  | .hex => program.hex
  | .list => program.listing

end Format

/-- A path in reverse without the extension of its last name, if that name has
one: what stands before its last period. -/
def stemOfReverse? : Bytes → Option Bytes
  | [] => none
  | byte :: rest =>
      if byte = 0x2F then none
      else if byte = 0x2E then some rest
      else stemOfReverse? rest

def stem (path : Bytes) : Bytes :=
  match stemOfReverse? path.reverse with
  | some reversed => reversed.reverse
  | none => path

/-- The default output file of a source file: the extension is that of the
format, and there is none if the format is unknown. -/
def outputName (source : Bytes) (format : Option Format) : Bytes :=
  match format with
  | some format => stem source ++ format.extension
  | none => stem source

end BasicComputer
