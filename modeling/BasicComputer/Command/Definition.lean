import BasicComputer.Assembly.Assembler

/-!
Contract: labels that are given on the command line, as `NAME=ADDR`.
-/

namespace BasicComputer

open Text

structure Definition where
  name : Bytes
  address : Nat
deriving DecidableEq, Repr

namespace Definition

def isName (name : Bytes) : Bool :=
  !name.isEmpty && !name.any fun byte => byte == 0x20 || byte == 0x09 || byte == 0x2C

/-- A definition that is wrong, with the name that it has. -/
def refused (name : Bytes) : Definition × Option Error :=
  (⟨name, 0⟩, some (.plain .define))

/-- Reads a definition, and returns it also if it is wrong. The address is in hex. -/
def read (text : Bytes) : Definition × Option Error :=
  match Bytes.cutByte? 0x3D text with
  | none => refused (trim text)
  | some (name, address) =>
      let name := trim name
      if !isName name then refused name
      else
        match readUnsigned 16 (trim address) with
        | .value number => if number < memorySize then (⟨name, number⟩, none) else refused name
        | _ => refused name

def parse (text : Bytes) : Except Error Definition :=
  match read text with
  | (definition, none) => .ok definition
  | (_, some cause) => .error cause

/-- Predefines labels in order; the last definition of a name is in force. -/
def predefineAll (assembler : Assembler) : List Bytes → Except Error Assembler
  | [] => .ok assembler
  | text :: rest =>
      match parse text with
      | .error cause => .error cause
      | .ok definition =>
          predefineAll (assembler.predefine definition.name (UInt16.ofNat definition.address)) rest

end Definition

end BasicComputer
