/-!
Contract: the 16-bit word of the basic computer.

A word is an opcode nibble and a 12-bit address field. The top bit of the nibble
is the indirect flag of a memory-reference instruction.
-/

namespace BasicComputer

abbrev Word := UInt16

def memorySize : Nat := 4096

/-- The largest address. -/
def addressMask : Nat := 0xFFF

namespace Word

/-- The top four bits of a word. -/
def nibble (word : Word) : Nat :=
  word.toNat / 4096

def addressField (word : Word) : Nat :=
  word.toNat % 4096

def indirectBit (word : Word) : Bool :=
  8 ≤ word.nibble

/-- A word from its nibble and its address field; higher bits of the address
are dropped. -/
def ofFields (nibble address : Nat) : Word :=
  UInt16.ofNat (nibble * 4096 + address % 4096)

/-- The word that holds an integer, in two's complement. -/
def ofInt (value : Int) : Word :=
  UInt16.ofNat (value % 65536).toNat

/-- The integer that a word holds, read as two's complement. -/
def toSigned (word : Word) : Int :=
  if word.toNat < 32768 then word.toNat else (word.toNat : Int) - 65536

end Word

end BasicComputer
