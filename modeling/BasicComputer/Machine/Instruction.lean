import BasicComputer.Error
import BasicComputer.Machine.Mnemonic

/-!
Contract: instructions as structures, as words and as text.

`Instruction.encode` packs an instruction into a word, `Instruction.decode`
unpacks a word, and `Instruction.text` writes assembly language. A data word
cannot be told apart from an instruction, so `decode` never gives one.

An instruction that comes from outside names its mnemonic by number
(`NumberedInstruction`), and the number may be no position of the table.
-/

namespace BasicComputer

open Text

/-- An instruction or a literal word. -/
structure Instruction where
  mnemonic : Mnemonic
  /-- The address field, or the value of a literal word. -/
  address : Word := 0
  indirect : Bool := false
deriving DecidableEq, Repr

namespace Instruction

def encode (instruction : Instruction) : Except Error Word :=
  match instruction.mnemonic.operationClass with
  | .memory =>
      if addressMask < instruction.address.toNat then .error (.plain .invalidOperand)
      else
        .ok (instruction.mnemonic.memoryWord instruction.address.toNat instruction.indirect)
  | .register | .io =>
      if instruction.address ≠ 0 ∨ instruction.indirect = true then .error (.plain .extraTokens)
      else .ok instruction.mnemonic.fixedWord
  | .data =>
      if instruction.indirect = true then .error (.plain .extraTokens)
      else .ok instruction.address

/-- The register or input-output instruction that a word is. -/
def fixedMnemonic? (word : Word) : Option Mnemonic :=
  Mnemonic.all.find? fun mnemonic =>
    match mnemonic.operation with
    | .register fixed => fixed == word
    | .io fixed => fixed == word
    | _ => false

/-- The memory reference that has an opcode nibble in an addressing mode. -/
def memoryMnemonic? (nibble : Nat) (indirect : Bool) : Option Mnemonic :=
  Mnemonic.all.find? fun mnemonic =>
    mnemonic.operationClass == .memory && mnemonic.nibble indirect == nibble

def decode (word : Word) : Except Error Instruction :=
  if word.nibble = 0x7 ∨ word.nibble = 0xF then
    match fixedMnemonic? word with
    | some mnemonic => .ok { mnemonic := mnemonic }
    | none => .error (.opcodeUnknown word)
  else
    match memoryMnemonic? word.nibble word.indirectBit with
    | some mnemonic =>
        .ok ⟨mnemonic, UInt16.ofNat word.addressField, word.indirectBit⟩
    | none => .error (.opcodeUnknown word)

def text (instruction : Instruction) : Bytes :=
  match instruction.mnemonic.operationClass with
  | .memory =>
      instruction.mnemonic.text ++ 0x20 :: upperHex 3 instruction.address.toNat ++
        (if instruction.indirect then Bytes.ofString " I" else [])
  | .data =>
      match instruction.mnemonic with
      | .dec => instruction.mnemonic.text ++ 0x20 :: signedDecimal instruction.address.toSigned
      | _ => instruction.mnemonic.text ++ 0x20 :: upperHex 4 instruction.address.toNat
  | _ => instruction.mnemonic.text

end Instruction

/-- An instruction whose mnemonic is given by number. -/
structure NumberedInstruction where
  number : Int
  address : Word
  indirect : Bool
deriving DecidableEq, Repr

namespace NumberedInstruction

/-- The instruction, if its number is a position of the table. -/
def instruction? (numbered : NumberedInstruction) : Option Instruction :=
  match Mnemonic.atNumber numbered.number with
  | .ok mnemonic => some ⟨mnemonic, numbered.address, numbered.indirect⟩
  | .error _ => none

def encode (numbered : NumberedInstruction) : Except Error Word :=
  match numbered.instruction? with
  | some instruction => instruction.encode
  | none => .error (.plain .unknownMnemonic)

def text (numbered : NumberedInstruction) : Bytes :=
  match numbered.instruction? with
  | some instruction => instruction.text
  | none => Mnemonic.nameOfNumber numbered.number

end NumberedInstruction

end BasicComputer
