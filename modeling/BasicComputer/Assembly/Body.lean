import BasicComputer.Assembly.Labels
import BasicComputer.Expression.Evaluation
import BasicComputer.Machine.Instruction
import BasicComputer.Text.Blank

/-!
Contract: the body of an instruction line as a word.

A body is a mnemonic and its arguments. A memory reference has an operand and an
optional indirect marker, a literal word has an operand, and other instructions
have no arguments. An operand is a numeral in the base of the mnemonic, else a
label, else an expression `$(...)`.
-/

namespace BasicComputer

open Text

namespace Body

/-- The text inside `$(` and `)`, unless there is none. -/
def expressionText? : Bytes → Option Bytes
  | 0x24 :: 0x28 :: first :: rest =>
      if (first :: rest).getLast? = some 0x29 ∧ rest ≠ [] then some ((first :: rest).dropLast)
      else none
  | _ => none

/-- The integer that a name stands for in an expression, if it is a label. -/
def labelValue? (labels : Labels) (name : Bytes) : Option Int :=
  (labels.find? name).map fun address => (address.toNat : Int)

def expressionValue (labels : Labels) (text : Bytes) : Attempt Error Int :=
  match Expression.outcome (labelValue? labels) text with
  | .value value => .ok value
  | .invalid => .error (.expressionInvalid text)
  | .broken reason => .broken reason

/-- The value of an operand that is no numeral. -/
def namedValue (labels : Labels) (word : Bytes) : Attempt Error Int :=
  match labels.find? word with
  | some address => .ok address.toNat
  | none =>
      match expressionText? word with
      | some text => expressionValue labels text
      | none => .error (.labelMissing word)

def operandValue (labels : Labels) (base : Nat) (word : Bytes) : Attempt Error Int :=
  match readSigned base word with
  | .value value => .ok value
  | .outOfRange => .error (.plain .invalidOperand)
  | .notNumeral => namedValue labels word

def indirectMarker : Bytes := Bytes.ofString "I"

/-- The addressing mode from what follows the operand of a memory reference. -/
def addressingMode : List Bytes → Attempt Error Bool
  | [] => .ok false
  | marker :: more =>
      if marker ≠ indirectMarker then .error (.plain .invalidIndirectFlag)
      else if more ≠ [] then .error (.plain .extraTokens)
      else .ok true

def within (least greatest value : Int) : Attempt Error Int :=
  if least ≤ value ∧ value ≤ greatest then .ok value else .error (.plain .invalidOperand)

def memoryWord (labels : Labels) (mnemonic : Mnemonic) : List Bytes → Attempt Error Word
  | [] => .error (.plain .missingOperand)
  | operand :: more => do
      let value ← operandValue labels mnemonic.base operand
      let address ← within 0 addressMask value
      let indirect ← addressingMode more
      return mnemonic.memoryWord address.toNat indirect

def dataWord (labels : Labels) (mnemonic : Mnemonic) : List Bytes → Attempt Error Word
  | [] => .error (.plain .missingOperand)
  | [operand] => do
      let value ← operandValue labels mnemonic.base operand
      let value ← within (-0x8000) 0xFFFF value
      return Word.ofInt value
  | _ => .error (.plain .extraTokens)

def encodeWith (labels : Labels) (mnemonic : Mnemonic) (arguments : List Bytes) :
    Attempt Error Word :=
  match mnemonic.operationClass with
  | .memory => memoryWord labels mnemonic arguments
  | .data => dataWord labels mnemonic arguments
  | .register | .io =>
      if arguments ≠ [] then .error (.plain .extraTokens) else .ok mnemonic.fixedWord

def encodeWords (labels : Labels) : List Bytes → Attempt Error Word
  | [] => .error (.plain .unknownMnemonic)
  | first :: arguments =>
      match Mnemonic.ofText? first with
      | some mnemonic => encodeWith labels mnemonic arguments
      | none => .error (.plain .unknownMnemonic)

def encode (labels : Labels) (body : Bytes) : Attempt Error Word :=
  encodeWords labels (fields body)

end Body

end BasicComputer
