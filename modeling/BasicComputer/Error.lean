import BasicComputer.Machine.Word
import BasicComputer.Text.Numeral

/-!
Contract: everything that can go wrong, and the words for it.

An `Error` is a cause. Its text is given by `Error.message` alone, and its
classification by `Error.kind?` alone. Integers in messages are grouped by
thousands.

What can also break down is an `Attempt`: a breakdown is no failure, since nothing
is returned after it.
-/

namespace BasicComputer

open Text

/-- The kinds of failure that callers tell apart. -/
inductive ErrorKind where
  | missingOrigin
  | invalidOrigin
  | labelWithoutInstruction
  | labelInvalid
  | labelOnDirective
  | unknownMnemonic
  | missingOperand
  | invalidOperand
  | invalidIndirectFlag
  | extraTokens
  | labelDuplicate
  | programTooLarge
  | opcodeDecode
  | imageSize
  | format
  | define
  | lineTooLong
deriving DecidableEq, Repr

inductive Error where
  /-- A failure that its kind describes completely. -/
  | plain (kind : ErrorKind)
  /-- An operand names a label that is not bound. -/
  | labelMissing (name : Bytes)
  /-- The text of a `$(...)` operand has no integer value. -/
  | expressionInvalid (text : Bytes)
  | opcodeUnknown (word : Word)
  /-- A failure of the surroundings, reported as it is. -/
  | external (text : Bytes)
  | atLine (number : Int) (line : Bytes) (cause : Error)
  | inFile (name : Bytes) (cause : Error)
deriving DecidableEq, Repr

namespace ErrorKind

/-- All kinds, in the order in which they are reported. -/
def all : List ErrorKind :=
  [.missingOrigin, .invalidOrigin, .labelWithoutInstruction, .labelInvalid, .labelOnDirective,
    .unknownMnemonic, .missingOperand, .invalidOperand, .invalidIndirectFlag, .extraTokens,
    .labelDuplicate, .programTooLarge, .opcodeDecode, .imageSize, .format, .define, .lineTooLong]

def message : ErrorKind → String
  | .missingOrigin => "ORG must be followed by an address"
  | .invalidOrigin => "ORG must be followed by a valid address in hex"
  | .labelWithoutInstruction => "label must be followed by an instruction or value"
  | .labelInvalid => "label invalid"
  | .labelOnDirective => "label not permitted on a directive"
  | .unknownMnemonic => "instruction must have a valid symbol"
  | .missingOperand => "instruction must have an address or value"
  | .invalidOperand => "instruction must have a valid address or value"
  | .invalidIndirectFlag => "instruction has an invalid indirect flag"
  | .extraTokens => "excessive arguments"
  | .labelDuplicate => "label duplicated"
  | .programTooLarge => "program is too large to fit in memory"
  | .opcodeDecode => "decode"
  | .imageSize => "image size"
  | .format => "format must be one of bin, hex, or list"
  | .define => "define must be NAME=ADDR, with ADDR in hex"
  | .lineTooLong => "bufio.Scanner: token too long"

end ErrorKind

namespace Error

/-- The kind of a failure, if it has one. A missing label and an invalid
expression are invalid operands, and a wrapper has the kind of its cause. -/
def kind? : Error → Option ErrorKind
  | .plain kind => some kind
  | .labelMissing _ => some .invalidOperand
  | .expressionInvalid _ => some .invalidOperand
  | .opcodeUnknown _ => some .opcodeDecode
  | .external _ => none
  | .atLine _ _ cause => cause.kind?
  | .inFile _ cause => cause.kind?

def message : Error → Bytes
  | .plain kind => Bytes.ofString kind.message
  | .labelMissing name => Bytes.ofString "label " ++ name ++ Bytes.ofString " missing"
  | .expressionInvalid text =>
      Bytes.ofString "$(" ++ text ++ Bytes.ofString ") is not a valid expression"
  | .opcodeUnknown word => Bytes.ofString "bad opcode 0x" ++ lowerHex 4 word.toNat
  | .external text => text
  | .atLine number line cause =>
      Bytes.ofString "line " ++ groupedDecimal number ++ Bytes.ofString " '" ++ line ++
        Bytes.ofString "' " ++ cause.message
  | .inFile name cause => name ++ Bytes.ofString ": " ++ cause.message

end Error

/-- What an attempt comes to: a value, a failure that is returned to the caller, or a
breakdown, which returns nothing and is caught by nobody. -/
inductive Attempt (Cause Value : Type) where
  | ok (value : Value)
  | error (cause : Cause)
  | broken (reason : Bytes)
deriving DecidableEq, Repr

namespace Attempt

variable {Cause Value Result : Type}

def bind (attempt : Attempt Cause Value) (next : Value → Attempt Cause Result) :
    Attempt Cause Result :=
  match attempt with
  | .ok value => next value
  | .error cause => .error cause
  | .broken reason => .broken reason

instance : Monad (Attempt Cause) where
  pure := .ok
  bind := bind

@[simp] theorem ok_bind (value : Value) (next : Value → Attempt Cause Result) :
    (ok value >>= next) = next value := rfl

@[simp] theorem error_bind (cause : Cause) (next : Value → Attempt Cause Result) :
    (error cause >>= next) = error cause := rfl

@[simp] theorem broken_bind (reason : Bytes) (next : Value → Attempt Cause Result) :
    (broken reason >>= next) = broken reason := rfl

@[simp] theorem pure_eq (value : Value) : (pure value : Attempt Cause Value) = ok value := rfl

end Attempt

end BasicComputer
