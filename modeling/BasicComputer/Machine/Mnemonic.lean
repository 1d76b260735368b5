import BasicComputer.Machine.Word
import BasicComputer.Text.Numeral

/-!
Contract: the opcode table of the basic computer.

Every mnemonic has a name and an operation. Memory-reference instructions have
an opcode nibble for each addressing mode, register and input-output
instructions are complete words, and data directives have a number base.

The mnemonics are numbered in table order. Owns the table, its look-ups by name
and by number, and the classes.
-/

namespace BasicComputer

open Text

/-- An instruction or data directive name. -/
inductive Mnemonic where
  | and | add | lda | sta | bun | bsa | isz
  | cla | cle | cma | cme | cir | cil | inc | spa | sna | sza | sze | hlt
  | inp | out | ski | sko | ion | iof
  | hex | dec
deriving DecidableEq, Repr

inductive OperationClass where
  | memory
  | register
  | io
  | data
deriving DecidableEq, Repr

/-- What a mnemonic encodes to. -/
inductive Operation where
  /-- A memory reference, with its opcode nibble for direct addressing. -/
  | memory (nibble : Nat)
  | register (word : Word)
  | io (word : Word)
  /-- A literal word written in a base. -/
  | data (base : Nat)
deriving DecidableEq, Repr

namespace OperationClass

/-- All classes, in numbering order. -/
def all : List OperationClass :=
  [.memory, .register, .io, .data]

def name : OperationClass → String
  | .memory => "memory"
  | .register => "register"
  | .io => "io"
  | .data => "data"

def ofNumber? (number : Int) : Option OperationClass :=
  if number < 0 then none else all[number.toNat]?

/-- The name of the class with a number, or a text that shows the number. -/
def nameOfNumber (number : Int) : Bytes :=
  match ofNumber? number with
  | some operationClass => Bytes.ofString operationClass.name
  | none => Bytes.ofString "CodeClass(" ++ signedDecimal number ++ Bytes.ofString ")"

end OperationClass

def Operation.operationClass : Operation → OperationClass
  | .memory _ => .memory
  | .register _ => .register
  | .io _ => .io
  | .data _ => .data

namespace Mnemonic

/-- All mnemonics, in numbering order. -/
def all : List Mnemonic :=
  [.and, .add, .lda, .sta, .bun, .bsa, .isz,
    .cla, .cle, .cma, .cme, .cir, .cil, .inc, .spa, .sna, .sza, .sze, .hlt,
    .inp, .out, .ski, .sko, .ion, .iof,
    .hex, .dec]

def name : Mnemonic → String
  | .and => "AND" | .add => "ADD" | .lda => "LDA" | .sta => "STA"
  | .bun => "BUN" | .bsa => "BSA" | .isz => "ISZ"
  | .cla => "CLA" | .cle => "CLE" | .cma => "CMA" | .cme => "CME"
  | .cir => "CIR" | .cil => "CIL" | .inc => "INC" | .spa => "SPA"
  | .sna => "SNA" | .sza => "SZA" | .sze => "SZE" | .hlt => "HLT"
  | .inp => "INP" | .out => "OUT" | .ski => "SKI" | .sko => "SKO"
  | .ion => "ION" | .iof => "IOF"
  | .hex => "HEX" | .dec => "DEC"

def text (mnemonic : Mnemonic) : Bytes :=
  Bytes.ofString mnemonic.name

def operation : Mnemonic → Operation
  | .and => .memory 0x0
  | .add => .memory 0x1
  | .lda => .memory 0x2
  | .sta => .memory 0x3
  | .bun => .memory 0x4
  | .bsa => .memory 0x5
  | .isz => .memory 0x6
  | .cla => .register 0x7800
  | .cle => .register 0x7400
  | .cma => .register 0x7200
  | .cme => .register 0x7100
  | .cir => .register 0x7080
  | .cil => .register 0x7040
  | .inc => .register 0x7020
  | .spa => .register 0x7010
  | .sna => .register 0x7008
  | .sza => .register 0x7004
  | .sze => .register 0x7002
  | .hlt => .register 0x7001
  | .inp => .io 0xF800
  | .out => .io 0xF400
  | .ski => .io 0xF200
  | .sko => .io 0xF100
  | .ion => .io 0xF080
  | .iof => .io 0xF040
  | .hex => .data 16
  | .dec => .data 10

def operationClass (mnemonic : Mnemonic) : OperationClass :=
  mnemonic.operation.operationClass

/-- The number base of a literal operand; 0 where there is no operand. -/
def base (mnemonic : Mnemonic) : Nat :=
  match mnemonic.operation with
  | .memory _ => 16
  | .data base => base
  | _ => 0

/-- The opcode nibble of a memory reference in an addressing mode; 0 for other
mnemonics. -/
def nibble (mnemonic : Mnemonic) (indirect : Bool) : Nat :=
  match mnemonic.operation with
  | .memory nibble => if indirect then nibble + 8 else nibble
  | _ => 0

/-- The complete word of a register or input-output instruction; 0 for other
mnemonics. -/
def fixedWord (mnemonic : Mnemonic) : Word :=
  match mnemonic.operation with
  | .register word => word
  | .io word => word
  | _ => 0

def memoryWord (mnemonic : Mnemonic) (address : Nat) (indirect : Bool) : Word :=
  Word.ofFields (mnemonic.nibble indirect) address

/-- The mnemonic with a name. Names are case sensitive. -/
def ofText? (name : Bytes) : Option Mnemonic :=
  all.find? fun mnemonic => mnemonic.text == name

/-- The position of a mnemonic in the table. -/
def number (mnemonic : Mnemonic) : Nat :=
  all.findIdx (· == mnemonic)

/-- Why a number is no position of the table. -/
inductive NumberFault where
  | negative (number : Int)
  | tooLarge (number : Int)
deriving DecidableEq, Repr

def NumberFault.message : NumberFault → Bytes
  | .negative number =>
      Bytes.ofString "runtime error: index out of range [" ++ signedDecimal number ++
        Bytes.ofString "]"
  | .tooLarge number =>
      Bytes.ofString "runtime error: index out of range [" ++ signedDecimal number ++
        Bytes.ofString "] with length " ++ decimal all.length

def atNumber (number : Int) : Except NumberFault Mnemonic :=
  if number < 0 then .error (.negative number)
  else
    match all[number.toNat]? with
    | some mnemonic => .ok mnemonic
    | none => .error (.tooLarge number)

def isNumber (number : Int) : Bool :=
  match atNumber number with
  | .ok _ => true
  | .error _ => false

def nameOfNumber (number : Int) : Bytes :=
  match atNumber number with
  | .ok mnemonic => mnemonic.text
  | .error _ => Bytes.ofString "Mnemonic(" ++ signedDecimal number ++ Bytes.ofString ")"

end Mnemonic

end BasicComputer
