import BasicComputer.Error
import BasicComputer.Text.Blank
import BasicComputer.Text.Numeral

/-!
Contract: source lines.

A line is `[LABEL,] BODY [// comment]`. Its body is nothing, `ORG address`,
`END`, or an instruction, which `Assembly.Body` looks into.
-/

namespace BasicComputer

open Text

structure LineParts where
  label : Bytes
  body : Bytes
deriving DecidableEq, Repr

/-- What a line asks for. -/
inductive Directive where
  | nothing
  | origin (address : Nat)
  | finish
  | instruction
deriving DecidableEq, Repr

structure Line where
  parts : LineParts
  directive : Directive
deriving DecidableEq, Repr

namespace Line

/-- The parts of a line: its comment is dropped, the first comma ends the label,
and both sides are trimmed. -/
def split (text : Bytes) : LineParts :=
  let statement := Bytes.beforePair 0x2F text
  match Bytes.cutByte? 0x2C statement with
  | some (label, body) => ⟨trim label, trim body⟩
  | none => ⟨[], trim statement⟩

def originWord : Bytes := Bytes.ofString "ORG"

def endWord : Bytes := Bytes.ofString "END"

/-- The address of an origin directive from its arguments. -/
def originAddress : List Bytes → Except Error Nat
  | [] => .error (.plain .missingOrigin)
  | [address] =>
      match readUnsigned 16 address with
      | .value number =>
          if number < memorySize then .ok number else .error (.plain .invalidOrigin)
      | _ => .error (.plain .invalidOrigin)
  | _ => .error (.plain .extraTokens)

/-- What a line asks for, by its parts, and what is wrong with it. A line that is wrong asks
for nothing, or for an origin if nothing but its address is wrong. -/
def judge (parts : LineParts) : Directive × Option Error :=
  if parts.label ≠ [] ∧ (fields parts.label).length ≠ 1 then
    (.nothing, some (.plain .labelInvalid))
  else
    match fields parts.body with
    | [] => (.nothing, if parts.label = [] then none else some (.plain .labelWithoutInstruction))
    | first :: arguments =>
        if first = originWord then
          if parts.label ≠ [] then (.nothing, some (.plain .labelOnDirective))
          else
            match originAddress arguments with
            | .ok address => (.origin address, none)
            -- an origin is recognized before its address is read
            | .error cause => (.origin 0, some cause)
        else if first = endWord then
          if parts.label ≠ [] then (.nothing, some (.plain .labelOnDirective))
          else if arguments ≠ [] then (.nothing, some (.plain .extraTokens))
          else (.finish, none)
        else (.instruction, none)

/-- Reads a line, and returns it also if it is wrong. -/
def read (text : Bytes) : Line × Option Error :=
  let parts := split text
  (⟨parts, (judge parts).1⟩, (judge parts).2)

/-- A line that is not wrong. -/
def parse (text : Bytes) : Except Error Line :=
  match read text with
  | (line, none) => .ok line
  | (_, some cause) => .error cause

end Line

end BasicComputer
