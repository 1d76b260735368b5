import BasicComputer.Expression.Inspection
import BasicComputer.Text.Search

/-!
Contract: texts with holes.

`interpolate` fills the `%` conversions of a text from a value: a tuple gives
one element to each conversion, a dictionary gives named entries, and any other
value goes to the single conversion. Only a dictionary may be left unused.
`fillFields` fills the replacement fields between braces from the arguments of a
call.
-/

namespace BasicComputer.Expression

open Text

/-- The integer that a number is or is cut down to. -/
def integerOf? : Value → Option Int
  | .integer value => some value
  | .float value => Decimal.truncate? value
  | _ => none

def floatOf? : Value → Option Float
  | .integer value => some (Decimal.ofInt value)
  | .float value => some value
  | _ => none

/-- The integer that a value is, if it has at most 32 bits. -/
def int32? : Value → Option Int
  | .integer value => if -2147483648 ≤ value ∧ value ≤ 2147483647 then some value else none
  | _ => none

def integerText (upper : Bool) (base : Nat) (value : Int) : Bytes :=
  let digit := if upper then upperDigitByte else digitByte
  let magnitude := (digits base value.natAbs).map digit
  if value < 0 then 0x2D :: magnitude else magnitude

/-- A number under the conversion `%F`, which shows itself in place of a finite
number. -/
def capitalFixed (number : Float) : Bytes :=
  if Decimal.isFinite number then [0x25, 0x46] else Decimal.written .fixed 0x65 number

def convert? (store : Store) (conversion : UInt8) (value : Value) : Option Bytes :=
  match conversion with
  | 0x73 => some (value.displayed store)
  | 0x72 => some (value.shown store)
  | 0x64 => (integerOf? value).map (integerText false 10)
  | 0x69 => (integerOf? value).map (integerText false 10)
  | 0x6F => (integerOf? value).map (integerText false 8)
  | 0x78 => (integerOf? value).map (integerText false 16)
  | 0x58 => (integerOf? value).map (integerText true 16)
  | 0x65 => (floatOf? value).map (Decimal.written .exponential 0x65)
  | 0x45 => (floatOf? value).map (Decimal.written .exponential 0x45)
  | 0x66 => (floatOf? value).map (Decimal.written .fixed 0x65)
  | 0x46 => (floatOf? value).map capitalFixed
  | 0x67 => (floatOf? value).map (Decimal.written .general 0x65)
  | 0x47 => (floatOf? value).map (Decimal.written .general 0x45)
  | 0x63 =>
      match value with
      | .integer _ =>
          match int32? value with
          | some code => if 0 ≤ code ∧ code ≤ 0x10FFFF then some (encodePoint code.toNat) else none
          | none => none
      | .text text =>
          match characters text with
          | [character] => some (encodePoint character.code)
          | _ => none
      | _ => none
  | 0x25 => some [0x25]
  | _ => none

def namedEntry? (store : Store) (value : Value) (name : Bytes) : Option Value :=
  match value with
  | .dict reference =>
      (Value.lookup? store (Value.dictAt store reference) (.text name)).join
  | _ => none

/-- Fills the conversions of a text. `used` counts the conversions so far, and
`fuel` bounds the number of bytes. -/
def interpolateFrom (store : Store) (source : Value) (fuel used : Nat) (done : Bytes)
    (text : Bytes) : Option (Bytes × Nat) :=
  match fuel, text with
  | _, [] => some (done.reverse, used)
  | 0, _ => none
  | fuel + 1, 0x25 :: 0x25 :: rest =>
      interpolateFrom store source fuel used (0x25 :: done) rest
  | fuel + 1, 0x25 :: 0x28 :: rest =>
      match Bytes.cutByte? 0x29 rest with
      | none => none
      | some (name, after) =>
          match namedEntry? store source name, after with
          | some value, conversion :: rest =>
              match convert? store conversion value with
              | some shown =>
                  interpolateFrom store source fuel (used + 1) (shown.reverse ++ done) rest
              | none => none
          | _, _ => none
  | fuel + 1, 0x25 :: rest =>
      let value :=
        match source with
        | .tuple items => items[used]?
        | value => if used = 0 then some value else none
      match value, rest with
      | some value, conversion :: rest =>
          match convert? store conversion value with
          | some shown =>
              interpolateFrom store source fuel (used + 1) (shown.reverse ++ done) rest
          | none => none
      | _, _ => none
  | fuel + 1, byte :: rest => interpolateFrom store source fuel used (byte :: done) rest

/-- Fills the conversions of a text from a value. No part of the value may be left
over unless it is a dictionary. -/
def interpolate? (store : Store) (text : Bytes) (source : Value) : Option Bytes :=
  let available :=
    match source with
    | .tuple items => items.length
    | .dict _ => 0
    | _ => 1
  match interpolateFrom store source text.length 0 [] text with
  | some (result, used) => if used < available then none else some result
  | none => none

/-- How the fields of a text have been numbered so far. -/
inductive Numbering where
  | undecided
  | automatic (next : Nat)
  | manual
deriving DecidableEq

/-- The parts of a replacement field: its name, its conversion, and whether it
has a format specification. -/
def fieldParts (field : Bytes) : Bytes × Bytes × Bool :=
  match Bytes.cutByte? 0x21 field with
  | some (name, tail) =>
      match Bytes.cutByte? 0x3A tail with
      | some (conversion, specification) => (name, conversion, !specification.isEmpty)
      | none => (name, tail, false)
  | none =>
      match Bytes.cutByte? 0x3A field with
      | some (name, specification) => (name, [0x73], !specification.isEmpty)
      | none => (field, [0x73], false)

/-- The number that digits alone write, read in 64 bits. It is none if it turns
negative on the way. -/
def positionOf? (name : Bytes) : Option Nat :=
  name.foldlM
    (fun (number : Nat) byte =>
      match digitOf? 10 byte with
      | some digit =>
          let next := wrap64 (10 * number + digit)
          if next < 0 then none else some next.toNat
      | none => none) 0

/-- The argument of a field, and the numbering after it. -/
def fieldValue? (arguments : Arguments) (numbering : Numbering) (name : Bytes) :
    Option (Value × Numbering) :=
  if name.isEmpty then
    match numbering with
    | .manual => none
    | .undecided => arguments.positional[0]?.map fun value => (value, .automatic 1)
    | .automatic next => arguments.positional[next]?.map fun value => (value, .automatic (next + 1))
  else
    match positionOf? name with
    | some position =>
        match numbering with
        | .automatic _ => none
        | _ => arguments.positional[position]?.map fun value => (value, .manual)
    | none => (arguments.named.lookup name).map fun value => (value, numbering)

/-- Fills the fields of a text. `fuel` bounds the number of bytes. -/
def fillFrom (store : Store) (arguments : Arguments) (fuel : Nat) (numbering : Numbering)
    (done : Bytes) (text : Bytes) : Option Bytes :=
  match fuel, text with
  | _, [] => some done.reverse
  | 0, _ => none
  | fuel + 1, 0x7D :: 0x7D :: rest =>
      fillFrom store arguments fuel numbering (0x7D :: done) rest
  | _ + 1, 0x7D :: _ => none
  | fuel + 1, 0x7B :: 0x7B :: rest =>
      fillFrom store arguments fuel numbering (0x7B :: done) rest
  | fuel + 1, 0x7B :: rest =>
      match Bytes.cutByte? 0x7D rest with
      | none => none
      | some (field, after) =>
          let (name, conversion, specified) := fieldParts field
          match fieldValue? arguments numbering name with
          | none => none
          | some (value, numbering) =>
              if specified then none
              else
                let shown :=
                  if conversion = [0x73] then some (value.displayed store)
                  else if conversion = [0x72] then some (value.shown store)
                  else none
                match shown with
                | some shown =>
                    fillFrom store arguments fuel numbering (shown.reverse ++ done) after
                | none => none
  | fuel + 1, byte :: rest => fillFrom store arguments fuel numbering (byte :: done) rest

def fillFields? (store : Store) (arguments : Arguments) (text : Bytes) : Option Bytes :=
  fillFrom store arguments text.length .undecided [] text

end BasicComputer.Expression
