import BasicComputer.Assembly.Assembler
import BasicComputer.Text.Search

/-!
Contract: what the expressions of a source print.

Printing has no influence on words and labels, so assembling does not know about
it. The printout is collected by a second pass over the lines that the assembler
processes. An expression can print only by naming the function that does, so
other lines are not evaluated again.
-/

namespace BasicComputer

open Text

namespace Body

/-- The expression that finding the value of an operand evaluates, if any. -/
def operandExpression? (labels : Labels) (base : Nat) (word : Bytes) : Option Bytes :=
  match readSigned base word with
  | .value _ => none
  | .outOfRange => none
  | .notNumeral => if (labels.find? word).isSome then none else expressionText? word

/-- The expression that encoding a body evaluates, if any. -/
def expression? (labels : Labels) (body : Bytes) : Option Bytes :=
  match fields body with
  | first :: operand :: more =>
      match Mnemonic.ofText? first with
      | some mnemonic =>
          match mnemonic.operationClass with
          | .memory => operandExpression? labels mnemonic.base operand
          | .data => if more = [] then operandExpression? labels mnemonic.base operand else none
          | .register | .io => none
      | none => none
  | _ => none

def printout (labels : Labels) (body : Bytes) : Bytes :=
  match expression? labels body with
  | some text => Expression.printout (labelValue? labels) text
  | none => []

end Body

namespace Assembler

def printName : Bytes := Bytes.ofString "print"

def linePrintout (assembler : Assembler) (text : Bytes) : Bytes :=
  match Line.parse text with
  | .error _ => []
  | .ok line =>
      match line.directive with
      | .instruction =>
          match assembler.bindLabel line.parts.label with
          | .error _ => []
          | .ok bound =>
              if bound.cursor < memorySize then Body.printout bound.labels line.parts.body
              else []
      | _ => []

/-- What the lines print until one of them ends the reading, after what is in
`done`, last part first. -/
def printoutFrom (assembler : Assembler) (done : List Bytes) : List Bytes → List Bytes
  | [] => done.reverse
  | text :: rest =>
      let done := if occursIn printName text then assembler.linePrintout text :: done else done
      match assembler.step 0 text with
      | (assembler, .proceed) => printoutFrom assembler done rest
      | (assembler, .emitted _) => printoutFrom assembler done rest
      | _ => done.reverse

/-- What the expressions of a source print while it is assembled. -/
def printout (assembler : Assembler) (source : Source) : Bytes :=
  let lines := source.lines ++ source.tail.toList
  if lines.any (occursIn printName) then (printoutFrom assembler.reset [] lines).flatten else []

end Assembler

end BasicComputer
