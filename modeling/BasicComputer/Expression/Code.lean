import BasicComputer.Expression.Primitive
import BasicComputer.Expression.Tree

/-!
Contract: expressions whose names have been given a meaning.

A variable is a slot of a function activation: the number of functions to go
out, and the position there. The variables of a comprehension are slots of the
function that contains it. Labels have become integers.
-/

namespace BasicComputer.Expression

/-- A value that is written down in a program. -/
inductive Constant where
  | none
  | bool (value : Bool)
  | integer (value : Int)
  | float (value : Float)
  | text (value : Bytes)
  | bytes (value : Bytes)
  | builtin (value : Builtin)

/-- The parameters of a function. Their slots are numbered in this order:
positional ones, those that can only be named, the rest, the named rest. -/
structure Signature where
  positional : List Bytes
  onlyNamed : List Bytes
  hasRest : Bool
  hasRestNamed : Bool
deriving DecidableEq, Repr

/-- The parameters that take one argument each. -/
def Signature.single (signature : Signature) : List Bytes :=
  signature.positional ++ signature.onlyNamed

mutual

/-- An expression with resolved names. -/
inductive Code where
  | constant (value : Constant)
  | slot (depth position : Nat)
  | global (name : Bytes)
  /-- The name of something loaded. It never has a value. -/
  | loaded
  | list (items : List Code)
  | tuple (items : List Code)
  | dict (entries : List (Code × Code))
  | unary (operator : UnaryOperator) (operand : Code)
  | binary (operator : BinaryOperator) (left right : Code)
  | both (left right : Code)
  | either (left right : Code)
  | choice (condition yes no : Code)
  | attribute (object : Code) (name : Bytes)
  | index (object position : Code)
  | slice (object : Code) (low high step : Option Code)
  | call (function : Code) (arguments : List (Argument Code))
  | listOf (item : Code) (clauses : List (Clause Target Code))
  | dictOf (key value : Code) (clauses : List (Clause Target Code))
  /-- A function: its number in the program, the number of its slots, its
  parameters, their defaults in the order of their slots, and its body. -/
  | lambda (number slots : Nat) (signature : Signature) (defaults : List (Option Code))
      (body : Code)

inductive Target where
  | slot (position : Nat)
  | global (name : Bytes)
  | sequence (targets : List Target)
  | item (object position : Code)
  /-- An attribute of an object. No value has one that can be assigned to. -/
  | attribute (object : Code)

end

/-- A statement with resolved names. -/
inductive Step where
  | assign (target : Target) (value : Code)
  | updateGlobal (operator : BinaryOperator) (name : Bytes) (value : Code)
  | updateItem (operator : BinaryOperator) (object position value : Code)
  | updateAttribute (object : Code) (name : Bytes) (value : Code)
  | evaluate (value : Code)
  /-- Loads something, which is never found. -/
  | load

/-- A script: its statements, the number of slots of its outermost level and
the number of its functions. -/
structure Script where
  steps : List Step
  slots : Nat
  functions : Nat

end BasicComputer.Expression
