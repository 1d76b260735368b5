import BasicComputer.Text.Bytes

/-!
Contract: the syntax tree of the expression language.

A program is a list of statements, and expressions are trees whose names have
not been given a meaning. Parentheses are kept, because a parenthesised name is
not a keyword of an argument. A sum of several summands is one tree, in which
neighbouring literals of one kind have been joined.
-/

namespace BasicComputer.Expression

inductive UnaryOperator where
  | plus
  | minus
  | invert
  | negate
deriving DecidableEq, Repr

/-- Operators on two operands, both of which are always evaluated. -/
inductive BinaryOperator where
  | add | subtract | multiply | divide | floorDivide | remainder
  | bitAnd | bitOr | bitXor | shiftLeft | shiftRight
  | equal | notEqual | less | greater | lessEqual | greaterEqual
  | member | notMember
deriving DecidableEq, Repr

inductive Argument (Item : Type) where
  | positional (value : Item)
  | named (name : Bytes) (value : Item)
  /-- The elements of a sequence as positional arguments. -/
  | spread (value : Item)
  /-- The entries of a dictionary as named arguments. -/
  | spreadNamed (value : Item)

inductive Parameter (Item : Type) where
  | required (name : Bytes)
  | optional (name : Bytes) (default : Item)
  /-- Takes the remaining positional arguments, or only ends the positional
  parameters if it has no name. -/
  | rest (name : Option Bytes)
  /-- Takes the remaining named arguments. -/
  | restNamed (name : Bytes)

inductive Clause (Target Item : Type) where
  | each (target : Target) (source : Item)
  | onlyIf (condition : Item)

inductive Tree where
  | name (name : Bytes)
  | integer (value : Nat)
  | float (value : Float)
  | text (value : Bytes)
  | bytes (value : Bytes)
  | list (items : List Tree)
  | tuple (items : List Tree)
  | dict (entries : List (Tree × Tree))
  | paren (inner : Tree)
  | unary (operator : UnaryOperator) (operand : Tree)
  | binary (operator : BinaryOperator) (left right : Tree)
  /-- A sum; the summands are kept last one first. -/
  | sum (summands : List Tree)
  | both (left right : Tree)
  | either (left right : Tree)
  | choice (condition yes no : Tree)
  | attribute (object : Tree) (name : Bytes)
  | index (object position : Tree)
  | slice (object : Tree) (low high step : Option Tree)
  | call (function : Tree) (arguments : List (Argument Tree))
  | listOf (item : Tree) (clauses : List (Clause Tree Tree))
  | dictOf (key value : Tree) (clauses : List (Clause Tree Tree))
  | lambda (parameters : List (Parameter Tree)) (body : Tree)

/-- An expression without the parentheses around it. -/
def Tree.unwrapped : Tree → Tree
  | .paren inner => inner.unwrapped
  | tree => tree

/-- Two literals of one kind as a single literal: texts, bytes, lists and
tuples. -/
def Tree.joined? : Tree → Tree → Option Tree
  | .text left, .text right => some (.text (left ++ right))
  | .bytes left, .bytes right => some (.bytes (left ++ right))
  | .list left, .list right => some (.list (left ++ right))
  | .tuple left, .tuple right => some (.tuple (left ++ right))
  | _, _ => none

/-- Summands with one more at the end, last one first. A literal after a literal
of its kind is joined with it. -/
def Tree.addSummand (right : Tree) : List Tree → List Tree
  | [] => [right]
  | last :: before =>
      match Tree.joined? last right with
      | some literal => literal :: before
      | none => right :: last :: before

/-- The sum of two expressions. A sum on the left, even in parentheses, goes on;
one on the right is a summand. -/
def Tree.plus (left right : Tree) : Tree :=
  match left.unwrapped with
  | .sum summands => .sum (Tree.addSummand right.unwrapped summands)
  | first => .sum (Tree.addSummand right.unwrapped [first])

inductive Statement where
  | assign (target value : Tree)
  | update (operator : BinaryOperator) (target value : Tree)
  | evaluate (value : Tree)
  | pass
  /-- Loads something under names of the program; each entry is such a name and the
  name of what is loaded. -/
  | load (entries : List (Bytes × Bytes))

end BasicComputer.Expression
