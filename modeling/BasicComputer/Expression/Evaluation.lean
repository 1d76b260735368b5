import BasicComputer.Expression.Builtins
import BasicComputer.Expression.Parser
import BasicComputer.Expression.Scope

/-!
Contract: running a script, and the value of an operand expression.

`evaluate` goes over the resolved tree and takes calls from a parameter, so it is
recursion on the tree. `callAt` supplies that parameter and is recursion on a
bound for the depth of calls. A function that is running cannot be called again,
so the depth is bounded by the number of functions: between two calls of
functions of the script at most two built-in functions are entered.

An expression `E` is the script `rc=E`. Its value is the integer that the name
`rc` has at the end.
-/

namespace BasicComputer.Expression

/-- What an expression is evaluated in: the starts of the activations around it,
innermost first, the numbers of the functions that are running, and how
functions are called. -/
structure Context where
  activations : List Nat
  running : List Nat
  call : Caller

def Context.cell (context : Context) (depth position : Nat) : Eval Nat := do
  match context.activations[depth]? with
  | some start => return start + position
  | none => failure

/-- The named arguments that the entries of a dictionary give. -/
def namedEntries : List (Value × Value) → Option (List (Bytes × Value))
  | [] => some []
  | (.text name, value) :: rest => (namedEntries rest).map ((name, value) :: ·)
  | _ => none

mutual

def evaluate (context : Context) : Code → Eval Value
  | .constant value => pure value.value
  | .slot depth position => do
      Eval.cell (← context.cell depth position)
  | .global name => Eval.global name
  | .loaded => failure
  | .list items => do Eval.newList (← evaluateAll context items)
  | .tuple items => do return .tuple (← evaluateAll context items)
  | .dict entries => do
      let reference ← Eval.newDict {}
      evaluateEntries context reference entries
      return .dict reference
  | .unary operator operand => do
      unaryOperation operator (← evaluate context operand)
  | .binary operator left right => do
      let left ← evaluate context left
      let right ← evaluate context right
      binaryOperation operator left right
  | .both left right => do
      let left ← evaluate context left
      if ← isTrue left then evaluate context right else return left
  | .either left right => do
      let left ← evaluate context left
      if ← isTrue left then return left else evaluate context right
  | .choice condition yes no => do
      if ← isTrue (← evaluate context condition) then evaluate context yes
      else evaluate context no
  | .attribute object name => do
      match ← attributeValue? (← evaluate context object) name with
      | some value => return value
      | none => failure
  | .index object position => do
      let object ← evaluate context object
      let position ← evaluate context position
      indexValue object position
  | .slice object low high step => do
      let object ← evaluate context object
      let low ← evaluateOptional context low
      let high ← evaluateOptional context high
      let step ← evaluateOptional context step
      sliceValue object low high step
  | .call function arguments => do
      let function ← evaluate context function
      let arguments ← evaluateArguments context ⟨[], []⟩ arguments
      context.call context.running function arguments
  | .listOf item clauses => do
      let items ← evaluateClauses context (do return [(← evaluate context item)]) clauses
      Eval.newList items
  | .dictOf key value clauses => do
      let reference ← Eval.newDict {}
      let _ ← evaluateClauses context
        (do
          let key ← evaluate context key
          let value ← evaluate context value
          let _ ← setKey reference key value
          return [])
        clauses
      return .dict reference
  | .lambda number slots signature defaults body => do
      let defaults ← evaluateDefaults context defaults
      let identity ← Eval.freshIdentity
      return .function identity ⟨number, slots, signature, body⟩ defaults context.activations

def evaluateAll (context : Context) : List Code → Eval (List Value)
  | [] => pure []
  | item :: rest => do
      let value ← evaluate context item
      let values ← evaluateAll context rest
      return value :: values

/-- Adds entries to a dictionary, no key twice. -/
def evaluateEntries (context : Context) (reference : Nat) : List (Code × Code) → Eval Unit
  | [] => pure ()
  | (key, value) :: rest => do
      let key ← evaluate context key
      let value ← evaluate context value
      if ← setKey reference key value then failure
      evaluateEntries context reference rest

def evaluateOptional (context : Context) : Option Code → Eval Value
  | none => pure .none
  | some code => evaluate context code

/-- The values of arguments, after those in `done`. -/
def evaluateArguments (context : Context) (done : Arguments) :
    List (Argument Code) → Eval Arguments
  | [] => pure done
  | .positional value :: rest => do
      let value ← evaluate context value
      evaluateArguments context { done with positional := done.positional ++ [value] } rest
  | .named name value :: rest => do
      let value ← evaluate context value
      evaluateArguments context { done with named := done.named ++ [(name, value)] } rest
  | .spread value :: rest => do
      let source ← evaluate context value
      let done ← evaluateArguments context done rest
      return { done with positional := done.positional ++ (← elements source) }
  | .spreadNamed value :: rest => do
      match ← evaluate context value with
      | .dict reference =>
          let object ← Eval.dictObject reference
          let named ← Eval.ofOption (namedEntries object.entries)
          evaluateArguments context { done with named := done.named ++ named } rest
      | _ => failure

def evaluateDefaults (context : Context) : List (Option Code) → Eval (List (Option Value))
  | [] => pure []
  | none :: rest => do return none :: (← evaluateDefaults context rest)
  | some code :: rest => do
      let value ← evaluate context code
      return some value :: (← evaluateDefaults context rest)

/-- Runs a body for every choice of elements that the clauses of a comprehension
allow, and collects its results. -/
def evaluateClauses (context : Context) (body : Eval (List Value)) :
    List (Clause Target Code) → Eval (List Value)
  | [] => body
  | .each target source :: rest => do
      let source ← evaluate context source
      let items ← sequence source
      Eval.locked source do
        let results ← Eval.collect
          (fun item => do
            assign context target item
            evaluateClauses context body rest) items
        return results.flatten
  | .onlyIf condition :: rest => do
      if ← isTrue (← evaluate context condition) then evaluateClauses context body rest
      else return []

def assign (context : Context) : Target → Value → Eval Unit
  | .slot position, value => do
      Eval.setCell (← context.cell 0 position) value
  | .global name, value => Eval.setGlobal name value
  | .sequence targets, value => do
      let items ← sequence value
      if items.length ≠ targets.length then failure
      assignAll context targets items.toList
  | .item object position, value => do
      let object ← evaluate context object
      let position ← evaluate context position
      setIndexValue object position value
  | .attribute object, _ => do
      let _ ← evaluate context object
      failure

def assignAll (context : Context) : List Target → List Value → Eval Unit
  | [], [] => pure ()
  | target :: targets, value :: values => do
      assign context target value
      assignAll context targets values
  | _, _ => failure

end

/-- Fills the parameters that have no value with their defaults. -/
def fillDefaults? : List (Option Value) → List (Option Value) → Option (List Value)
  | [], _ => some []
  | some value :: slots, defaults => (fillDefaults? slots (defaults.drop 1)).map (value :: ·)
  | none :: slots, some default :: defaults =>
      (fillDefaults? slots defaults).map (default :: ·)
  | none :: _, _ => none

/-- Distributes named arguments: to the parameters of their names, and the rest
to the named rest if there is one. -/
def placeAllNamed? (signature : Signature) (slots : List (Option Value))
    (others : List (Bytes × Value)) : List (Bytes × Value) →
      Option (List (Option Value) × List (Bytes × Value))
  | [] => some (slots, others.reverse)
  | (name, value) :: rest =>
      if signature.single.contains name then
        match Arguments.placeNamed? name value signature.single slots with
        | some slots => placeAllNamed? signature slots others rest
        | none => none
      else if signature.hasRestNamed && (others.lookup name).isNone then
        placeAllNamed? signature slots ((name, value) :: others) rest
      else none

/-- The values of the slots of the parameters of a function: one for each single
parameter, the positional rest, and the named rest. -/
def bindArguments (signature : Signature) (defaults : List (Option Value))
    (arguments : Arguments) : Eval (List Value) := do
  let count := signature.positional.length
  let direct := arguments.positional.take count
  let surplus := arguments.positional.drop count
  if !surplus.isEmpty && !signature.hasRest then failure
  let slots := direct.map some ++ List.replicate (signature.single.length - direct.length) none
  let (slots, others) ← Eval.ofOption (placeAllNamed? signature slots [] arguments.named)
  let single ← Eval.ofOption (fillDefaults? slots defaults)
  let rest := if signature.hasRest then [Value.tuple surplus] else []
  if signature.hasRestNamed then
    let restNamed ← Eval.newDict {}
    setPairs restNamed (others.map fun entry => (.text entry.1, entry.2))
    return single ++ rest ++ [.dict restNamed]
  else return single ++ rest

def setCells (start : Nat) : List Value → Eval Unit
  | [] => pure ()
  | value :: rest => do
      Eval.setCell start value
      setCells (start + 1) rest

/-- Calls a value, where calls may be nested up to a depth. -/
def callAt : Nat → Caller
  | 0, _, _, _ => failure
  | depth + 1, running, function, arguments =>
      match function with
      | .builtin builtin => runBuiltin (callAt depth running) builtin arguments
      | .method _ method receiver => runMethod method receiver arguments
      | .function _ routine defaults activations => do
          -- the language has no recursion
          if running.contains routine.number then failure
          let values ← bindArguments routine.signature defaults arguments
          let start ← Eval.newCells routine.slots
          setCells start values
          evaluate ⟨start :: activations, routine.number :: running, callAt depth⟩ routine.body
      | _ => failure

/-- A depth of nested calls that a script with a number of functions cannot
exceed. -/
def callDepth (functions : Nat) : Nat :=
  3 * functions + 3

def runStep (context : Context) : Step → Eval Unit
  | .assign target value => do
      let value ← evaluate context value
      assign context target value
  | .updateGlobal operator name value => do
      let old ← Eval.global name
      let value ← evaluate context value
      Eval.setGlobal name (← binaryOperation operator old value)
  | .updateItem operator object position value => do
      let object ← evaluate context object
      let position ← evaluate context position
      let old ← indexValue object position
      let value ← evaluate context value
      let result ←
        match operator, old, value with
        | .add, .list reference, value => do
            let more ← elements value
            Eval.changeList reference fun items => items.appendList more
            pure old
        | .bitOr, .dict reference, .dict other => do
            let more ← Eval.dictObject other
            let store ← get
            Eval.changeDict reference fun dict => union store dict more.entries
            pure old
        | operator, old, value => binaryOperation operator old value
      setIndexValue object position result
  | .updateAttribute object name value => do
      match ← attributeValue? (← evaluate context object) name with
      | some _ =>
          let _ ← evaluate context value
          failure
      | none => failure
  | .evaluate value => do
      let _ ← evaluate context value
  | .load => failure

def runSteps (context : Context) : List Step → Eval Unit
  | [] => pure ()
  | step :: rest => do
      runStep context step
      runSteps context rest

def Script.run (script : Script) : Eval Unit := do
  let start ← Eval.newCells script.slots
  runSteps ⟨[start], [], callAt (callDepth script.functions)⟩ script.steps

/-- The name that an operand expression is assigned to. -/
def resultName : Bytes := Bytes.ofString "rc"

/-- The script of an operand expression, if it is well formed under labels. -/
def script? (label? : Bytes → Option Int) (text : Bytes) : Option Script :=
  match tokens? (resultName ++ 0x3D :: text) with
  | none => none
  | some tokens =>
      match statements? tokens with
      | none => none
      | some statements => resolveScript? label? statements

/-- What becomes of an operand expression. -/
inductive Outcome where
  | value (value : Int)
  /-- It is not well formed, fails, or has no integer of at most 64 bits. -/
  | invalid
  /-- It asks for more than there can be. -/
  | broken (reason : Bytes)
deriving DecidableEq, Repr

def Outcome.ofValue? (value : Option Value) : Outcome :=
  match value.bind int64? with
  | some number => .value number
  | none => .invalid

def Script.outcome (script : Script) : Outcome :=
  match script.run {} with
  | (some _, store) => .ofValue? (store.globals.lookup resultName)
  | (none, store) =>
      match store.breakdown with
      | some reason => .broken reason
      | none => .invalid

def outcome (label? : Bytes → Option Int) (text : Bytes) : Outcome :=
  match script? label? text with
  | none => .invalid
  | some script => script.outcome

/-- What an operand expression prints under labels, every line with its end, also
if it has no value. -/
def printout (label? : Bytes → Option Int) (text : Bytes) : Bytes :=
  match script? label? text with
  | none => []
  | some script => ((script.run {}).2.printed.reverse.map (· ++ [0x0A])).flatten

end BasicComputer.Expression
