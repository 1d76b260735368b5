import BasicComputer.Expression.Code

/-!
Contract: the meaning of names.

A name is looked up in the blocks around it, then among the names that the
program loads something under, then among those that it assigns at its outermost
level, then among the labels, then among the built-in names. A name that is found
nowhere makes the whole program invalid, also where it would never be evaluated.

A name is bound in all of its block, before and after the place that binds it.
The source of the first clause of a comprehension lies outside its block. A
global name is assigned at most once, and not after something has been loaded
under it.
-/

namespace BasicComputer.Expression

/-- The slots that a block binds. -/
abbrev Block := List (Bytes × Nat)

/-- What names mean at a place of the program. -/
structure Scope where
  /-- The blocks of each function around the place, innermost first, in one
  list per function. -/
  functions : List Block
  /-- The names that something is loaded under. -/
  loaded : List Bytes
  /-- The names assigned at the outermost level. -/
  globals : List Bytes
  label? : Bytes → Option Int

/-- What has been handed out while names are resolved. -/
structure Supply where
  nextFunction : Nat := 0
  nextSlot : Nat := 0

/-- Resolution of names. It fails on an invalid program. -/
abbrev Resolver := StateT Supply Option

/-- The slot of a name: the number of functions to go out, and the position. -/
def slotFrom (depth : Nat) (name : Bytes) : List Block → Option (Nat × Nat)
  | [] => none
  | block :: outer =>
      match block.lookup name with
      | some position => some (depth, position)
      | none => slotFrom (depth + 1) name outer

def builtinConstant? (name : Bytes) : Option Constant :=
  if name = Bytes.ofString "None" then some .none
  else if name = Bytes.ofString "True" then some (.bool true)
  else if name = Bytes.ofString "False" then some (.bool false)
  else (builtin? name).map .builtin

def Scope.code? (scope : Scope) (name : Bytes) : Option Code :=
  match slotFrom 0 name scope.functions with
  | some (depth, position) => some (.slot depth position)
  | none =>
      -- what is loaded or assigned anywhere in the program hides a label of its name
      if scope.loaded.contains name then some .loaded
      else if scope.globals.contains name then some (.global name)
      else
        match scope.label? name with
        | some address => some (.constant (.integer address))
        | none => (builtinConstant? name).map .constant

/-- The scope with more slots bound in the innermost function. -/
def Scope.extend (scope : Scope) (block : Block) : Scope :=
  { scope with
    functions :=
      match scope.functions with
      | [] => [block]
      | inner :: outer => (block ++ inner) :: outer }

def Scope.enter (scope : Scope) (block : Block) : Scope :=
  { scope with functions := block :: scope.functions }

mutual

/-- The names that an assignment to an expression binds. Other places than
names bind nothing; `none` if the expression cannot be assigned to. -/
def targetNames? : Tree → Option (List Bytes)
  | .name name => some [name]
  | .tuple items => targetNamesAll? items
  | .list items => targetNamesAll? items
  | .paren inner => targetNames? inner
  | .index _ _ => some []
  | .attribute _ _ => some []
  | _ => none

def targetNamesAll? : List Tree → Option (List Bytes)
  | [] => some []
  | item :: rest =>
      match targetNames? item, targetNamesAll? rest with
      | some first, some others => some (first ++ others)
      | _, _ => none

end

/-- The names that the clauses of a comprehension bind. -/
def clauseNames? : List (Clause Tree Tree) → Option (List Bytes)
  | [] => some []
  | .each target _ :: rest =>
      match targetNames? target, clauseNames? rest with
      | some first, some others => some (first ++ others)
      | _, _ => none
  | .onlyIf _ :: rest => clauseNames? rest

/-- A block that binds names to fresh slots, each name once. -/
def freshBlock : List Bytes → Block → Resolver Block
  | [], block => pure block
  | name :: rest, block => do
      if (block.lookup name).isSome then freshBlock rest block
      else
        let supply ← get
        set { supply with nextSlot := supply.nextSlot + 1 }
        freshBlock rest ((name, supply.nextSlot) :: block)

/-- The most arguments of one kind that a call may have. -/
def argumentLimit : Nat := 255

/-- What may follow the arguments seen so far. -/
structure ArgumentOrder where
  positional : Nat := 0
  named : List Bytes := []
  spread : Bool := false
  spreadNamed : Bool := false

/-- Whether arguments stand in an allowed order: positional ones, distinct named
ones, at most one spread sequence, at most one spread dictionary. -/
def argumentsAllowed (order : ArgumentOrder) : List (Argument Tree) → Bool
  | [] => order.positional ≤ argumentLimit && order.named.length ≤ argumentLimit
  | .positional _ :: rest =>
      !order.spread && !order.spreadNamed && order.named.isEmpty &&
        argumentsAllowed { order with positional := order.positional + 1 } rest
  | .named name _ :: rest =>
      !order.spread && !order.spreadNamed && !order.named.contains name &&
        argumentsAllowed { order with named := name :: order.named } rest
  | .spread _ :: rest =>
      !order.spread && !order.spreadNamed &&
        argumentsAllowed { order with spread := true } rest
  | .spreadNamed _ :: rest =>
      !order.spreadNamed && argumentsAllowed { order with spreadNamed := true } rest

/-- The parameters of a function while they are read from left to right. -/
structure ParameterList where
  positional : List Bytes := []
  onlyNamed : List Bytes := []
  seenOptional : Bool := false
  seenRest : Bool := false
  rest : Option Bytes := none
  restNamed : Option Bytes := none

/-- Reads the parameters of a function. Required positional parameters come
before optional ones, and nothing comes after the named rest. -/
def readParameters (list : ParameterList) : List (Parameter Tree) → Option ParameterList
  | [] => some list
  | .required name :: more =>
      if list.restNamed.isSome then none
      else if list.seenRest then
        readParameters { list with onlyNamed := list.onlyNamed ++ [name] } more
      else if list.seenOptional then none
      else readParameters { list with positional := list.positional ++ [name] } more
  | .optional name _ :: more =>
      if list.restNamed.isSome then none
      else if list.seenRest then
        readParameters { list with onlyNamed := list.onlyNamed ++ [name], seenOptional := true }
          more
      else
        readParameters { list with positional := list.positional ++ [name], seenOptional := true }
          more
  | .rest name :: more =>
      if list.restNamed.isSome || list.seenRest then none
      else readParameters { list with seenRest := true, rest := name } more
  | .restNamed name :: more =>
      if list.restNamed.isSome then none
      else readParameters { list with restNamed := some name } more

/-- The names of all parameters, in the order of their slots. -/
def ParameterList.names (list : ParameterList) : List Bytes :=
  list.positional ++ list.onlyNamed ++ list.rest.toList ++ list.restNamed.toList

/-- Whether a parameter list is complete and has no name twice. A nameless rest
must be followed by parameters that can only be named. -/
def ParameterList.isValid (list : ParameterList) : Bool :=
  list.names.eraseDups.length == list.names.length &&
    (!list.seenRest || list.rest.isSome || !list.onlyNamed.isEmpty)

def ParameterList.signature (list : ParameterList) : Signature :=
  ⟨list.positional, list.onlyNamed, list.rest.isSome, list.restNamed.isSome⟩

mutual

def resolve (scope : Scope) : Tree → Resolver Code
  | .name name =>
      match scope.code? name with
      | some code => pure code
      | none => failure
  | .integer value => pure (.constant (.integer value))
  | .float value => pure (.constant (.float value))
  | .text value => pure (.constant (.text value))
  | .bytes value => pure (.constant (.bytes value))
  | .list items => do return .list (← resolveAll scope items)
  | .tuple items => do return .tuple (← resolveAll scope items)
  | .dict entries => do return .dict (← resolvePairs scope entries)
  | .paren inner => resolve scope inner
  | .unary operator operand => do return .unary operator (← resolve scope operand)
  | .binary operator left right => do
      let left ← resolve scope left
      let right ← resolve scope right
      return .binary operator left right
  | .sum summands => do
      let codes ← resolveAll scope summands
      match codes.reverse with
      | [] => failure
      | first :: rest => return rest.foldl (.binary .add) first
  | .both left right => do
      let left ← resolve scope left
      let right ← resolve scope right
      return .both left right
  | .either left right => do
      let left ← resolve scope left
      let right ← resolve scope right
      return .either left right
  | .choice condition yes no => do
      let condition ← resolve scope condition
      let yes ← resolve scope yes
      let no ← resolve scope no
      return .choice condition yes no
  | .attribute object name => do return .attribute (← resolve scope object) name
  | .index object position => do
      let object ← resolve scope object
      let position ← resolve scope position
      return .index object position
  | .slice object low high step => do
      let object ← resolve scope object
      let low ← resolveOptional scope low
      let high ← resolveOptional scope high
      let step ← resolveOptional scope step
      return .slice object low high step
  | .call function arguments => do
      let function ← resolve scope function
      if !argumentsAllowed {} arguments then failure
      let arguments ← resolveArguments scope arguments
      return .call function arguments
  | .listOf item clauses => do
      match clauseNames? clauses with
      | none => failure
      | some names =>
          let block ← freshBlock names []
          let inner := scope.extend block
          let clauses ← resolveFirstClause scope inner clauses
          let item ← resolve inner item
          return .listOf item clauses
  | .dictOf key value clauses => do
      match clauseNames? clauses with
      | none => failure
      | some names =>
          let block ← freshBlock names []
          let inner := scope.extend block
          let clauses ← resolveFirstClause scope inner clauses
          let key ← resolve inner key
          let value ← resolve inner value
          return .dictOf key value clauses
  | .lambda parameters body => do
      let positionalDefaults ← resolveDefaults scope false parameters
      let namedDefaults ← resolveDefaults scope true parameters
      match readParameters {} parameters with
      | none => failure
      | some list =>
          if !list.isValid then failure
          let outside ← get
          set { nextFunction := outside.nextFunction + 1, nextSlot := 0 : Supply }
          let block ← freshBlock list.names []
          let body ← resolve (scope.enter block) body
          let inside ← get
          set { inside with nextSlot := outside.nextSlot }
          return .lambda outside.nextFunction inside.nextSlot list.signature
            (positionalDefaults ++ namedDefaults) body

def resolveAll (scope : Scope) : List Tree → Resolver (List Code)
  | [] => pure []
  | item :: rest => do
      let item ← resolve scope item
      let rest ← resolveAll scope rest
      return item :: rest

def resolvePairs (scope : Scope) : List (Tree × Tree) → Resolver (List (Code × Code))
  | [] => pure []
  | (key, value) :: rest => do
      let key ← resolve scope key
      let value ← resolve scope value
      let rest ← resolvePairs scope rest
      return (key, value) :: rest

def resolveOptional (scope : Scope) : Option Tree → Resolver (Option Code)
  | none => pure none
  | some tree => do return some (← resolve scope tree)

def resolveArguments (scope : Scope) : List (Argument Tree) → Resolver (List (Argument Code))
  | [] => pure []
  | .positional value :: rest => do
      let value ← resolve scope value
      return .positional value :: (← resolveArguments scope rest)
  | .named name value :: rest => do
      let value ← resolve scope value
      return .named name value :: (← resolveArguments scope rest)
  | .spread value :: rest => do
      let value ← resolve scope value
      return .spread value :: (← resolveArguments scope rest)
  | .spreadNamed value :: rest => do
      let value ← resolve scope value
      return .spreadNamed value :: (← resolveArguments scope rest)

/-- Resolves the defaults of the parameters before the rest parameter, or, if
`afterRest`, of those after it. A required parameter has none. -/
def resolveDefaults (scope : Scope) (afterRest : Bool) :
    List (Parameter Tree) → Resolver (List (Option Code))
  | [] => pure []
  | .required _ :: more => do
      if afterRest then resolveDefaults scope afterRest more
      else return none :: (← resolveDefaults scope afterRest more)
  | .optional _ default :: more => do
      if afterRest then resolveDefaults scope afterRest more
      else
        let default ← resolve scope default
        return some default :: (← resolveDefaults scope afterRest more)
  | .rest _ :: more =>
      if afterRest then resolveDefaults scope false more else pure []
  | .restNamed _ :: more => resolveDefaults scope afterRest more

/-- Resolves the clauses of a comprehension, the first source outside its
block. -/
def resolveFirstClause (outer inner : Scope) :
    List (Clause Tree Tree) → Resolver (List (Clause Target Code))
  | [] => pure []
  | .each target source :: rest => do
      let source ← resolve outer source
      let target ← resolveTarget inner target
      return .each target source :: (← resolveClauses inner rest)
  | .onlyIf condition :: rest => do
      let condition ← resolve inner condition
      return .onlyIf condition :: (← resolveClauses inner rest)

/-- Resolves the clauses of a comprehension inside its block. -/
def resolveClauses (scope : Scope) : List (Clause Tree Tree) → Resolver (List (Clause Target Code))
  | [] => pure []
  | .each target source :: rest => do
      let source ← resolve scope source
      let target ← resolveTarget scope target
      return .each target source :: (← resolveClauses scope rest)
  | .onlyIf condition :: rest => do
      let condition ← resolve scope condition
      return .onlyIf condition :: (← resolveClauses scope rest)

def resolveTarget (scope : Scope) : Tree → Resolver Target
  | .name name =>
      match slotFrom 0 name scope.functions with
      | some (0, position) => pure (.slot position)
      | some _ => failure
      | none => if scope.globals.contains name then pure (.global name) else failure
  | .tuple items => do return .sequence (← resolveTargets scope items)
  | .list items => do return .sequence (← resolveTargets scope items)
  | .paren inner => resolveTarget scope inner
  | .index object position => do
      let object ← resolve scope object
      let position ← resolve scope position
      return .item object position
  | .attribute object _ => do return .attribute (← resolve scope object)
  | _ => failure

def resolveTargets (scope : Scope) : List Tree → Resolver (List Target)
  | [] => pure []
  | item :: rest => do
      let item ← resolveTarget scope item
      let rest ← resolveTargets scope rest
      return item :: rest

end

def resolveStatement (scope : Scope) : Statement → Resolver (List Step)
  | .assign target value => do
      let value ← resolve scope value
      let target ← resolveTarget scope target
      return [.assign target value]
  | .update operator target value => do
      let value ← resolve scope value
      match target.unwrapped with
      | .name name => return [.updateGlobal operator name value]
      | .index object position =>
          let object ← resolve scope object
          let position ← resolve scope position
          return [.updateItem operator object position value]
      | .attribute object name => return [.updateAttribute (← resolve scope object) name value]
      | _ => failure
  | .evaluate value => do return [.evaluate (← resolve scope value)]
  | .pass => pure []
  | .load _ => pure [.load]

/-- The names that a program binds at its outermost level. -/
structure OutermostNames where
  loaded : List Bytes := []
  globals : List Bytes := []

/-- Adds names that are assigned. None of them may be bound. -/
def OutermostNames.assign? (names : OutermostNames) : List Bytes → Option OutermostNames
  | [] => some names
  | name :: rest =>
      if names.loaded.contains name || names.globals.contains name then none
      else assign? { names with globals := name :: names.globals } rest

def isLoadable (name : Bytes) : Bool :=
  !name.isEmpty && name.head? != some 0x5F

/-- Adds names that something is loaded under. None of them may be loaded
already. -/
def OutermostNames.load? (names : OutermostNames) :
    List (Bytes × Bytes) → Option OutermostNames
  | [] => some names
  | (name, source) :: rest =>
      if names.loaded.contains name || !isLoadable source then none
      else load? { names with loaded := name :: names.loaded } rest

def OutermostNames.after? (names : OutermostNames) : Statement → Option OutermostNames
  | .assign target _ =>
      match targetNames? target with
      | some bound => names.assign? bound
      | none => none
  | .update _ target _ =>
      match target.unwrapped with
      | .name name => names.assign? [name]
      | _ => some names
  | .evaluate _ => some names
  | .pass => some names
  | .load entries => names.load? entries

/-- The names that a program binds at its outermost level, after those of earlier
statements. -/
def outermostNames? (names : OutermostNames) : List Statement → Option OutermostNames
  | [] => some names
  | statement :: rest =>
      match names.after? statement with
      | some names => outermostNames? names rest
      | none => none

def resolveStatements (scope : Scope) : List Statement → Resolver (List Step)
  | [] => pure []
  | statement :: rest => do
      let steps ← resolveStatement scope statement
      let others ← resolveStatements scope rest
      return steps ++ others

/-- The script that statements write under labels, if their names have a
meaning. -/
def resolveScript? (label? : Bytes → Option Int) (statements : List Statement) :
    Option Script :=
  match outermostNames? {} statements with
  | none => none
  | some names =>
      match resolveStatements ⟨[[]], names.loaded, names.globals, label?⟩ statements {} with
      | some (steps, supply) => some ⟨steps, supply.nextSlot, supply.nextFunction⟩
      | none => none

end BasicComputer.Expression
