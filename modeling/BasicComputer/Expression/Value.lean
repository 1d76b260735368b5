import BasicComputer.Expression.Code
import BasicComputer.Expression.Progression
import Std.Data.HashMap

/-!
Contract: values, and the store of values that can change.

Lists and dictionaries are references into the store, so that two names can
share one of them. The variables of functions are cells of the store: the
variables of one activation stand side by side, and a function keeps the starts
of the activations around it.

A list or dictionary that is being iterated over is locked against changes.

A computation that fails leaves the store as it was then, because what has been
printed before is not taken back. A computation breaks down if it asks for more
than there can be; that is a failure, too, which leaves its reason in the store.
-/

namespace BasicComputer.Expression

/-- A way to look at the elements of a text or of bytes. -/
inductive View where
  /-- The bytes of a text, each as a text. -/
  | elems
  /-- The bytes of a text as integers. -/
  | elemOrds
  /-- The characters of a text, each as a text. -/
  | codepoints
  /-- The code points of a text as integers. -/
  | codepointOrds
  /-- The bytes of bytes as integers. -/
  | byteOrds
deriving DecidableEq, Repr

/-- What a function value runs. -/
structure Routine where
  number : Nat
  slots : Nat
  signature : Signature
  body : Code

inductive Value where
  | none
  | bool (value : Bool)
  | integer (value : Int)
  | float (value : Float)
  | text (value : Bytes)
  | bytes (value : Bytes)
  | tuple (items : List Value)
  | list (reference : Nat)
  | dict (reference : Nat)
  | range (progression : Progression)
  | view (view : View) (content : Bytes)
  | builtin (builtin : Builtin)
  /-- A method with its receiver; `identity` tells it from other such values. -/
  | method (identity : Nat) (method : Method) (receiver : Value)
  /-- A function; `identity` tells it from other functions with its code. -/
  | function (identity : Nat) (routine : Routine) (defaults : List (Option Value))
      (activations : List Nat)

/-- The elements of a value that is iterated over: their number, and the element
at each position. None of them exists before it is asked for. -/
structure Sequence where
  length : Nat
  item : Nat → Value

def Sequence.ofArray (items : Array Value) : Sequence :=
  ⟨items.size, fun position => items.getD position .none⟩

def Sequence.ofList (items : List Value) : Sequence :=
  .ofArray items.toArray

def Sequence.toList (sequence : Sequence) : List Value :=
  (List.range sequence.length).map sequence.item

/-- Whether one of `count` elements from a position on has a property. -/
def Sequence.anyFrom (property : Value → Bool) (sequence : Sequence) (position : Nat) :
    Nat → Bool
  | 0 => false
  | count + 1 =>
      property (sequence.item position) || sequence.anyFrom property (position + 1) count

def Sequence.any (property : Value → Bool) (sequence : Sequence) : Bool :=
  sequence.anyFrom property 0 sequence.length

structure ListObject where
  items : Array Value
  locks : Nat := 0

/-- A dictionary in the store. Its entries stand in order of insertion, with gaps
where others have been removed, and are found by the hashes of their keys. -/
structure DictObject where
  slots : Array (Option (Value × Value)) := #[]
  /-- The positions of the entries whose keys have a hash. -/
  positions : Std.HashMap UInt32 (List Nat) := {}
  size : Nat := 0
  /-- Whether anything has ever been put in. -/
  used : Bool := false
  locks : Nat := 0

namespace DictObject

def entries (dict : DictObject) : List (Value × Value) :=
  dict.slots.toList.filterMap id

def entryAt? (dict : DictObject) (position : Nat) : Option (Value × Value) :=
  (dict.slots[position]?).join

/-- Adds an entry whose key has a hash and is not there yet. -/
def add (hash : UInt32) (key value : Value) : DictObject → DictObject
  | ⟨slots, positions, size, _, locks⟩ =>
      let here := slots.size
      ⟨slots.push (some (key, value)),
        positions.alter hash fun others => some (here :: others.getD []), size + 1, true, locks⟩

def replace (position : Nat) (value : Value) : DictObject → DictObject
  | ⟨slots, positions, size, used, locks⟩ =>
      ⟨slots.modify position fun entry => entry.map fun (key, _) => (key, value),
        positions, size, used, locks⟩

/-- Removes the entry at a position, whose key has a hash. -/
def remove (hash : UInt32) (position : Nat) : DictObject → DictObject
  | ⟨slots, positions, size, used, locks⟩ =>
      ⟨slots.setIfInBounds position Option.none,
        positions.alter hash fun others => some ((others.getD []).erase position), size - 1, used,
        locks⟩

def cleared (dict : DictObject) : DictObject :=
  { used := dict.used, locks := dict.locks }

end DictObject

/-- Everything that can change while a script runs. -/
structure Store where
  cells : Array (Option Value) := #[]
  lists : Array ListObject := #[]
  dicts : Array DictObject := #[]
  globals : List (Bytes × Value) := []
  nextIdentity : Nat := 0
  /-- What has been printed, last line first. -/
  printed : List Bytes := []
  /-- Why the script has broken down. -/
  breakdown : Option Bytes := none

/-- A computation that can fail and can change the store. -/
abbrev Eval := OptionT (StateM Store)

structure Arguments where
  positional : List Value
  named : List (Bytes × Value) := []

/-- How functions are called: the numbers of the functions that are running,
the function, its arguments. -/
abbrev Caller := List Nat → Value → Arguments → Eval Value

def Constant.value : Constant → Value
  | .none => .none
  | .bool value => .bool value
  | .integer value => .integer value
  | .float value => .float value
  | .text value => .text value
  | .bytes value => .bytes value
  | .builtin value => .builtin value

namespace Eval

/-- A number that no other value has. -/
def freshIdentity : Eval Nat := do
  let store ← get
  set { store with nextIdentity := store.nextIdentity + 1 }
  return store.nextIdentity

def onLists {Result : Type} (change : Array ListObject → Option Result × Array ListObject) :
    Eval Result :=
  OptionT.mk fun
    | ⟨cells, lists, dicts, globals, nextIdentity, printed, breakdown⟩ =>
        let (result, lists) := change lists
        (result, ⟨cells, lists, dicts, globals, nextIdentity, printed, breakdown⟩)

def onDicts {Result : Type} (change : Array DictObject → Option Result × Array DictObject) :
    Eval Result :=
  OptionT.mk fun
    | ⟨cells, lists, dicts, globals, nextIdentity, printed, breakdown⟩ =>
        let (result, dicts) := change dicts
        (result, ⟨cells, lists, dicts, globals, nextIdentity, printed, breakdown⟩)

def onCells {Result : Type}
    (change : Array (Option Value) → Option Result × Array (Option Value)) : Eval Result :=
  OptionT.mk fun
    | ⟨cells, lists, dicts, globals, nextIdentity, printed, breakdown⟩ =>
        let (result, cells) := change cells
        (result, ⟨cells, lists, dicts, globals, nextIdentity, printed, breakdown⟩)

def newListOf (items : Array Value) : Eval Value :=
  onLists fun lists => (some (.list lists.size), lists.push { items := items })

def newList (items : List Value) : Eval Value :=
  newListOf items.toArray

/-- A new dictionary; gives its reference. -/
def newDict (dict : DictObject) : Eval Nat :=
  onDicts fun dicts => (some dicts.size, dicts.push dict)

/-- New variables without values; gives the position of the first one. -/
def newCells (count : Nat) : Eval Nat :=
  onCells fun cells => (some cells.size, cells ++ Array.replicate count Option.none)

def listObject (reference : Nat) : Eval ListObject := do
  match (← get).lists[reference]? with
  | some object => return object
  | Option.none => failure

def dictObject (reference : Nat) : Eval DictObject := do
  match (← get).dicts[reference]? with
  | some object => return object
  | Option.none => failure

/-- Changes the items of a list that is not locked. -/
def changeList (reference : Nat) (change : Array Value → Array Value) : Eval Unit := do
  if 0 < (← listObject reference).locks then failure
  onLists fun lists =>
    (some (), lists.modify reference fun | ⟨items, locks⟩ => ⟨change items, locks⟩)

def changeDict (reference : Nat) (change : DictObject → DictObject) : Eval Unit := do
  if 0 < (← dictObject reference).locks then failure
  onDicts fun dicts => (some (), dicts.modify reference change)

/-- Changes the number of locks of a value that can be locked. -/
def changeLocks (value : Value) (change : Nat → Nat) : Eval Unit := do
  match value with
  | .list reference =>
      onLists fun lists =>
        (some (), lists.modify reference fun | ⟨items, locks⟩ => ⟨items, change locks⟩)
  | .dict reference =>
      onDicts fun dicts =>
        (some (), dicts.modify reference fun
          | ⟨slots, positions, size, used, locks⟩ => ⟨slots, positions, size, used, change locks⟩)
  | _ => pure ()

/-- Runs an action while a list or dictionary is locked. -/
def locked {Result : Type} (value : Value) (action : Eval Result) : Eval Result := do
  changeLocks value (· + 1)
  -- a failure leaves the lock, and nothing runs after it
  let result ← action
  changeLocks value (· - 1)
  return result

/-- The value of a variable that has been assigned. -/
def cell (position : Nat) : Eval Value := do
  match (← get).cells[position]? with
  | some (some value) => return value
  | _ => failure

def setCell (position : Nat) (value : Value) : Eval Unit :=
  onCells fun cells => (some (), cells.setIfInBounds position (some value))

def global (name : Bytes) : Eval Value := do
  match (← get).globals.lookup name with
  | some value => return value
  | Option.none => failure

def setGlobal (name : Bytes) (value : Value) : Eval Unit :=
  modify fun store => { store with globals := (name, value) :: store.globals }

def print (line : Bytes) : Eval Unit :=
  modify fun store => { store with printed := line :: store.printed }

def breakDown {Result : Type} (reason : String) : Eval Result := do
  modify fun store => { store with breakdown := some (Bytes.ofString reason) }
  failure

/-- The greatest number of elements that there is room for. -/
def elementLimit : Nat := Nat.pow 2 44

/-- The greatest number of bytes that there is room for. -/
def byteLimit : Nat := Nat.pow 2 48

/-- Sees to room for elements that will be added one by one. -/
def reserve (count : Int) : Eval Unit := do
  if (elementLimit : Int) < count then breakDown "runtime error: makeslice: cap out of range"

def allocate (count : Int) : Eval Unit := do
  if (elementLimit : Int) < count then breakDown "runtime error: makeslice: len out of range"

def allocateBytes (count : Int) : Eval Unit := do
  if (byteLimit : Int) < count then breakDown "runtime error: makeslice: len out of range"

/-- The results of an action for `count` elements of a sequence from a position
on, after those in `done`, last one first. The first failure ends it. -/
def collectFrom {Result : Type} (action : Value → Eval Result) (sequence : Sequence)
    (position : Nat) (done : List Result) : Nat → Eval (List Result)
  | 0 => pure done.reverse
  | count + 1 => do
      let result ← action (sequence.item position)
      collectFrom action sequence (position + 1) (result :: done) count

def collect {Result : Type} (action : Value → Eval Result) (sequence : Sequence) :
    Eval (List Result) :=
  collectFrom action sequence 0 [] sequence.length

def ofOption {Result : Type} : Option Result → Eval Result
  | some result => pure result
  | Option.none => failure

end Eval

end BasicComputer.Expression
