import BasicComputer.Decimal.Written
import BasicComputer.Expression.Value
import BasicComputer.Text.Quoted

/-!
Contract: what can be asked of a value without changing anything.

Owns the type name, truth, length, elements, hash, comparison and text of a
value. Comparison looks into nested values up to a fixed depth and fails below
it. Keys of a dictionary are compared only if their hashes agree. The text of a
list or dictionary that contains itself shows dots there.
-/

namespace BasicComputer.Expression

open Text

namespace Value

def typeName : Value → String
  | .none => "NoneType"
  | .bool _ => "bool"
  | .integer _ => "int"
  | .float _ => "float"
  | .text _ => "string"
  | .bytes _ => "bytes"
  | .tuple _ => "tuple"
  | .list _ => "list"
  | .dict _ => "dict"
  | .range _ => "range"
  | .view .elems _ => "string.elems"
  | .view .elemOrds _ => "string.elems"
  | .view .codepoints _ => "string.codepoints"
  | .view .codepointOrds _ => "string.codepoints"
  | .view .byteOrds _ => "bytes.elems"
  | .builtin _ => "builtin_function_or_method"
  | .method _ _ _ => "builtin_function_or_method"
  | .function _ _ _ _ => "function"

def listItems (store : Store) (reference : Nat) : Array Value :=
  match store.lists[reference]? with
  | some object => object.items
  | Option.none => #[]

def dictAt (store : Store) (reference : Nat) : DictObject :=
  store.dicts[reference]?.getD {}

def truth (store : Store) : Value → Bool
  | .none => false
  | .bool value => value
  | .integer value => value != 0
  | .float value => value != 0.0
  | .text value => !value.isEmpty
  | .bytes value => !value.isEmpty
  | .tuple items => !items.isEmpty
  | .list reference => !(listItems store reference).isEmpty
  | .dict reference => 0 < (dictAt store reference).size
  | .range progression => 0 < progression.length
  | _ => true

/-- The number of elements of a value that has a length. Only the length of a
progression can be negative. -/
def length? (store : Store) : Value → Option Int
  | .text value => some value.length
  | .bytes value => some value.length
  | .tuple items => some items.length
  | .list reference => some (listItems store reference).size
  | .dict reference => some (dictAt store reference).size
  | .range progression => some progression.length
  | .view .elems content => some content.length
  | .view .elemOrds content => some content.length
  | _ => Option.none

def viewItems (content : Bytes) : View → List Value
  | .elems => content.map fun byte => .text [byte]
  | .elemOrds => content.map fun byte => .integer byte.toNat
  | .codepoints => (codePoints content).map fun code => .text (encodePoint code)
  | .codepointOrds => (codePoints content).map fun (code : Nat) => .integer code
  | .byteOrds => content.map fun byte => .integer byte.toNat

def sequence? (store : Store) : Value → Option Sequence
  | .tuple items => some (.ofList items)
  | .list reference => some (.ofArray (listItems store reference))
  | .dict reference => some (.ofList ((dictAt store reference).entries.map Prod.fst))
  | .range progression =>
      some ⟨progression.count, fun (position : Nat) => .integer (progression.item position)⟩
  | .view kind content => some (.ofList (viewItems content kind))
  | _ => Option.none

/-- The FNV-1a hash of bytes in 32 bits. -/
def bytesHash (bytes : Bytes) : UInt32 :=
  bytes.foldl (fun hash byte => (hash ^^^ byte.toUInt32) * 16777619) 2166136261

/-- The hash of an integer. Beyond 32 bits its sign does not count. -/
def integerHash (value : Int) : UInt32 :=
  let low := if -2147483648 ≤ value ∧ value ≤ 2147483647 then value else value.natAbs
  12582917 * UInt32.ofInt (low + 3)

/-- The hash of a number, which is that of its integer part. -/
def floatHash (number : Float) : UInt32 :=
  match Decimal.truncate? number with
  | some value => integerHash value
  | Option.none => 1618033

mutual

/-- The hash of a value that can be a key: it cannot change, and neither can
anything inside it. Equal keys have equal hashes. -/
def keyHash? : Value → Option UInt32
  | .none => some 0
  | .bool value => some (if value then 1 else 0)
  | .integer value => some (integerHash value)
  | .float value => some (floatHash value)
  | .text value => some (bytesHash value)
  | .bytes value => some (bytesHash value)
  | .tuple items => tupleHash? (82520 + 2 * UInt32.ofNat items.length) 1000003 0x345678 items
  | .builtin routine => some (bytesHash (Bytes.ofString routine.name))
  | .method _ routine _ => some (bytesHash (Bytes.ofString routine.name) ^^^ 5521)
  | .function _ _ _ _ => some (bytesHash (Bytes.ofString "lambda"))
  | _ => Option.none

/-- The hash of the items of a tuple, after a hash so far. The factor of each
item exceeds that of the one before it by `growth`. -/
def tupleHash? (growth factor hash : UInt32) : List Value → Option UInt32
  | [] => some hash
  | item :: rest =>
      match keyHash? item with
      | some itemHash =>
          tupleHash? growth (factor + growth) (hash ^^^ itemHash * factor) rest
      | Option.none => Option.none

end

/-- The truth of a comparison operator on the result of a three-way comparison;
other operators are never true. -/
def orderingHolds (operator : BinaryOperator) (ordering : Ordering) : Bool :=
  match operator with
  | .equal => ordering == .eq
  | .notEqual => ordering != .eq
  | .less => ordering == .lt
  | .lessEqual => ordering != .gt
  | .greater => ordering == .gt
  | .greaterEqual => ordering != .lt
  | _ => false

/-- Equality and its negation from a truth value; other operators fail. -/
def equalityHolds? (operator : BinaryOperator) (same : Bool) : Option Bool :=
  match operator with
  | .equal => some same
  | .notEqual => some !same
  | _ => Option.none

def compareBytes (left right : Bytes) : Ordering :=
  if left < right then .lt else if left = right then .eq else .gt

/-- Compares two sequences: the first elements that differ decide, then the
lengths. -/
def compareSequences (compareItems : BinaryOperator → Value → Value → Option Bool)
    (operator : BinaryOperator) (leftLength rightLength : Nat) :
    List Value → List Value → Option Bool
  | left :: lefts, right :: rights =>
      match compareItems .equal left right with
      | Option.none => Option.none
      | some true =>
          compareSequences compareItems operator leftLength rightLength lefts rights
      | some false =>
          match operator with
          | .equal => some false
          | .notEqual => some true
          | _ => compareItems operator left right
  | _, _ => some (orderingHolds operator (compare leftLength rightLength))

/-- Compares two sequences; those of different lengths are unequal at once. -/
def compareLists (compareItems : BinaryOperator → Value → Value → Option Bool)
    (operator : BinaryOperator) (left right : List Value) : Option Bool :=
  if left.length ≠ right.length ∧ operator = .equal then some false
  else if left.length ≠ right.length ∧ operator = .notEqual then some true
  else compareSequences compareItems operator left.length right.length left right

/-- Whether every one of some entries has an equal one among those that a lookup
finds. -/
def entriesWithin (equal : Value → Value → Option Bool) (find : Value → Option (Option Value)) :
    List (Value × Value) → Option Bool
  | [] => some true
  | (key, value) :: rest =>
      match find key with
      | some (some found) =>
          match equal value found with
          | some true => entriesWithin equal find rest
          | result => result
      | _ => some false

/-- Compares two values at a depth of nesting. Numbers are ordered by value,
texts and bytes byte by byte, tuples and lists element by element. Values of
other types, and of different types, can only be equal or not. `find` looks up a
key of a dictionary. -/
def compareDeep (store : Store) (find : DictObject → Value → Option (Option Value)) :
    Nat → BinaryOperator → Value → Value → Option Bool
  | 0, _, _, _ => Option.none
  | depth + 1, operator, left, right =>
      match left, right with
      | .none, .none => equalityHolds? operator true
      | .bool left, .bool right => some (orderingHolds operator (compare left.toNat right.toNat))
      | .integer left, .integer right => some (orderingHolds operator (compare left right))
      | .float left, .float right =>
          some (orderingHolds operator (Decimal.compareTotal left right))
      | .integer left, .float right =>
          some (orderingHolds operator (Decimal.compareInt left right))
      | .float left, .integer right =>
          some (orderingHolds operator (Decimal.compareInt right left).swap)
      | .text left, .text right => some (orderingHolds operator (compareBytes left right))
      | .bytes left, .bytes right => some (orderingHolds operator (compareBytes left right))
      | .tuple left, .tuple right =>
          compareLists (compareDeep store find depth) operator left right
      | .list left, .list right =>
          compareLists (compareDeep store find depth) operator (listItems store left).toList
            (listItems store right).toList
      | .dict left, .dict right =>
          let left := dictAt store left
          let right := dictAt store right
          match operator with
          | .equal | .notEqual =>
              if left.size ≠ right.size then equalityHolds? operator false
              else
                -- of one size, so the entries of one of them are enough
                match entriesWithin (compareDeep store find depth .equal) (find right)
                    left.entries with
                | some same => equalityHolds? operator same
                | Option.none => Option.none
          | _ => Option.none
      | .range left, .range right => equalityHolds? operator (left.sameItems right)
      | .view kind content, .view kind' content' =>
          equalityHolds? operator (kind == kind' && content == content')
      | .builtin left, .builtin right => equalityHolds? operator (left == right)
      | .method left _ _, .method right _ _ => equalityHolds? operator (left == right)
      | .function left _ _ _, .function right _ _ _ => equalityHolds? operator (left == right)
      | _, _ => equalityHolds? operator false

/-- The depth of nesting to which values are compared. -/
def comparisonDepth : Nat := 10

/-- Whether two values that can be keys are equal. There are no dictionaries in
them. -/
def equalKeys? (store : Store) (left right : Value) : Option Bool :=
  compareDeep store (fun _ _ => some Option.none) comparisonDepth .equal left right

/-- The first of some positions of a dictionary where a key stands. -/
def positionAmong? (store : Store) (dict : DictObject) (key : Value) :
    List Nat → Option (Option Nat)
  | [] => some Option.none
  | position :: rest =>
      match dict.entryAt? position with
      | some (candidate, _) =>
          match equalKeys? store key candidate with
          | Option.none => Option.none
          | some true => some (some position)
          | some false => positionAmong? store dict key rest
      | Option.none => positionAmong? store dict key rest

/-- The position of a key with a hash in a dictionary. The key is compared only
with keys of that hash. -/
def position? (store : Store) (dict : DictObject) (hash : UInt32) (key : Value) :
    Option (Option Nat) :=
  positionAmong? store dict key (dict.positions.getD hash [])

/-- The value of a key in a dictionary, if it has that key; fails if the value
cannot be a key or cannot be compared with one. -/
def lookup? (store : Store) (dict : DictObject) (key : Value) : Option (Option Value) :=
  match key.keyHash? with
  | Option.none => Option.none
  | some hash =>
      match position? store dict hash key with
      | Option.none => Option.none
      | some found => some (found.bind fun position => (dict.entryAt? position).map Prod.snd)

def compare? (store : Store) (operator : BinaryOperator) (left right : Value) : Option Bool :=
  compareDeep store (lookup? store) comparisonDepth operator left right

def equal? (store : Store) (left right : Value) : Option Bool :=
  compare? store .equal left right

mutual

/-- The number of values that a value is built from, without what it refers
to. -/
def weight : Value → Nat
  | .tuple items => weights items + 1
  | _ => 1

def weights : List Value → Nat
  | [] => 0
  | item :: rest => weight item + weights rest

end

def storeWeight (store : Store) : Nat :=
  store.lists.foldl (fun total object => total + weights object.items.toList + 1) 0 +
  store.dicts.foldl
    (fun total object =>
      total + weights (object.entries.map Prod.fst) + weights (object.entries.map Prod.snd) + 1) 0

def commaSeparated (texts : List Bytes) : Bytes :=
  Bytes.join [0x2C, 0x20] texts

/-- The text of a progression: without the start if that is 0 and the step is 1,
and without the step if that is 1. -/
def rangeText (progression : Progression) : Bytes :=
  let ⟨start, stop, step⟩ := progression
  let bounds :=
    if step ≠ 1 then [start, stop, step] else if start ≠ 0 then [start, stop] else [stop]
  Bytes.ofString "range(" ++ commaSeparated (bounds.map signedDecimal) ++ [0x29]

/-- A list or dictionary on the way to the value being written. -/
inductive Container where
  | list (reference : Nat)
  | dict (reference : Nat)
deriving DecidableEq

/-- The text of a value as it is shown inside other values. `path` holds the
lists and dictionaries around it. -/
def showDeep (store : Store) : Nat → List Container → Value → Bytes
  | 0, _, _ => []
  | depth + 1, path, value =>
      match value with
      | .none => Bytes.ofString "None"
      | .bool value => Bytes.ofString (if value then "True" else "False")
      | .integer value => signedDecimal value
      | .float value => Decimal.written .general 0x65 value
      | .text value => quoted value
      | .bytes value => 0x62 :: quoted value
      | .tuple items =>
          let shown := commaSeparated (items.map (showDeep store depth path))
          0x28 :: (shown ++ (if items.length = 1 then [0x2C, 0x29] else [0x29]))
      | .list reference =>
          if path.contains (.list reference) then Bytes.ofString "[...]"
          else
            let inner := showDeep store depth (.list reference :: path)
            0x5B :: (commaSeparated ((listItems store reference).toList.map inner) ++ [0x5D])
      | .dict reference =>
          if path.contains (.dict reference) then
            0x7B :: (Bytes.ofString "..." ++ [0x7D])
          else
            let entry := fun (pair : Value × Value) =>
              showDeep store depth path pair.1 ++ 0x3A :: 0x20 ::
                showDeep store depth (.dict reference :: path) pair.2
            0x7B :: (commaSeparated ((dictAt store reference).entries.map entry) ++ [0x7D])
      | .range progression => rangeText progression
      | .view .elems content => quoted content ++ Bytes.ofString ".elems()"
      | .view .elemOrds content => quoted content ++ Bytes.ofString ".elem_ords()"
      | .view .codepoints content => quoted content ++ Bytes.ofString ".codepoints()"
      | .view .codepointOrds content => quoted content ++ Bytes.ofString ".codepoint_ords()"
      | .view .byteOrds content => 0x62 :: (quoted content ++ Bytes.ofString ".elems()")
      | .builtin routine =>
          Bytes.ofString "<built-in function " ++ Bytes.ofString routine.name ++ [0x3E]
      | .method _ routine receiver =>
          Bytes.ofString "<built-in method " ++ Bytes.ofString routine.name ++
            Bytes.ofString " of " ++ Bytes.ofString receiver.typeName ++
            Bytes.ofString " value>"
      | .function _ _ _ _ => Bytes.ofString "<function lambda>"

/-- A bound on the depth of a value, with what it refers to. -/
def depthBound (store : Store) : Value → Nat
  | .tuple items => storeWeight store + weight (.tuple items) + 1
  | .list _ => storeWeight store + 2
  | .dict _ => storeWeight store + 2
  | _ => 1

def shown (store : Store) (value : Value) : Bytes :=
  showDeep store (depthBound store value) [] value

/-- The text of a value: a text as it is, and others as they are shown. -/
def displayed (store : Store) : Value → Bytes
  | .text value => value
  | value => shown store value

/-- The text of a value as it is printed: texts and bytes as they are, and others
as they are shown. -/
def printed (store : Store) : Value → Bytes
  | .text value => value
  | .bytes value => value
  | value => shown store value

end Value

def findKey (reference : Nat) (key : Value) : Eval (Option Value) := do
  let dict ← Eval.dictObject reference
  Eval.ofOption (Value.lookup? (← get) dict key)

/-- Where the key of an entry with a hash stands in a dictionary. -/
def findPosition (reference : Nat) (hash : UInt32) (key : Value) : Eval (Option Nat) := do
  let dict ← Eval.dictObject reference
  Eval.ofOption (Value.position? (← get) dict hash key)

/-- Sets a key of a dictionary: an old entry keeps its place. Gives whether there
was one. -/
def setKey (reference : Nat) (key value : Value) : Eval Bool := do
  let hash ← Eval.ofOption key.keyHash?
  match ← findPosition reference hash key with
  | some position =>
      Eval.changeDict reference (.replace position value)
      return true
  | Option.none =>
      Eval.changeDict reference (.add hash key value)
      return false

/-- Removes a key from a dictionary; gives its value if it was there. In a
dictionary that has never been used any value counts as a key. -/
def removeKey (reference : Nat) (key : Value) : Eval (Option Value) := do
  if !(← Eval.dictObject reference).used then
    Eval.changeDict reference id
    return Option.none
  let hash ← Eval.ofOption key.keyHash?
  match ← findPosition reference hash key with
  | some position =>
      let entry := (← Eval.dictObject reference).entryAt? position
      Eval.changeDict reference (.remove hash position)
      return entry.map Prod.snd
  | Option.none =>
      Eval.changeDict reference id
      return Option.none

def sequence (value : Value) : Eval Sequence := do
  Eval.ofOption (value.sequence? (← get))

/-- The elements of a value as a list, for which there must be room; fails if it
cannot be iterated over. -/
def elements (value : Value) : Eval (List Value) := do
  let items ← sequence value
  Eval.reserve items.length
  return items.toList

def isTrue (value : Value) : Eval Bool := do
  return value.truth (← get)

end BasicComputer.Expression
