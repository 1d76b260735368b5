import BasicComputer.Decimal.Reader
import BasicComputer.Expression.Methods

/-!
Contract: the built-in functions.

A function fails on arguments of a wrong number or type. `max`, `min` and
`sorted` call back the function that gives their keys, and their source is
locked meanwhile.
-/

namespace BasicComputer.Expression

open Text

/-- The number of a text in a base, or in the base that its mark shows if the
base is 0. The mark of the base itself may always stand; without a mark, base 0
admits a leading zero only for zero. -/
def integerOfText? (base : Nat) (text : Bytes) : Option Int :=
  let (negative, body) :=
    match text with
    | 0x2B :: rest => (false, rest)
    | 0x2D :: rest => (true, rest)
    | _ => (false, text)
  let magnitude (base : Nat) (digits : Bytes) : Option Int :=
    if digits.isEmpty || !digits.all (fun byte => (digitOf? base byte).isSome) then none
    else
      some (Decimal.withSign negative
        (digits.foldl (fun number byte => number * base + (digitOf? base byte).getD 0) 0))
  let marked :=
    match body with
    | 0x30 :: mark :: _ :: _ =>
        match Decimal.lowerByte mark with
        | 0x6F => 8
        | 0x78 => 16
        | 0x62 => 2
        | _ => 0
    | _ => 0
  if marked ≠ 0 ∧ (base = 0 ∨ base = marked) then magnitude marked (body.drop 2)
  else if base = 0 then
    match body with
    | 0x30 :: second :: rest =>
        if marked = 0 then
          if (second :: rest).all (· == 0x30) then some 0 else none
        else magnitude 10 body
    | _ => magnitude 10 body
  else magnitude base body

/-- The integer of a value, as the function `int` reads it. -/
def toInteger? (value : Value) (base : Option Value) : Option Int :=
  match value with
  | .text text =>
      match base with
      | none => integerOfText? 10 text
      | some base =>
          match int32? base with
          | some base =>
              if base = 0 ∨ 2 ≤ base ∧ base ≤ 36 then integerOfText? base.toNat text else none
          | none => none
  | value =>
      if base.isSome then none
      else
        match value with
        | .bool value => some (if value then 1 else 0)
        | value => integerOf? value

def toFloat? : Value → Option Float
  | .bool value => some (if value then 1.0 else 0.0)
  | .integer value => Decimal.ofIntFinite? value
  | .float value => some value
  | .text text => Decimal.read? text
  | _ => none

/-- The hash of a text, a signed number of 32 bits: each code point is added to 31
times the hash so far. -/
def textHash (text : Bytes) : Int :=
  ((codePoints text).foldl (fun hash code => 31 * hash + UInt32.ofNat code) 0).toInt32.toInt

/-- The byte that an integer from 0 to 255 is. -/
def byteOf? : Value → Option UInt8
  | .integer value => if 0 ≤ value ∧ value ≤ 255 then some (UInt8.ofNat value.toNat) else none
  | _ => none

def shortest : List Sequence → Nat
  | [] => 0
  | first :: others => others.foldl (fun length row => min length row.length) first.length

/-- The columns of several sequences, up to the length of the shortest. -/
def columns (rows : List Sequence) : List Value :=
  (List.range (shortest rows)).map fun position => .tuple (rows.map fun row => row.item position)

/-- Merges two sorted lists of keyed values; the left one goes first where the
keys do not decide. -/
def mergeKeyed (before : Value → Value → Option Bool) :
    Nat → List (Value × Value) → List (Value × Value) → List (Value × Value) →
      Option (List (Value × Value))
  | _, done, [], rights => some (done.reverse ++ rights)
  | _, done, lefts, [] => some (done.reverse ++ lefts)
  | 0, _, _, _ => none
  | fuel + 1, done, left :: lefts, right :: rights =>
      match before right.1 left.1 with
      | none => none
      | some true => mergeKeyed before fuel (right :: done) (left :: lefts) rights
      | some false => mergeKeyed before fuel (left :: done) lefts (right :: rights)

/-- Sorts keyed values by their keys and keeps the order of equal ones. `fuel`
bounds the number of halvings. -/
def sortKeyed (before : Value → Value → Option Bool) :
    Nat → List (Value × Value) → Option (List (Value × Value))
  | 0, items => some items
  | fuel + 1, items =>
      if items.length ≤ 1 then some items
      else
        let half := items.length / 2
        match sortKeyed before fuel (items.take half), sortKeyed before fuel (items.drop half) with
        | some lefts, some rights => mergeKeyed before items.length [] lefts rights
        | _, _ => none

def Value.isCallable : Value → Bool
  | .builtin _ => true
  | .method _ _ _ => true
  | .function _ _ _ _ => true
  | _ => false

/-- A value with its key: itself, or what a function gives for it. -/
def withKey (call : Value → Arguments → Eval Value) (key : Option Value) (item : Value) :
    Eval (Value × Value) := do
  match key with
  | none => return (item, item)
  | some function => return (← call function ⟨[item], []⟩, item)

/-- The value whose key passes all those before it, of `count` elements of a
sequence from a position on and the best value so far. -/
def extremumFrom (call : Value → Arguments → Eval Value) (key : Option Value)
    (operator : BinaryOperator) (items : Sequence) (position : Nat) (best : Value × Value) :
    Nat → Eval Value
  | 0 => pure best.2
  | count + 1 => do
      let candidate ← withKey call key (items.item position)
      let passes ← Eval.ofOption (Value.compare? (← get) operator candidate.1 best.1)
      extremumFrom call key operator items (position + 1) (if passes then candidate else best)
        count

/-- The greatest or least of the arguments of a call, or of the elements of its
only one. -/
def runExtremum (call : Value → Arguments → Eval Value) (operator : BinaryOperator)
    (arguments : Arguments) : Eval Value := do
  let named := (⟨[], arguments.named⟩ : Arguments)
  let slots ← Eval.ofOption (named.unpack? ["key"] 0)
  let key := slots.getD 0 none
  match key with
  | some function => if !function.isCallable then failure
  | none => pure ()
  let source := match arguments.positional with
    | [single] => single
    | several => .tuple several
  if arguments.positional.isEmpty then failure
  let items ← sequence source
  match items.length with
  | 0 => failure
  | count + 1 =>
      Eval.locked source do
        let best ← withKey call key (items.item 0)
        extremumFrom call key operator items 1 best count

def runSorted (call : Value → Arguments → Eval Value) (arguments : Arguments) : Eval Value := do
  let slots ← Eval.ofOption (arguments.unpack? ["iterable", "key", "reverse"] 1)
  let key := slots.getD 1 none
  match key with
  | some function => if !function.isCallable then failure
  | none => pure ()
  let reverse ← Eval.ofOption (boolOf? ((slots.getD 2 none).getD (.bool false)))
  let source := (slots.getD 0 none).getD .none
  let items ← sequence source
  Eval.reserve items.length
  let pairs ← Eval.locked source (Eval.collect (withKey call key) items)
  let store ← get
  let before (left right : Value) : Option Bool :=
    if reverse then Value.compare? store .less right left
    else Value.compare? store .less left right
  let ordered ← Eval.ofOption (sortKeyed before pairs.length pairs)
  Eval.newList (ordered.map Prod.snd)

def rangeOf? (bounds : List Int) : Option Value :=
  match bounds with
  | [stop] => (Progression.make? 0 stop 1).map .range
  | [start, stop] => (Progression.make? start stop 1).map .range
  | [start, stop, step] => (Progression.make? start stop step).map .range
  | _ => none

def runBuiltin (call : Value → Arguments → Eval Value) (builtin : Builtin)
    (arguments : Arguments) : Eval Value := do
  let one : Eval Value := do
    match ← Eval.ofOption (arguments.between? 1 1) with
    | [value] => return value
    | _ => failure
  match builtin with
  | .abs =>
      match ← one with
      | .integer value => return .integer value.natAbs
      | .float value => return .float value.abs
      | _ => failure
  | .all =>
      let items ← sequence (← one)
      let store ← get
      return .bool (!items.any fun item => !item.truth store)
  | .any =>
      let items ← sequence (← one)
      let store ← get
      return .bool (items.any (Value.truth store))
  | .bool =>
      let given ← Eval.ofOption (arguments.between? 0 1)
      return .bool (← isTrue (given.getD 0 (.bool false)))
  | .bytes =>
      match ← one with
      | .bytes content => return .bytes content
      | .text content => return .bytes (encodePoints (codePoints content))
      | value =>
          let items ← sequence value
          Eval.allocateBytes ((value.length? (← get)).getD 0)
          return .bytes (← Eval.collect (fun item => Eval.ofOption (byteOf? item)) items)
  | .chr =>
      let code ← Eval.ofOption (int32? (← one))
      if code < 0 ∨ 0x10FFFF < code then failure
      return .text (encodePoint code.toNat)
  | .dict =>
      let reference ← Eval.newDict {}
      updateDict reference arguments
      return .dict reference
  | .dir =>
      let value ← one
      newTextList (value.methodTable.map fun entry => Bytes.ofString entry.1)
  | .enumerate =>
      let given ← Eval.ofOption (arguments.between? 1 2)
      let start ← Eval.ofOption (int64? (given.getD 1 (.integer 0)))
      let items ← elements (given.getD 0 .none)
      Eval.newList (items.zipIdx.map fun (item, position) =>
        .tuple [.integer (wrap64 (start + position)), item])
  | .fail => failure
  | .float =>
      match ← Eval.ofOption (arguments.between? 0 1) with
      | [] => return .float 0.0
      | value :: _ => return .float (← Eval.ofOption (toFloat? value))
  | .getattr =>
      let given ← Eval.ofOption (arguments.between? 2 3)
      let name ← Eval.ofOption (textOf? (given.getD 1 .none))
      match ← attributeValue? (given.getD 0 .none) name with
      | some value => return value
      | none => Eval.ofOption given[2]?
  | .hasattr =>
      let given ← Eval.ofOption (arguments.between? 2 2)
      let name ← Eval.ofOption (textOf? (given.getD 1 .none))
      return .bool ((given.getD 0 .none).method? name).isSome
  | .hash =>
      match ← one with
      | .text content => return .integer (textHash content)
      | .bytes content => return .integer (Value.bytesHash content).toNat
      | _ => failure
  | .int =>
      let slots ← Eval.ofOption (arguments.unpack? ["x", "base"] 1)
      let value := (slots.getD 0 none).getD .none
      return .integer (← Eval.ofOption (toInteger? value (slots.getD 1 none)))
  | .len =>
      let value ← one
      let length ← Eval.ofOption (value.length? (← get))
      if length < 0 then failure
      return .integer length
  | .list =>
      match ← Eval.ofOption (arguments.between? 0 1) with
      | [] => Eval.newList []
      | value :: _ => Eval.newList (← elements value)
  | .max => runExtremum call .greater arguments
  | .min => runExtremum call .less arguments
  | .ord =>
      match ← one with
      | .text content =>
          match characters content with
          | [character] => return .integer character.code
          | _ => failure
      | .bytes [byte] => return .integer byte.toNat
      | _ => failure
  | .print =>
      let named := (⟨[], arguments.named⟩ : Arguments)
      let slots ← Eval.ofOption (named.unpack? ["sep"] 0)
      let separator ← Eval.ofOption (textOf? ((slots.getD 0 none).getD (.text [0x20])))
      let store ← get
      Eval.print (Bytes.join separator (arguments.positional.map (Value.printed store)))
      return .none
  | .range =>
      let given ← Eval.ofOption (arguments.between? 1 3)
      let bounds ← Eval.ofOption (given.mapM int64?)
      Eval.ofOption (rangeOf? bounds)
  | .repr =>
      let value ← one
      return .text (value.shown (← get))
  | .reversed =>
      let items ← elements (← one)
      Eval.newList items.reverse
  | .sorted => runSorted call arguments
  | .str =>
      match ← one with
      | .bytes content => return .text (encodePoints (codePoints content))
      | value => return .text (value.displayed (← get))
  | .tuple =>
      match ← Eval.ofOption (arguments.between? 0 1) with
      | [] => return .tuple []
      | value :: _ => return .tuple (← elements value)
  | .type =>
      let value ← one
      return .text (Bytes.ofString value.typeName)
  | .zip =>
      if !arguments.named.isEmpty then failure
      let store ← get
      let rows ← Eval.ofOption (arguments.positional.mapM (Value.sequence? store))
      Eval.allocate (shortest rows)
      Eval.newList (columns rows)

end BasicComputer.Expression
