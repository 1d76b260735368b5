import BasicComputer.Expression.Bitwise
import BasicComputer.Expression.Interpolation

/-!
Contract: operators, indices and slices.

Integers are unbounded, and an integer meets a binary64 number as one. Division
and remainder round towards negative infinity and refuse a zero divisor. A
repetition is refused before it gets too long. Values that an operator does not
know make it fail.
-/

namespace BasicComputer.Expression

open Text

/-- The first length that a repetition may not have. -/
def repetitionLimit : Nat := Nat.pow 2 30

/-- The number of times that something of a length is repeated. -/
def repetitions? (length : Nat) (count : Int) : Option Nat :=
  -- what is empty may be repeated more often than a count can say
  if length = 0 then some 0
  else
    match int32? (.integer count) with
    | none => none
    | some count =>
        if count < 1 then some 0
        else if length * count.toNat < repetitionLimit then some count.toNat
        else none

def repeated {Item : Type} (count : Nat) (items : List Item) : List Item :=
  (List.replicate count items).flatten

/-- The left shift count at which a shift is refused. -/
def shiftLimit : Nat := 512

def floatArithmetic? (operator : BinaryOperator) (left right : Float) : Option Value :=
  match operator with
  | .add => some (.float (left + right))
  | .subtract => some (.float (left - right))
  | .multiply => some (.float (left * right))
  | .divide => if right == 0.0 then none else some (.float (left / right))
  | .floorDivide => if right == 0.0 then none else some (.float (left / right).floor)
  | .remainder =>
      if right == 0.0 then none else some (.float (Decimal.flooredRemainder left right))
  | _ => none

def integerArithmetic? (operator : BinaryOperator) (left right : Int) : Option Value :=
  match operator with
  | .add => some (.integer (left + right))
  | .subtract => some (.integer (left - right))
  | .multiply => some (.integer (left * right))
  | .divide =>
      match Decimal.ofIntFinite? left, Decimal.ofIntFinite? right with
      | some left, some right => floatArithmetic? .divide left right
      | _, _ => none
  | .floorDivide => if right = 0 then none else some (.integer (Int.fdiv left right))
  | .remainder => if right = 0 then none else some (.integer (Int.fmod left right))
  | .bitAnd => some (.integer (Bitwise.both left right))
  | .bitOr => some (.integer (Bitwise.either left right))
  | .bitXor => some (.integer (Bitwise.differing left right))
  | .shiftLeft =>
      match int32? (.integer right) with
      | some count =>
          if count < 0 ∨ (shiftLimit : Int) ≤ count then none
          else some (.integer (left * Int.pow 2 count.toNat))
      | none => none
  | .shiftRight =>
      match int32? (.integer right) with
      | some count =>
          if count < 0 then none else some (.integer (Bitwise.shiftRight left count.toNat))
      | none => none
  | _ => none

/-- Whether an integer of at most 32 bits is an element of a progression; no other
one is. -/
def inRange (progression : Progression) (value : Int) : Bool :=
  match int32? (.integer value) with
  | none => false
  | some value => progression.contains value

def containsEqual (store : Store) (value : Value) : List Value → Option Bool
  | [] => some false
  | candidate :: rest =>
      match Value.equal? store candidate value with
      | some false => containsEqual store value rest
      | result => result

def isMember? (store : Store) (value container : Value) : Option Bool :=
  match container with
  | .list reference => containsEqual store value (Value.listItems store reference).toList
  | .tuple items => containsEqual store value items
  | .dict reference =>
      match Value.lookup? store (Value.dictAt store reference) value with
      | some (some _) => some true
      | _ => some false
  | .text content =>
      match value with
      | .text pattern => some (occursIn pattern content)
      | _ => none
  | .bytes content =>
      match value with
      | .bytes pattern => some (occursIn pattern content)
      | .integer byte =>
          if 0 ≤ byte ∧ byte ≤ 255 then some (content.contains (UInt8.ofNat byte.toNat)) else none
      | _ => none
  | .range progression => (integerOf? value).map (inRange progression)
  | _ => none

/-- A dictionary with further entries, which win over its own. A key that cannot
be compared ends the union. -/
def union (store : Store) (dict : DictObject) : List (Value × Value) → DictObject
  | [] => dict
  | (key, value) :: rest =>
      match key.keyHash? with
      | none => dict
      | some hash =>
          match Value.position? store dict hash key with
          | none => dict
          | some none => union store (dict.add hash key value) rest
          | some (some position) => union store (dict.replace position value) rest

def repeatValue (value : Value) (count : Int) : Eval Value := do
  match value with
  | .text content =>
      let count ← Eval.ofOption (repetitions? content.length count)
      return .text (repeated count content)
  | .bytes content =>
      let count ← Eval.ofOption (repetitions? content.length count)
      return .bytes (repeated count content)
  | .tuple items =>
      let count ← Eval.ofOption (repetitions? items.length count)
      return .tuple (repeated count items)
  | .list reference =>
      let object ← Eval.listObject reference
      let count ← Eval.ofOption (repetitions? object.items.size count)
      Eval.newList (repeated count object.items.toList)
  | _ => failure

def BinaryOperator.isComparison : BinaryOperator → Bool
  | .equal | .notEqual | .less | .lessEqual | .greater | .greaterEqual => true
  | _ => false

/-- Applies an operator to two values that it does not compare. -/
def arithmetic (operator : BinaryOperator) (left right : Value) : Eval Value := do
  match left, right with
  | .integer left, .integer right => Eval.ofOption (integerArithmetic? operator left right)
  | .float left, .float right => Eval.ofOption (floatArithmetic? operator left right)
  | .integer left, .float right =>
      let left ← Eval.ofOption (Decimal.ofIntFinite? left)
      Eval.ofOption (floatArithmetic? operator left right)
  | .float left, .integer right =>
      let right ← Eval.ofOption (Decimal.ofIntFinite? right)
      Eval.ofOption (floatArithmetic? operator left right)
  | left, right =>
      match operator, left, right with
      | .add, .text left, .text right => return .text (left ++ right)
      | .add, .tuple left, .tuple right => return .tuple (left ++ right)
      | .add, .list left, .list right =>
          let left ← Eval.listObject left
          let right ← Eval.listObject right
          Eval.newListOf (left.items ++ right.items)
      | .multiply, .integer count, value => repeatValue value count
      | .multiply, value, .integer count => repeatValue value count
      | .remainder, .text content, value =>
          return .text (← Eval.ofOption (interpolate? (← get) content value))
      | .bitOr, .dict left, .dict right =>
          let left ← Eval.dictObject left
          let right ← Eval.dictObject right
          let merged := union (← get) { left with used := true, locks := 0 } right.entries
          return .dict (← Eval.newDict merged)
      | _, _, _ => failure

def binaryOperation (operator : BinaryOperator) (left right : Value) : Eval Value := do
  match operator with
  | .member => return .bool (← Eval.ofOption (isMember? (← get) left right))
  | .notMember => return .bool (!(← Eval.ofOption (isMember? (← get) left right)))
  | operator =>
      if operator.isComparison then
        return .bool (← Eval.ofOption (Value.compare? (← get) operator left right))
      else arithmetic operator left right

def unaryOperation (operator : UnaryOperator) (value : Value) : Eval Value := do
  match operator, value with
  | .negate, value => return .bool (!(← isTrue value))
  | .plus, .integer value => return .integer value
  | .minus, .integer value => return .integer (-value)
  | .invert, .integer value => return .integer (Bitwise.complement value)
  | .plus, .float value => return .float value
  | .minus, .float value => return .float (-value)
  | _, _ => failure

/-- A position in a sequence of a length: a negative one counts from the
end. -/
def position? (length : Int) (value : Value) : Option Nat :=
  match int32? value with
  | none => none
  | some position =>
      let position := if position < 0 then position + length else position
      if 0 ≤ position ∧ position < length then some position.toNat else none

def indexValue (object key : Value) : Eval Value := do
  match object with
  | .dict reference =>
      match ← findKey reference key with
      | some value => return value
      | none => failure
  | .text content =>
      let position ← Eval.ofOption (position? content.length key)
      return .text ((content.drop position).take 1)
  | .bytes content =>
      let position ← Eval.ofOption (position? content.length key)
      return .bytes ((content.drop position).take 1)
  | .tuple items =>
      let position ← Eval.ofOption (position? items.length key)
      Eval.ofOption items[position]?
  | .list reference =>
      let list ← Eval.listObject reference
      let position ← Eval.ofOption (position? list.items.size key)
      Eval.ofOption list.items[position]?
  | object =>
      let length ← Eval.ofOption (object.length? (← get))
      let items ← sequence object
      let position ← Eval.ofOption (position? length key)
      return items.item position

def setIndexValue (object key value : Value) : Eval Unit := do
  match object with
  | .dict reference =>
      let _ ← setKey reference key value
  | .list reference =>
      let size := (← Eval.listObject reference).items.size
      let position ← Eval.ofOption (position? size key)
      Eval.changeList reference fun items => items.setIfInBounds position value
  | _ => failure

/-- A bound of a slice: absent, or an integer that counts from the end if it is
negative. -/
def bound? (length default : Int) : Value → Option Int
  | .none => some default
  | value =>
      match int32? value with
      | some bound => some (if bound < 0 then bound + length else bound)
      | none => none

/-- A number moved into a range. Below the low end the low end counts, even if
the high end is lower. -/
def clamp (low high value : Int) : Int :=
  if value < low then low else if high < value then high else value

/-- The bounds of a slice that runs forwards, inside a sequence of a length. -/
def forwardBounds? (length : Int) (low high : Value) : Option (Int × Int) :=
  match bound? length 0 low, bound? length length high with
  | some low, some high => some (clamp 0 length low, clamp 0 length high)
  | _, _ => none

def sliceBounds? (length : Int) (low high step : Value) : Option (Int × Int × Int) :=
  let stride :=
    match step with
    | .none => some 1
    | step => int32? step
  match stride with
  | none => none
  | some stride =>
      if stride = 0 then none
      else if 0 < stride then
        match forwardBounds? length low high with
        -- bounds that have crossed leave nothing, where the first one is
        | some (low, high) => some (low, max low high, stride)
        | none => none
      else
        match bound? length (length - 1) low, bound? length (-1) high with
        | some low, some high =>
            let low := min low (length - 1)
            let high := max high (-1)
            some (max low high, high, stride)
        | _, _ => none

/-- The number of elements from a start to an end in strides. -/
def strideCount (start stop stride : Int) : Nat :=
  if 0 < stride then
    if start < stop then ((stop - 1 - start) / stride + 1).toNat else 0
  else
    if stop < start then ((start - 1 - stop) / (-stride) + 1).toNat else 0

def sliceArray {Item : Type} (items : Array Item) (start stop stride : Int) : List Item :=
  (List.range (strideCount start stop stride)).filterMap fun (position : Nat) =>
    items[(start + stride * position).toNat]?

def sliceItems {Item : Type} (items : List Item) (start stop stride : Int) : List Item :=
  sliceArray items.toArray start stop stride

def sliceValue (object low high step : Value) : Eval Value := do
  let length ← Eval.ofOption (object.length? (← get))
  match object with
  | .text content =>
      let (start, stop, stride) ← Eval.ofOption (sliceBounds? length low high step)
      return .text (sliceItems content start stop stride)
  | .bytes content =>
      let (start, stop, stride) ← Eval.ofOption (sliceBounds? length low high step)
      return .bytes (sliceItems content start stop stride)
  | .tuple items =>
      let (start, stop, stride) ← Eval.ofOption (sliceBounds? length low high step)
      return .tuple (sliceItems items start stop stride)
  | .list reference =>
      let (start, stop, stride) ← Eval.ofOption (sliceBounds? length low high step)
      let list ← Eval.listObject reference
      Eval.newList (sliceArray list.items start stop stride)
  | .range progression =>
      let (start, stop, stride) ← Eval.ofOption (sliceBounds? length low high step)
      match progression.slice? start stop stride with
      | some part => return .range part
      | none => Eval.breakDown "rangeLen: zero step"
  | _ => failure

end BasicComputer.Expression
