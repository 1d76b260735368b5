import BasicComputer.Expression.Operation
import BasicComputer.Text.Blank

/-!
Contract: the methods of texts, bytes, lists and dictionaries.

Positions count bytes. A method fails on arguments of a wrong number or type.
Case and classes of characters are those of `Text.Category`.
-/

namespace BasicComputer.Expression

open Text

namespace Arguments

/-- The positional arguments of a call that takes no named ones and between
`least` and `most` positional ones. -/
def between? (arguments : Arguments) (least most : Nat) : Option (List Value) :=
  let count := arguments.positional.length
  if arguments.named.isEmpty && least ≤ count && count ≤ most then some arguments.positional
  else none

/-- Places a named argument into the slots of the parameters; fails if there is
no such parameter or it has a value already. -/
def placeNamed? (name : Bytes) (value : Value) :
    List Bytes → List (Option Value) → Option (List (Option Value))
  | parameter :: parameters, slot :: slots =>
      if parameter = name then
        match slot with
        | none => some (some value :: slots)
        | some _ => none
      else (placeNamed? name value parameters slots).map (slot :: ·)
  | _, _ => none

/-- The arguments of a call in the order of its parameters, the first
`required` of which must be given. -/
def unpack? (arguments : Arguments) (parameters : List String) (required : Nat) :
    Option (List (Option Value)) :=
  let names := parameters.map Bytes.ofString
  if names.length < arguments.positional.length then none
  else
    let slots := arguments.positional.map some ++
      List.replicate (names.length - arguments.positional.length) none
    match arguments.named.foldlM (fun slots entry => placeNamed? entry.1 entry.2 names slots)
        slots with
    | none => none
    | some slots => if (slots.take required).all Option.isSome then some slots else none

end Arguments

def textOf? : Value → Option Bytes
  | .text content => some content
  | _ => none

/-- The integer that a value is, if it has at most 64 bits. -/
def int64? : Value → Option Int
  | .integer value =>
      if -9223372036854775808 ≤ value ∧ value ≤ 9223372036854775807 then some value else none
  | _ => none

def boolOf? : Value → Option Bool
  | .bool value => some value
  | _ => none

/-- The part of a text between optional bounds: where it starts, and its
bytes. -/
def boundedPart? (content : Bytes) (bounds : List Value) : Option (Nat × Bytes) :=
  match forwardBounds? content.length (bounds.getD 0 .none) (bounds.getD 1 .none) with
  | some (low, high) => some (low.toNat, (content.drop low.toNat).take (high - low).toNat)
  | none => none

/-- The number of occurrences of a pattern; an empty one occurs around every
character. -/
def countOccurrences (pattern content : Bytes) : Nat :=
  if pattern.isEmpty then characterCount content + 1
  else (splitAll pattern content).length - 1

/-- The position of the first or last occurrence of a pattern between optional
bounds. -/
def findIn? (last : Bool) (content : Bytes) : List Value → Option (Option Nat)
  | .text pattern :: bounds =>
      match boundedPart? content bounds with
      | some (start, part) =>
          let found := if last then lastIndexOf? pattern part else indexOf? pattern part
          some (found.map (start + ·))
      | none => none
  | _ => none

def mapCodes (function : Nat → Nat) (content : Bytes) : Bytes :=
  encodePoints ((codePoints content).map function)

/-- Code points in title case: the first of every cased stretch is raised, the
others are lowered. -/
def titleCodes (afterCased : Bool) : List Nat → List Nat
  | [] => []
  | code :: rest =>
      let mapped := if afterCased then toLower code else toTitle code
      mapped :: titleCodes (isCased mapped) rest

/-- Whether code points are in title case: every stretch of letters starts with an
upper-case ASCII letter or a title-case letter and goes on in lower case, and
there is at least one. No other upper-case letter may occur. -/
def isTitleCase (someCased afterCased : Bool) : List Nat → Bool
  | [] => someCased
  | code :: rest =>
      if 0x41 ≤ code && code ≤ 0x5A || isTitleLetter code then
        !afterCased && isTitleCase true true rest
      else if isLowerLetter code then afterCased && isTitleCase true true rest
      else !isUpperLetter code && isTitleCase someCased false rest

/-- Whether a text is not empty and all its code points have a property. -/
def allCodes (property : Nat → Bool) (content : Bytes) : Bool :=
  !content.isEmpty && (codePoints content).all property

def textOfCharacters (list : List Character) : Bytes :=
  list.flatMap Character.bytes

def dropLeading (property : Nat → Bool) (content : Bytes) : Bytes :=
  textOfCharacters ((characters content).dropWhile fun character => property character.code)

def dropTrailing (property : Nat → Bool) (content : Bytes) : Bytes :=
  textOfCharacters ((characters content).reverse.dropWhile fun character =>
    property character.code).reverse

/-- Whether a strip method removes a code point: one of the given ones, or white
space if none are given. -/
def strippable (given : List Nat) (code : Nat) : Bool :=
  if given.isEmpty then isSpace code else given.contains code

/-- The words of a text, at most `limit` cuts made from the left; the last one
keeps the white space after its start. -/
def splitWords (limit : Nat) (done : List Bytes) (list : List Character) : List Bytes :=
  let rest := list.dropWhile fun character => isSpace character.code
  match limit with
  | 0 => (if rest.isEmpty then done else textOfCharacters rest :: done).reverse
  | limit + 1 =>
      if rest.isEmpty then done.reverse
      else
        let (word, rest) := rest.span fun character => !isSpace character.code
        splitWords limit (textOfCharacters word :: done) rest

/-- The words of a text given from its last character to its first, at most
`limit` cuts made from the right; the first one keeps the white space before its
end. -/
def splitWordsRight (limit : Nat) (done : List Bytes) (list : List Character) : List Bytes :=
  let rest := list.dropWhile fun character => isSpace character.code
  match limit with
  | 0 => if rest.isEmpty then done else textOfCharacters rest.reverse :: done
  | limit + 1 =>
      if rest.isEmpty then done
      else
        let (word, rest) := rest.span fun character => !isSpace character.code
        splitWordsRight limit (textOfCharacters word.reverse :: done) rest

/-- The pieces of a text between a separator, at most `limit` cuts made from the
right. -/
def splitRight (limit : Nat) (separator content : Bytes) : List Bytes :=
  let pieces := splitAll separator content
  let excess := pieces.length - limit
  if limit < pieces.length then
    Bytes.join separator (pieces.take excess) :: pieces.drop excess
  else pieces

def splitText? (fromRight : Bool) (content : Bytes) (arguments : List Value) :
    Option (List Bytes) :=
  let limit :=
    match arguments[1]? with
    | none => some (-1)
    | some value => int64? value
  match limit, arguments.getD 0 .none with
  | some limit, .none =>
      if limit < 0 then some (fields content)
      else if fromRight then
        some (splitWordsRight (min limit.toNat content.length) [] (characters content).reverse)
      else some (splitWords (min limit.toNat content.length) [] (characters content))
  | some limit, .text separator =>
      if separator.isEmpty then none
      else if limit < 0 then some (splitAll separator content)
      else if fromRight then some (splitRight limit.toNat separator content)
      else some (splitAtMost limit.toNat separator content)
  | _, _ => none

/-- Sees to room for the words that a split from the right makes, one more than the
number of its cuts if that is limited. -/
def reservePieces (arguments : List Value) : Eval Unit := do
  match arguments with
  | [.none, .integer limit] => if 0 ≤ limit then Eval.reserve (limit + 1)
  | _ => pure ()

/-- The pieces of a text with a word before each of its characters and at its end,
at most `limit` times. `done` holds the pieces so far, last one first. -/
def interleave (limit : Nat) (word : Bytes) (done : List Bytes) : List Character → List Bytes
  | [] => (if limit = 0 then done else word :: done).reverse
  | character :: rest =>
      match limit with
      | 0 => (textOfCharacters (character :: rest) :: done).reverse
      | limit + 1 => interleave limit word (character.bytes :: word :: done) rest

def replacedLength (old new content : Bytes) (limit : Int) : Int :=
  let found : Int := countOccurrences old content
  let count := if limit < 0 then found else min limit found
  content.length + count * ((new.length : Int) - old.length)

def replaceText (old new content : Bytes) (limit : Int) : Bytes :=
  -- an empty pattern occurs once more than there are characters
  let most := if limit < 0 then content.length + 1 else limit.toNat
  if old.isEmpty then (interleave most new [] (characters content)).flatten
  else Bytes.join new (splitAtMost most old content)

/-- Whether a text starts or ends with another. -/
def edgeHolds (atEnd : Bool) (content edge : Bytes) : Bool :=
  if atEnd then edge.isSuffixOf content else edge.isPrefixOf content

/-- Whether a text starts or ends with one of the given texts; the first one
that does ends the search. -/
def hasEdge? (atEnd : Bool) (content : Bytes) : Value → Option Bool
  | .text edge => some (edgeHolds atEnd content edge)
  | .tuple edges =>
      edges.foldlM
        (fun found edge =>
          if found then some true else (textOf? edge).map (edgeHolds atEnd content)) false
  | _ => none

def textLines (keepEnds : Bool) (content : Bytes) : List Bytes :=
  if content.isEmpty then []
  else
    let pieces := splitAll [0x0A] content
    let closed := pieces.dropLast.map fun piece => if keepEnds then piece ++ [0x0A] else piece
    match pieces.getLast? with
    | some last => if last.isEmpty then closed else closed ++ [last]
    | none => closed

/-- A text cut at the first or last occurrence of a separator: what stands
before, the separator, and what stands after. -/
def partitionText (last : Bool) (separator content : Bytes) : Bytes × Bytes × Bytes :=
  let found := if last then lastIndexOf? separator content else indexOf? separator content
  match found with
  | some position =>
      (content.take position, separator, content.drop (position + separator.length))
  | none => if last then ([], [], content) else (content, [], [])

def newTextList (texts : List Bytes) : Eval Value :=
  Eval.newList (texts.map Value.text)

def runTextMethod (method : TextMethod) (content : Bytes) (arguments : Arguments) :
    Eval Value := do
  let bare (value : Value) : Eval Value := do
    let _ ← Eval.ofOption (arguments.between? 0 0)
    return value
  let strip (fromLeft fromRight : Bool) : Eval Value := do
    let given ← Eval.ofOption (arguments.between? 0 1)
    let characters ← Eval.ofOption (textOf? (given.getD 0 (.text [])))
    let removed := codePoints characters
    let left := if fromLeft then dropLeading (strippable removed) content else content
    return .text (if fromRight then dropTrailing (strippable removed) left else left)
  let find (last : Bool) : Eval (Option Nat) := do
    let given ← Eval.ofOption (arguments.between? 1 3)
    Eval.ofOption (findIn? last content given)
  let edge (atEnd : Bool) : Eval Value := do
    let given ← Eval.ofOption (arguments.between? 1 3)
    let (_, part) ← Eval.ofOption (boundedPart? content (given.drop 1))
    return .bool (← Eval.ofOption (hasEdge? atEnd part (given.getD 0 .none)))
  let partition (last : Bool) : Eval Value := do
    let given ← Eval.ofOption (arguments.between? 1 1)
    let separator ← Eval.ofOption (textOf? (given.getD 0 .none))
    if separator.isEmpty then failure
    let (before, mark, after) := partitionText last separator content
    return .tuple [.text before, .text mark, .text after]
  let single : Eval Bytes := do
    let given ← Eval.ofOption (arguments.between? 1 1)
    Eval.ofOption (textOf? (given.getD 0 .none))
  match method with
  | .capitalize =>
      match codePoints content with
      | [] => bare (.text [])
      | first :: rest => bare (.text (encodePoints (toTitle first :: rest.map toLower)))
  | .codepointOrds => bare (.view .codepointOrds content)
  | .codepoints => bare (.view .codepoints content)
  | .elemOrds => bare (.view .elemOrds content)
  | .elems => bare (.view .elems content)
  | .count =>
      let given ← Eval.ofOption (arguments.between? 1 3)
      let pattern ← Eval.ofOption (textOf? (given.getD 0 .none))
      let (_, part) ← Eval.ofOption (boundedPart? content (given.drop 1))
      return .integer (countOccurrences pattern part)
  | .endswith => edge true
  | .startswith => edge false
  | .find =>
      match ← find false with
      | some position => return .integer position
      | none => return .integer (-1)
  | .rfind =>
      match ← find true with
      | some position => return .integer position
      | none => return .integer (-1)
  | .index =>
      match ← find false with
      | some position => return .integer position
      | none => failure
  | .rindex =>
      match ← find true with
      | some position => return .integer position
      | none => failure
  | .format => return .text (← Eval.ofOption (fillFields? (← get) arguments content))
  | .isalnum => bare (.bool (allCodes (fun code => isLetter code || isDigit code) content))
  | .isalpha => bare (.bool (allCodes isLetter content))
  | .isdigit => bare (.bool (allCodes isDigit content))
  | .isspace => bare (.bool (allCodes isSpace content))
  | .islower =>
      bare (.bool ((codePoints content).any isCased && mapCodes toLower content == content))
  | .isupper =>
      bare (.bool ((codePoints content).any isCased && mapCodes toUpper content == content))
  | .istitle => bare (.bool (isTitleCase false false (codePoints content)))
  | .join =>
      let given ← Eval.ofOption (arguments.between? 1 1)
      let items ← sequence (given.getD 0 .none)
      let texts ← Eval.collect (fun item => Eval.ofOption (textOf? item)) items
      return .text (Bytes.join content texts)
  | .lower => bare (.text (mapCodes toLower content))
  | .upper => bare (.text (mapCodes toUpper content))
  | .title => bare (.text (encodePoints (titleCodes false (codePoints content))))
  | .strip => strip true true
  | .lstrip => strip true false
  | .rstrip => strip false true
  | .partition => partition false
  | .rpartition => partition true
  | .removeLeading =>
      let edge ← single
      return .text (if edge.isPrefixOf content then content.drop edge.length else content)
  | .removeTrailing =>
      let edge ← single
      return .text
        (if edge.isSuffixOf content then content.take (content.length - edge.length) else content)
  | .replace =>
      let given ← Eval.ofOption (arguments.between? 2 3)
      let old ← Eval.ofOption (textOf? (given.getD 0 .none))
      let new ← Eval.ofOption (textOf? (given.getD 1 .none))
      let limit ← Eval.ofOption (int64? (given.getD 2 (.integer (-1))))
      Eval.allocateBytes (replacedLength old new content limit)
      return .text (replaceText old new content limit)
  | .split =>
      let given ← Eval.ofOption (arguments.between? 0 2)
      newTextList (← Eval.ofOption (splitText? false content given))
  | .rsplit =>
      let given ← Eval.ofOption (arguments.between? 0 2)
      let texts ← Eval.ofOption (splitText? true content given)
      reservePieces given
      newTextList texts
  | .splitlines =>
      let given ← Eval.ofOption (arguments.between? 0 1)
      let keepEnds ← Eval.ofOption (boolOf? (given.getD 0 (.bool false)))
      newTextList (textLines keepEnds content)

/-- The position of the first item equal to a value, from a position on. -/
def indexOfEqual (store : Store) (value : Value) (position : Nat) :
    List Value → Option (Option Nat)
  | [] => some none
  | item :: rest =>
      match Value.equal? store item value with
      | none => none
      | some true => some (some position)
      | some false => indexOfEqual store value (position + 1) rest

def runListMethod (method : ListMethod) (reference : Nat) (arguments : Arguments) :
    Eval Value := do
  let size := (← Eval.listObject reference).items.size
  match method with
  | .append =>
      let given ← Eval.ofOption (arguments.between? 1 1)
      Eval.changeList reference fun items => items.push (given.getD 0 .none)
      return .none
  | .clear =>
      let _ ← Eval.ofOption (arguments.between? 0 0)
      Eval.changeList reference fun _ => #[]
      return .none
  | .extend =>
      let given ← Eval.ofOption (arguments.between? 1 1)
      let more ← elements (given.getD 0 .none)
      Eval.changeList reference fun items => items.appendList more
      return .none
  | .index =>
      let given ← Eval.ofOption (arguments.between? 1 3)
      let (low, high) ← Eval.ofOption
        (forwardBounds? size (given.getD 1 .none) (given.getD 2 .none))
      let items := (← Eval.listObject reference).items.toList
      let part := (items.drop low.toNat).take (high - low).toNat
      match ← Eval.ofOption (indexOfEqual (← get) (given.getD 0 .none) low.toNat part) with
      | some position => return .integer position
      | none => failure
  | .insert =>
      let given ← Eval.ofOption (arguments.between? 2 2)
      let position ← Eval.ofOption (int64? (given.getD 0 .none))
      let position := if position < 0 then position + size else position
      let position := (clamp 0 size position).toNat
      Eval.changeList reference fun items =>
        items.insertIdxIfInBounds position (given.getD 1 .none)
      return .none
  | .pop =>
      let given ← Eval.ofOption (arguments.between? 0 1)
      let position ← Eval.ofOption (int64? (given.getD 0 (.integer ((size : Int) - 1))))
      let position := if position < 0 then position + size else position
      if position < 0 then failure
      match (← Eval.listObject reference).items[position.toNat]? with
      | none => failure
      | some item =>
          Eval.changeList reference fun items => items.eraseIdxIfInBounds position.toNat
          return item
  | .remove =>
      let given ← Eval.ofOption (arguments.between? 1 1)
      let items := (← Eval.listObject reference).items.toList
      match ← Eval.ofOption (indexOfEqual (← get) (given.getD 0 .none) 0 items) with
      | some position =>
          Eval.changeList reference fun items => items.eraseIdxIfInBounds position
          return .none
      | none => failure

def setPairs (reference : Nat) : List (Value × Value) → Eval Unit
  | [] => pure ()
  | (key, value) :: rest => do
      let _ ← setKey reference key value
      setPairs reference rest

/-- A value of two elements as a pair. -/
def pairOf (value : Value) : Eval (Value × Value) := do
  let items ← sequence value
  match value.length? (← get) with
  | some 2 => return (items.item 0, items.item 1)
  | _ => failure

/-- An element of an update of a dictionary as a pair. The dictionary itself
cannot be one. -/
def updatePair (reference : Nat) (value : Value) : Eval (Value × Value) := do
  match value with
  | .dict other => if other = reference then failure else pairOf value
  | _ => pairOf value

/-- Sets the keys of a dictionary from the arguments of a call: a dictionary or
pairs, then named arguments, none of them twice. -/
def updateDict (reference : Nat) (arguments : Arguments) : Eval Unit := do
  match arguments.positional with
  | [] => pure ()
  | [.dict other] =>
      let object ← Eval.dictObject other
      setPairs reference object.entries
  | [source] =>
      let pairs ← Eval.collect (updatePair reference) (← sequence source)
      setPairs reference pairs
  | _ => failure
  let names := arguments.named.map Prod.fst
  if names.eraseDups.length ≠ names.length then failure
  setPairs reference (arguments.named.map fun entry => (.text entry.1, entry.2))

def runDictMethod (method : DictMethod) (reference : Nat) (arguments : Arguments) :
    Eval Value := do
  match method with
  | .clear =>
      let _ ← Eval.ofOption (arguments.between? 0 0)
      Eval.changeDict reference .cleared
      return .none
  | .get =>
      let given ← Eval.ofOption (arguments.between? 1 2)
      match ← findKey reference (given.getD 0 .none) with
      | some value => return value
      | none => return given.getD 1 .none
  | .items =>
      let _ ← Eval.ofOption (arguments.between? 0 0)
      let entries := (← Eval.dictObject reference).entries
      Eval.newList (entries.map fun entry => .tuple [entry.1, entry.2])
  | .keys =>
      let _ ← Eval.ofOption (arguments.between? 0 0)
      Eval.newList ((← Eval.dictObject reference).entries.map Prod.fst)
  | .values =>
      let _ ← Eval.ofOption (arguments.between? 0 0)
      Eval.newList ((← Eval.dictObject reference).entries.map Prod.snd)
  | .pop =>
      let given ← Eval.ofOption (arguments.between? 1 2)
      match ← removeKey reference (given.getD 0 .none) with
      | some value => return value
      | none => Eval.ofOption given[1]?
  | .popitem =>
      let _ ← Eval.ofOption (arguments.between? 0 0)
      match (← Eval.dictObject reference).entries.head? with
      | none => failure
      | some (key, value) =>
          let _ ← removeKey reference key
          return .tuple [key, value]
  | .setdefault =>
      let given ← Eval.ofOption (arguments.between? 1 2)
      let key := given.getD 0 .none
      match ← findKey reference key with
      | some value => return value
      | none =>
          let value := given.getD 1 .none
          let _ ← setKey reference key value
          return value
  | .update =>
      if 1 < arguments.positional.length then failure
      updateDict reference arguments
      return .none

def Value.methodTable : Value → List (String × Method)
  | .text _ => textMethodTable
  | .bytes _ => bytesMethodTable
  | .list _ => listMethodTable
  | .dict _ => dictMethodTable
  | _ => []

def Value.method? (value : Value) (name : Bytes) : Option Method :=
  (value.methodTable.find? fun entry => Bytes.ofString entry.1 == name).map Prod.snd

/-- A method of a value as a value of its own. -/
def attributeValue? (object : Value) (name : Bytes) : Eval (Option Value) := do
  match object.method? name with
  | some method =>
      let identity ← Eval.freshIdentity
      return some (.method identity method object)
  | none => return none

def runMethod (method : Method) (receiver : Value) (arguments : Arguments) : Eval Value := do
  match method, receiver with
  | .text method, .text content => runTextMethod method content arguments
  | .bytesElems, .bytes content =>
      let _ ← Eval.ofOption (arguments.between? 0 0)
      return .view .byteOrds content
  | .list method, .list reference => runListMethod method reference arguments
  | .dict method, .dict reference => runDictMethod method reference arguments
  | _, _ => failure

end BasicComputer.Expression
