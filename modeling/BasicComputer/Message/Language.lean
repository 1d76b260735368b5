import BasicComputer.Error
import BasicComputer.Message.Subtag
import BasicComputer.Message.Variant
import BasicComputer.Text.Quoted

/-!
Contract: the form of language tags.

A tag is a sequence of subtags of one to eight ASCII letters and digits, joined
by `-` or `_`: a language of two or three letters, more languages of three
letters, a script of four letters, a region of two letters, three letters or
three digits, variants of four or more characters, and extensions that a single
character opens. A tag may also be private, opened by `x`. A few registered tags
are older than this form.

Variants and the keys of the extension `u` are put in order, and repeated ones
are dropped, while the tag is read in place. The extension `t` holds a tag and
fields, and the extension `u` holds attributes and keys, of which no one may have
two values. What stands behind the last extension is not looked at.

Owns the check of the form. Does not own a registry of languages, scripts and
regions.
-/

namespace BasicComputer

open Text

namespace TagFault

def message : TagFault → Bytes
  | .malformed => Bytes.ofString "language: tag is not well-formed"
  | .unknown subtag =>
      Bytes.ofString "language: subtag " ++ quoted subtag ++
        Bytes.ofString " is well-formed but unknown"
  | .twoValues => Bytes.ofString "language: different values for same key in -u extension"

end TagFault

namespace Language

/-- A byte in lower case, and a separator of subtags as `-`. -/
def normalByte (byte : UInt8) : UInt8 :=
  if 0x41 ≤ byte && byte ≤ 0x5A then byte + 0x20
  else if byte = 0x5F then subtagSeparator
  else byte

/-- Tags that are registered although they have another form. -/
def registered : List Bytes :=
  ["art-lojban", "cel-gaulish", "en-gb-oed", "en-us-posix", "i-ami", "i-bnn", "i-default",
    "i-enochian", "i-hak", "i-klingon", "i-lux", "i-mingo", "i-navajo", "i-pwn", "i-tao", "i-tay",
    "i-tsu", "no-bok", "no-nyn", "root", "sgn-be-fr", "sgn-be-nl", "sgn-ch-de", "zh-guoyu",
    "zh-hakka", "zh-min", "zh-min-nan", "zh-xiang"].map Bytes.ofString

/-- The length of the longest registered tag. -/
def registeredLimit : Nat := 11

/-- A character as it is compared with registered tags: only the low byte of its
code counts, and it takes as much space as the character. -/
def registeredCell (character : Character) : Bytes :=
  let code := character.code
  let low := if code < 0x80 then normalByte (UInt8.ofNat code) else UInt8.ofNat code
  low :: List.replicate (character.bytes.length - 1) 0

/-- Whether a tag is registered. Zeros at its end do not count. -/
def isRegistered (tag : Bytes) : Bool :=
  tag.length ≤ registeredLimit &&
    registered.contains
      ((((characters tag).flatMap registeredCell).reverse.dropWhile (· == 0)).reverse)

/-- Whether a reader is at a subtag of a length that starts with a letter. -/
def isWord (length : Nat) (reader : TagReader) : Bool :=
  reader.length == length && (reader.subtag.head?.map isTagLetter).getD false

def hasSecondLetter (reader : TagReader) : Bool :=
  (reader.subtag[1]?.map isTagLetter).getD false

/-- Reads past more languages. They are letters, unless the tag is part of an
extension. Also gives where the subtag before the current one ends. `fuel` bounds
the number of subtags. -/
def passLanguages (inside : Bool) : Nat → TagReader → Nat → Option (TagReader × Nat)
  | 0, _, _ => none
  | fuel + 1, reader, stop =>
      if isWord 3 reader then
        if inside || reader.subtag.all isTagLetter then
          match reader.scan with
          | some after => passLanguages inside fuel after reader.stop
          | none => none
        else none
      else some (reader, stop)

def passScript (reader : TagReader) (stop : Nat) : Option (TagReader × Nat) :=
  if isWord 4 reader then
    if reader.subtag.all isTagLetter then reader.scan.map fun after => (after, reader.stop)
    else none
  else some (reader, stop)

def passRegion (reader : TagReader) (stop : Nat) : Option (TagReader × Nat) :=
  if 2 ≤ reader.length && reader.length ≤ 3 then
    if reader.subtag.all isTagLetter || reader.length == 3 && reader.subtag.all isTagDigit then
      reader.scan.map fun after => (after, reader.stop)
    else none
  else some (reader, stop)

structure VariantList where
  /-- The variants with their ranks, last one first. -/
  found : List (Nat × Bytes) := []
  /-- Whether one of them is out of order. -/
  disordered : Bool := false

/-- The number of variants after which one out of order ends the reading of
variants. -/
def variantLimit : Nat := 8

/-- Reads variants. The current subtag stays if the reading ends at it because there
are too many. Also gives where the last variant that was read past ends. `fuel`
bounds the number of subtags. -/
def readVariants : Nat → TagReader → Nat → VariantList → Option (TagReader × Nat × VariantList)
  | 0, _, _, _ => none
  | fuel + 1, reader, stop, list =>
      if reader.length < 4 then some (reader, stop, list)
      else
        match Variant.rank? reader.subtag with
        | none =>
            match (reader.dropSubtag.withFault (.unknown reader.subtag)).scan with
            | some after => readVariants fuel after stop list
            | none => none
        | some rank =>
            let found := (rank, reader.subtag) :: list.found
            let breaks := (list.found.head?.map fun last => decide (rank ≤ last.1)).getD false
            if !list.disordered && breaks && decide (variantLimit < found.length) then
              some (reader, stop, ⟨found, true⟩)
            else
              match reader.scan with
              | some after =>
                  readVariants fuel after reader.stop ⟨found, list.disordered || breaks⟩
              | none => none

/-- Variants in order without repetitions, as they are written. -/
def orderedVariants (found : List (Nat × Bytes)) : Bytes :=
  let ordered := (found.mergeSort fun left right => left.1 ≤ right.1).eraseDups
  Bytes.join [subtagSeparator] (ordered.map Prod.snd)

/-- Reads past variants and puts them in order. -/
def passVariants (reader : TagReader) (stop : Nat) : Option (TagReader × Nat) :=
  match readVariants reader.fuel reader stop {} with
  | none => none
  | some (after, stop, list) =>
      if list.disordered then
        let after := after.substitute reader.start stop (orderedVariants list.found)
        some (after, after.stop)
      else some (after, stop)

/-- Reads past a language with its script, region and variants. -/
def passTag (inside : Bool) (reader : TagReader) : Option (TagReader × Nat) := do
  if !reader.subtag.all isTagLetter then none
  let after ← reader.scan
  let (after, stop) ← passLanguages inside reader.fuel after reader.stop
  let (after, stop) ← passScript after stop
  let (after, stop) ← passRegion after stop
  passVariants after stop

/-- Reads past the fields of the extension `t`: keys of two characters, the second of
which is no letter, and their values. `fuel` bounds the number of subtags. -/
def passFields : Nat → TagReader → Nat → Option (TagReader × Nat)
  | 0, _, _ => none
  | fuel + 1, reader, stop =>
      if reader.length == 2 && !hasSecondLetter reader then
        match reader.pass 3 with
        | some (after, stop) => passFields fuel after stop
        | none => none
      else some (reader, stop)

def passTransformed (reader : TagReader) : Option (TagReader × Nat) := do
  let after ← reader.scan
  let (after, stop) ←
    if 2 ≤ after.length && after.length ≤ 3 && hasSecondLetter after then passTag true after
    else some (after, reader.stop)
  passFields after.fuel after stop

/-- Reads keys with their values. `fuel` bounds the number of subtags, and `done`
holds what has been read, last one first. -/
def readKeys : Nat → TagReader → Nat → List Bytes → Option (TagReader × Nat × List Bytes)
  | 0, _, _, _ => none
  | fuel + 1, reader, stop, done =>
      if reader.length == 2 then
        match reader.pass 3 with
        | some (after, stop) =>
            readKeys fuel after stop (reader.between reader.start stop :: done)
        | none => none
      else some (reader, stop, done.reverse)

/-- Keys with their values, in order, of which the first one of every key stays. -/
def distinctKeys : List Bytes → List Bytes
  | [] => []
  | first :: rest =>
      match distinctKeys rest with
      | [] => [first]
      | second :: others =>
          if first.take 2 = second.take 2 then first :: others else first :: second :: others

/-- Reads keys again from a position on and puts them in order, each of them
once. -/
def orderKeys (position : Nat) (reader : TagReader) : Option (TagReader × Nat) := do
  let again ← { reader with next := position }.scan
  let (after, stop, keys) ← readKeys reader.fuel again again.stop []
  let ordered := keys.mergeSort fun left right => left.take 2 ≤ right.take 2
  let distinct := distinctKeys ordered
  let conflict := ordered.any fun key => !distinct.contains key
  let after := if conflict then after.withFault .twoValues else after
  let written := Bytes.join [subtagSeparator] distinct
  let high := position + written.length
  if high < stop then return ((after.cut high stop).overwrite position written, high)
  else return (after.overwrite position written, stop)

/-- Reads past the keys of the extension `u`, which start behind `before`. If one
does not come after the one before it, or the tag has a fault, they are put in
order. `fuel` bounds the number of subtags. -/
def passKeys (before : Nat) : Nat → TagReader → Nat → Bytes → Option (TagReader × Nat)
  | 0, _, _, _ => none
  | fuel + 1, reader, stop, last =>
      if reader.length == 2 then
        let key := reader.subtag
        match reader.pass 3 with
        | some (after, stop) =>
            -- keys that ascend are in order as they stand
            if last < key && after.fault.isNone then passKeys before fuel after stop key
            else orderKeys (before + 1) after
        | none => none
      else some (reader, stop)

/-- Reads past the extension `u`: attributes, then keys. -/
def passLocale (reader : TagReader) : Option (TagReader × Nat) := do
  let (after, stop) ← reader.pass 3
  passKeys stop after.fuel after stop []

/-- Reads past the extension that a character opens. A private one takes all that
follows, and one without a meaning all subtags of two or more characters. -/
def passExtension (opening : UInt8) (reader : TagReader) : Option (TagReader × Nat) :=
  if opening = 0x75 then passLocale reader
  else if opening = 0x74 then passTransformed reader
  else if opening = 0x78 then reader.pass 1
  else reader.pass 2

/-- The fewest bytes that an extension must have. -/
def extensionSize (opening : UInt8) : Nat :=
  if opening = 0x78 then 3 else 4

/-- Reads past extensions, of which a private one is the last. `fuel` bounds the
number of subtags. -/
def passExtensions : Nat → TagReader → Option TagReader
  | 0, _ => none
  | fuel + 1, reader =>
      match reader.length, reader.subtag with
      | 1, opening :: _ =>
          match passExtension opening reader with
          | none => none
          | some (after, stop) =>
              if stop < reader.start + extensionSize opening then none
              else if opening = 0x78 then some after
              else passExtensions fuel after
      | _, _ => some reader

/-- Reads a tag. Nothing may be left, unless it is behind extensions. -/
def readTag (tag : Bytes) : Option TagReader := do
  let reader ← (TagReader.ofBytes (tag.map normalByte)).scan
  if reader.length = 1 then
    if reader.subtag = [0x78] then passExtensions reader.fuel reader else none
  else if 2 ≤ reader.length && reader.length ≤ 3 then
    let (after, stop) ← passTag false reader
    if after.length = 1 then passExtensions after.fuel after
    else if stop < after.size then none
    else return after
  else none

def fault? (tag : Bytes) : Option TagFault :=
  if isRegistered tag then none
  else
    match readTag tag with
    | none => some .malformed
    | some reader => reader.fault

def check (tags : List Bytes) : Except Error Unit :=
  match tags.findSome? fault? with
  | none => .ok ()
  | some fault => .error (.external fault.message)

end Language

end BasicComputer
