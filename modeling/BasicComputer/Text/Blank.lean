import BasicComputer.Text.Bytes

/-!
Contract: white space in byte strings.

A blank is the UTF-8 encoding of a code point with the property White_Space.
Such an encoding starts at an ASCII byte or at a lead byte, and neither can
stand inside the encoding of another code point, so blanks are found without
decoding the text around them.

Owns `trim` and `fields`. Bytes that belong to no valid encoding are never
blank.
-/

namespace BasicComputer.Text

/-- A unit of text for the purposes of white space. -/
inductive Glyph where
  /-- The encoding of a white space code point. -/
  | blank (encoding : Bytes)
  /-- A byte that is part of no blank. -/
  | ink (byte : UInt8)
deriving DecidableEq, Repr

namespace Glyph

def bytes : Glyph → Bytes
  | .blank encoding => encoding
  | .ink byte => [byte]

def isBlank : Glyph → Bool
  | .blank _ => true
  | .ink _ => false

end Glyph

/-- ASCII white space: U+0009 to U+000D and U+0020. -/
def isBlankByte (byte : UInt8) : Bool :=
  (9 ≤ byte && byte ≤ 13) || byte == 32

/-- White space of two bytes: U+0085 and U+00A0. -/
def isBlankPair (first second : UInt8) : Bool :=
  first == 0xC2 && (second == 0x85 || second == 0xA0)

/-- White space of three bytes: U+1680, U+2000 to U+200A, U+2028, U+2029,
U+202F, U+205F and U+3000. -/
def isBlankTriple (first second third : UInt8) : Bool :=
  (first == 0xE1 && second == 0x9A && third == 0x80) ||
  (first == 0xE2 && second == 0x80 &&
    ((0x80 ≤ third && third ≤ 0x8A) || third == 0xA8 || third == 0xA9 || third == 0xAF)) ||
  (first == 0xE2 && second == 0x81 && third == 0x9F) ||
  (first == 0xE3 && second == 0x80 && third == 0x80)

def singleGlyph (byte : UInt8) : Glyph :=
  if isBlankByte byte then .blank [byte] else .ink byte

/-- The glyphs of a text, after those in `passed` (last one first). -/
def glyphsFrom (passed : List Glyph) : Bytes → List Glyph
  | [] => passed.reverse
  | [first] => (singleGlyph first :: passed).reverse
  | [first, second] =>
      if isBlankPair first second then (.blank [first, second] :: passed).reverse
      else glyphsFrom (singleGlyph first :: passed) [second]
  | first :: second :: third :: rest =>
      if isBlankTriple first second third then
        glyphsFrom (.blank [first, second, third] :: passed) rest
      else if isBlankPair first second then
        glyphsFrom (.blank [first, second] :: passed) (third :: rest)
      else glyphsFrom (singleGlyph first :: passed) (second :: third :: rest)

def glyphs (text : Bytes) : List Glyph :=
  glyphsFrom [] text

def glyphBytes (run : List Glyph) : Bytes :=
  run.flatMap Glyph.bytes

/-- A run of glyphs without the blanks at its two ends. -/
def trimGlyphs (run : List Glyph) : List Glyph :=
  ((run.dropWhile Glyph.isBlank).reverse.dropWhile Glyph.isBlank).reverse

/-- A text without the white space at its two ends. -/
def trim (text : Bytes) : Bytes :=
  glyphBytes (trimGlyphs (glyphs text))

/-- The fields of a run of glyphs. `done` holds the finished fields, last one
first, and `word` the bytes of the field being read, last one first. -/
def fieldsFrom (done : List Bytes) (word : Bytes) : List Glyph → List Bytes
  | [] => (if word.isEmpty then done else word.reverse :: done).reverse
  | .blank _ :: rest =>
      fieldsFrom (if word.isEmpty then done else word.reverse :: done) [] rest
  | .ink byte :: rest => fieldsFrom done (byte :: word) rest

/-- The maximal stretches of a text that hold no white space. -/
def fields (text : Bytes) : List Bytes :=
  fieldsFrom [] [] (glyphs text)

end BasicComputer.Text
