import BasicComputer.Decimal.Reader
import BasicComputer.Text.Category
import BasicComputer.Text.CodePoint
import BasicComputer.Text.Numeral

/-!
Contract: the tokens of the expression language.

`tokens?` reads a whole program. A byte 0 ends the text, `#` starts a comment
that runs to the end, and a backslash may stand at the end only. There is no
other white space, because an operand holds none.

Owns names, keywords, literals and punctuation. A text with a malformed token
has no tokens at all.
-/

namespace BasicComputer.Expression

open Text

/-- The words that are not names. -/
inductive Keyword where
  | wordAnd
  | wordOr
  | wordNot
  | wordIf
  | wordElse
  | wordFor
  | wordIn
  | wordLambda
  | wordPass
  | wordLoad
  /-- A word that no expression and no statement of the language may use. -/
  | reserved
deriving DecidableEq, Repr

inductive Punctuation where
  | plus | minus | star | starStar | slash | slashSlash | percent
  | ampersand | pipe | circumflex | tilde | shiftLeft | shiftRight
  | equal | notEqual | less | greater | lessEqual | greaterEqual
  | assign
  | plusAssign | minusAssign | starAssign | slashAssign | slashSlashAssign | percentAssign
  | ampersandAssign | pipeAssign | circumflexAssign | shiftLeftAssign | shiftRightAssign
  | dot | comma | colon | semicolon
  | openParen | closeParen | openBracket | closeBracket | openBrace | closeBrace
deriving DecidableEq, Repr

inductive Token where
  | name (text : Bytes)
  | keyword (word : Keyword)
  | punctuation (mark : Punctuation)
  | integer (value : Nat)
  | float (value : Float)
  | text (value : Bytes)
  | bytes (value : Bytes)
deriving Repr

def keywordTable : List (String × Keyword) :=
  [("and", .wordAnd), ("or", .wordOr), ("not", .wordNot), ("if", .wordIf), ("else", .wordElse),
    ("for", .wordFor), ("in", .wordIn), ("lambda", .wordLambda), ("pass", .wordPass),
    ("break", .reserved), ("continue", .reserved), ("def", .reserved), ("elif", .reserved),
    ("load", .wordLoad), ("return", .reserved), ("while", .reserved), ("as", .reserved),
    ("async", .reserved), ("await", .reserved), ("class", .reserved), ("del", .reserved),
    ("except", .reserved), ("finally", .reserved), ("from", .reserved), ("global", .reserved),
    ("import", .reserved), ("is", .reserved), ("nonlocal", .reserved), ("raise", .reserved),
    ("try", .reserved), ("with", .reserved), ("yield", .reserved)]

def keyword? (word : Bytes) : Option Keyword :=
  (keywordTable.find? fun entry => Bytes.ofString entry.1 == word).map Prod.snd

/-- The token of a word: a keyword or a name. -/
def wordToken (word : Bytes) : Token :=
  match keyword? word with
  | some keyword => .keyword keyword
  | none => .name word

def startsName (code : Nat) : Bool :=
  code == 0x5F || isLetter code

/-- A code point that can continue a name: of all digits only those of ASCII. -/
def continuesName (code : Nat) : Bool :=
  startsName code || isAsciiDigit code

/-- The rest of a name that starts a text, and what follows it. `inside` is the
number of bytes that still belong to the current character, and `passed` holds
the bytes of the name so far, last one first. -/
def spanName (inside : Nat) (passed : Bytes) : Bytes → Bytes × Bytes
  | [] => (passed.reverse, [])
  | byte :: rest =>
      match inside with
      | left + 1 => spanName left (byte :: passed) rest
      | 0 =>
          match firstCharacter? (byte :: rest) with
          | some (.point code encoding) =>
              if continuesName code then spanName (encoding.length - 1) (byte :: passed) rest
              else (passed.reverse, byte :: rest)
          | _ => (passed.reverse, byte :: rest)

def isDigitByte (base : Nat) (byte : UInt8) : Bool :=
  (digitOf? base byte).isSome

/-- The number that digits of a base write, after `value`. -/
def digitsValue (base : Nat) (value : Nat) (digits : Bytes) : Nat :=
  digits.foldl (fun number byte => number * base + (digitOf? base byte).getD 0) value

/-- An integer with a base mark: at least one digit must follow the mark, and the
value must be below a limit if there is one. -/
def markedInteger? (base : Nat) (limit : Option Nat) (text : Bytes) : Option (Token × Bytes) :=
  let (digits, rest) := text.span (isDigitByte base)
  let value := digitsValue base 0 digits
  if digits.isEmpty then none
  else if limit.any (· ≤ value) then none
  else some (.integer value, rest)

/-- The first integer that cannot be written in octal or binary. -/
def integerLimit : Nat := Nat.pow 2 63

/-- The number that remains when an exponent has been looked for: `digits` are
all digits so far, `places` those after the point. -/
def exponentPart? (digits : Bytes) (places : Nat) (text : Bytes) : Option (Token × Bytes) :=
  let literal (exponent : Int) (rest : Bytes) : Option (Token × Bytes) :=
    let value := Decimal.ofDecimal (digitsValue 10 0 digits) (exponent - places)
    if Decimal.isFinite value then some (.float value, rest) else none
  let scaled (negative : Bool) (after : Bytes) : Option (Token × Bytes) :=
    let (power, rest) := after.span (isDigitByte 10)
    if power.isEmpty then none
    else literal (Decimal.withSign negative (Decimal.exponentNumber power)) rest
  match text with
  | 0x65 :: 0x2B :: after => scaled false after
  | 0x65 :: 0x2D :: after => scaled true after
  | 0x65 :: after => scaled false after
  | 0x45 :: 0x2B :: after => scaled false after
  | 0x45 :: 0x2D :: after => scaled true after
  | 0x45 :: after => scaled false after
  | _ => literal 0 text

/-- The number that starts a text. An integer that starts with 0 and has no base
mark must be zero. -/
def number? (text : Bytes) : Option (Token × Bytes) :=
  match text with
  | 0x30 :: 0x78 :: rest => markedInteger? 16 none rest
  | 0x30 :: 0x58 :: rest => markedInteger? 16 none rest
  | 0x30 :: 0x6F :: rest => markedInteger? 8 integerLimit rest
  | 0x30 :: 0x4F :: rest => markedInteger? 8 integerLimit rest
  | 0x30 :: 0x62 :: rest => markedInteger? 2 integerLimit rest
  | 0x30 :: 0x42 :: rest => markedInteger? 2 integerLimit rest
  | _ =>
      let (digits, rest) := text.span (isDigitByte 10)
      match rest with
      | 0x2E :: afterPoint =>
          let (fraction, afterFraction) := afterPoint.span (isDigitByte 10)
          exponentPart? (digits ++ fraction) fraction.length afterFraction
      | 0x65 :: _ => exponentPart? digits 0 rest
      | 0x45 :: _ => exponentPart? digits 0 rest
      | _ =>
          if digits.head? == some 0x30 && digits.any (· != 0x30) then none
          else some (.integer (digitsValue 10 0 digits), rest)

/-- The raw text of a literal up to its closing quote. -/
def spanQuoted (quote : UInt8) (passed : Bytes) : Bytes → Option (Bytes × Bytes)
  | [] => none
  | byte :: rest =>
      if byte = quote then some (passed.reverse, rest)
      else if byte = 0x0A then none
      else if byte = 0x5C then
        match rest with
        | [] => none
        | escaped :: after => spanQuoted quote (escaped :: byte :: passed) after
      else spanQuoted quote (byte :: passed) rest

/-- The raw text of a literal up to three closing quotes. `run` counts the
quotes just read. -/
def spanTripleQuoted (quote : UInt8) (run : Nat) (passed : Bytes) : Bytes → Option (Bytes × Bytes)
  | [] => none
  | byte :: rest =>
      if byte = quote then
        if run = 2 then some ((passed.drop 2).reverse, rest)
        else spanTripleQuoted quote (run + 1) (byte :: passed) rest
      else if byte = 0x5C then
        match rest with
        | [] => none
        | escaped :: after => spanTripleQuoted quote 0 (escaped :: byte :: passed) after
      else spanTripleQuoted quote 0 (byte :: passed) rest

/-- The byte that a letter stands for after a backslash. -/
def escapeByte? (letter : UInt8) : Option UInt8 :=
  match letter with
  | 0x61 => some 0x07
  | 0x62 => some 0x08
  | 0x66 => some 0x0C
  | 0x6E => some 0x0A
  | 0x72 => some 0x0D
  | 0x74 => some 0x09
  | 0x76 => some 0x0B
  | 0x5C => some 0x5C
  | 0x27 => some 0x27
  | 0x22 => some 0x22
  | _ => none

/-- The number that exactly `count` hexadecimal digits write. -/
def hexDigits? (count : Nat) (text : Bytes) : Option (Nat × Bytes) :=
  let digits := text.take count
  if digits.length = count ∧ digits.all (isDigitByte 16) then
    some (digitsValue 16 0 digits, text.drop count)
  else none

/-- The text of one escape, and what follows it. A text literal takes ASCII
only from numeric byte escapes. -/
def escape? (binary : Bool) (letter : UInt8) (rest : Bytes) : Option (Bytes × Bytes) :=
  match escapeByte? letter with
  | some byte => some ([byte], rest)
  | none =>
      let limit := if binary then 256 else 128
      if 0x30 ≤ letter ∧ letter ≤ 0x37 then
        let more := (rest.take 2).takeWhile (isDigitByte 8)
        let code := digitsValue 8 0 (letter :: more)
        if code < limit then some ([UInt8.ofNat code], rest.drop more.length) else none
      else if letter = 0x78 then
        match hexDigits? 2 rest with
        | some (code, after) => if code < limit then some ([UInt8.ofNat code], after) else none
        | none => none
      else if letter = 0x75 ∨ letter = 0x55 then
        match hexDigits? (if letter = 0x75 then 4 else 8) rest with
        | some (code, after) =>
            if 0x10FFFF < code ∨ 0xD800 ≤ code ∧ code < 0xE000 then none
            else some (encodePoint code, after)
        | none => none
      else none

/-- A raw literal text with its escapes replaced. `fuel` bounds the number of
bytes. -/
def unescape? (binary : Bool) (fuel : Nat) (passed : Bytes) (text : Bytes) : Option Bytes :=
  match fuel, text with
  | _, [] => some passed.reverse
  | 0, _ => none
  | fuel + 1, 0x5C :: letter :: rest =>
      match escape? binary letter rest with
      | some (bytes, after) => unescape? binary fuel (bytes.reverse ++ passed) after
      | none => none
  | fuel + 1, byte :: rest => unescape? binary fuel (byte :: passed) rest

/-- The literal whose opening quote starts a text. Stray bytes are replaced
before escapes are read. -/
def literal? (raw binary : Bool) (text : Bytes) : Option (Token × Bytes) :=
  match text with
  | [] => none
  | quote :: rest =>
      let body :=
        match rest with
        | second :: third :: after =>
            if second = quote ∧ third = quote then spanTripleQuoted quote 0 [] after
            else spanQuoted quote [] rest
        | _ => spanQuoted quote [] rest
      match body with
      | none => none
      | some (content, after) =>
          let content := encodePoints (codePoints content)
          let value := if raw then some content else unescape? binary content.length [] content
          match value with
          | none => none
          | some value => some (if binary then .bytes value else .text value, after)

def isQuote (byte : UInt8) : Bool :=
  byte == 0x22 || byte == 0x27

def plainWord? (text : Bytes) : Option (Token × Bytes) :=
  match firstCharacter? text with
  | some (.point code _) =>
      if startsName code then
        let (word, rest) := spanName 0 [] text
        some (wordToken word, rest)
      else none
  | _ => none

/-- The literal with a mark, or the word, that starts a text: `r` keeps
backslashes and `b` makes bytes. -/
def word? (text : Bytes) : Option (Token × Bytes) :=
  match text with
  | 0x72 :: 0x62 :: quote :: rest =>
      if isQuote quote then literal? true true (quote :: rest) else plainWord? text
  | 0x72 :: quote :: rest =>
      if isQuote quote then literal? true false (quote :: rest) else plainWord? text
  | 0x62 :: quote :: rest =>
      if isQuote quote then literal? false true (quote :: rest) else plainWord? text
  | _ => plainWord? text

/-- The punctuation that starts a text; the longest mark wins. -/
def punctuation? (text : Bytes) : Option (Punctuation × Bytes) :=
  match text with
  | 0x2F :: 0x2F :: 0x3D :: rest => some (.slashSlashAssign, rest)
  | 0x3C :: 0x3C :: 0x3D :: rest => some (.shiftLeftAssign, rest)
  | 0x3E :: 0x3E :: 0x3D :: rest => some (.shiftRightAssign, rest)
  | 0x2B :: 0x3D :: rest => some (.plusAssign, rest)
  | 0x2D :: 0x3D :: rest => some (.minusAssign, rest)
  | 0x2A :: 0x3D :: rest => some (.starAssign, rest)
  | 0x2A :: 0x2A :: rest => some (.starStar, rest)
  | 0x2F :: 0x3D :: rest => some (.slashAssign, rest)
  | 0x2F :: 0x2F :: rest => some (.slashSlash, rest)
  | 0x25 :: 0x3D :: rest => some (.percentAssign, rest)
  | 0x26 :: 0x3D :: rest => some (.ampersandAssign, rest)
  | 0x7C :: 0x3D :: rest => some (.pipeAssign, rest)
  | 0x5E :: 0x3D :: rest => some (.circumflexAssign, rest)
  | 0x3D :: 0x3D :: rest => some (.equal, rest)
  | 0x21 :: 0x3D :: rest => some (.notEqual, rest)
  | 0x3C :: 0x3D :: rest => some (.lessEqual, rest)
  | 0x3E :: 0x3D :: rest => some (.greaterEqual, rest)
  | 0x3C :: 0x3C :: rest => some (.shiftLeft, rest)
  | 0x3E :: 0x3E :: rest => some (.shiftRight, rest)
  | 0x2B :: rest => some (.plus, rest)
  | 0x2D :: rest => some (.minus, rest)
  | 0x2A :: rest => some (.star, rest)
  | 0x2F :: rest => some (.slash, rest)
  | 0x25 :: rest => some (.percent, rest)
  | 0x26 :: rest => some (.ampersand, rest)
  | 0x7C :: rest => some (.pipe, rest)
  | 0x5E :: rest => some (.circumflex, rest)
  | 0x7E :: rest => some (.tilde, rest)
  | 0x3C :: rest => some (.less, rest)
  | 0x3E :: rest => some (.greater, rest)
  | 0x3D :: rest => some (.assign, rest)
  | 0x2E :: rest => some (.dot, rest)
  | 0x2C :: rest => some (.comma, rest)
  | 0x3A :: rest => some (.colon, rest)
  | 0x3B :: rest => some (.semicolon, rest)
  | 0x28 :: rest => some (.openParen, rest)
  | 0x29 :: rest => some (.closeParen, rest)
  | 0x5B :: rest => some (.openBracket, rest)
  | 0x5D :: rest => some (.closeBracket, rest)
  | 0x7B :: rest => some (.openBrace, rest)
  | 0x7D :: rest => some (.closeBrace, rest)
  | _ => none

/-- Whether a text starts with a number: a digit, or a point and a digit. -/
def startsNumber : Bytes → Bool
  | 0x2E :: second :: _ => isDigitByte 10 second
  | first :: _ => isDigitByte 10 first
  | [] => false

/-- Whether the program ends here: no text, a byte 0, a comment, or a backslash
at the end. -/
def endsHere : Bytes → Bool
  | [] => true
  | [byte] => byte == 0 || byte == 0x23 || byte == 0x5C
  | byte :: _ => byte == 0 || byte == 0x23

def nextToken? (text : Bytes) : Option (Token × Bytes) :=
  match text with
  | [] => none
  | first :: _ =>
      if startsNumber text then number? text
      else if isQuote first then literal? false false text
      else
        match punctuation? text with
        | some (mark, rest) => some (.punctuation mark, rest)
        | none => word? text

/-- The tokens of a text, after those in `passed` (last one first). Every token
takes at least one byte, so the length of the text bounds their number. -/
def tokensFrom (fuel : Nat) (passed : List Token) (text : Bytes) : Option (List Token) :=
  if endsHere text then some passed.reverse
  else
    match fuel with
    | 0 => none
    | fuel + 1 =>
        match nextToken? text with
        | some (token, rest) => tokensFrom fuel (token :: passed) rest
        | none => none

def tokens? (text : Bytes) : Option (List Token) :=
  tokensFrom text.length [] text

end BasicComputer.Expression
