import BasicComputer.Text.Category
import BasicComputer.Text.CodePoint
import BasicComputer.Text.Numeral

/-!
Contract: text shown between double quotes.

A printable code point is shown as it is. A quote, a backslash, a control
character, a code point that is not printable and a stray byte are shown as
escapes.

Owns the pieces of a quoted text, so that a writer may treat plain stretches and
escapes differently.
-/

namespace BasicComputer.Text

/-- A piece of quoted text. -/
inductive QuotedPiece where
  /-- Bytes shown as they are. -/
  | plain (bytes : Bytes)
  /-- An escape sequence, backslash included. -/
  | escape (bytes : Bytes)
deriving DecidableEq, Repr

def QuotedPiece.bytes : QuotedPiece → Bytes
  | .plain bytes => bytes
  | .escape bytes => bytes

/-- The letter that stands for a control character after a backslash. -/
def controlLetter? (code : Nat) : Option UInt8 :=
  match code with
  | 0x07 => some 0x61
  | 0x08 => some 0x62
  | 0x0C => some 0x66
  | 0x0A => some 0x6E
  | 0x0D => some 0x72
  | 0x09 => some 0x74
  | 0x0B => some 0x76
  | _ => none

def quoteCharacter : Character → QuotedPiece
  | .stray byte => .escape (0x5C :: 0x78 :: lowerHex 2 byte.toNat)
  | .point code encoding =>
      if code = 0x22 ∨ code = 0x5C then .escape (0x5C :: encoding)
      else if isPrintable code then .plain encoding
      else
        match controlLetter? code with
        | some letter => .escape [0x5C, letter]
        | none =>
            if code < 0x20 ∨ code = 0x7F then .escape (0x5C :: 0x78 :: lowerHex 2 code)
            else if code < 0x10000 then .escape (0x5C :: 0x75 :: lowerHex 4 code)
            else .escape (0x5C :: 0x55 :: lowerHex 8 code)

/-- The pieces that show a text, one for each character. -/
def quotePieces (text : Bytes) : List QuotedPiece :=
  (characters text).map quoteCharacter

def quoted (text : Bytes) : Bytes :=
  0x22 :: ((quotePieces text).flatMap QuotedPiece.bytes ++ [0x22])

end BasicComputer.Text
