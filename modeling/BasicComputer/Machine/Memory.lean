import BasicComputer.Machine.Instruction

/-!
Contract: the memory of the basic computer and its binary image.

An image is every word of memory, the high byte of a word first. `Memory.read`
accepts exactly the byte strings that `Memory.binary` produces.
-/

namespace BasicComputer

open Text

abbrev Memory := Vector Word memorySize

/-- The number of bytes of an image. -/
def imageSize : Nat := 8192

namespace Memory

def zero : Memory :=
  Vector.replicate memorySize 0

/-- The two bytes of a word, high byte first. -/
def wordBytes (word : Word) : Bytes :=
  [UInt8.ofNat (word.toNat / 256), UInt8.ofNat (word.toNat % 256)]

def binary (memory : Memory) : Bytes :=
  memory.toList.flatMap wordBytes

/-- The words that pairs of bytes are; a last single byte is dropped. -/
def wordsOf : Bytes → List Word
  | high :: low :: rest => UInt16.ofNat (high.toNat * 256 + low.toNat) :: wordsOf rest
  | _ => []

theorem wordsOf_length (bytes : Bytes) : (wordsOf bytes).length = bytes.length / 2 := by
  fun_induction wordsOf bytes with
  | case1 high low rest inductionHypothesis =>
      simp only [List.length_cons, inductionHypothesis]
      omega
  | case2 bytes notPair =>
      match bytes, notPair with
      | [], _ => rfl
      | [_], _ => simp
      | high :: low :: rest, notPair => exact absurd rfl (notPair high low rest)

/-- Reads an image. `failure` is the text of the failure that ends the input, if
it does not simply end. A failure after a whole image is not noticed. -/
def read (image : Bytes) (failure : Option Bytes) : Except Error Memory :=
  if size : image.length = imageSize then
    .ok ⟨(wordsOf image).toArray, by
      rw [List.size_toArray, wordsOf_length, size]
      rfl⟩
  -- a failure is noticed only while bytes are missing
  else if image.length < imageSize then
    match failure with
    | some text => .error (.external text)
    | none => .error (.plain .imageSize)
  else .error (.plain .imageSize)

/-- The addresses and words that are not zero, lowest address first. -/
def used (memory : Memory) : List (Nat × Word) :=
  memory.toList.zipIdx.filterMap fun (word, address) =>
    if word = 0 then none else some (address, word)

def hexRow (address : Nat) (word : Word) : Bytes :=
  upperHex 3 address ++ Bytes.ofString ": " ++ upperHex 4 word.toNat

/-- The instruction that a word is shown as: a literal word if it encodes no
instruction. -/
def shownAs (word : Word) : Instruction :=
  match Instruction.decode word with
  | .ok instruction => instruction
  | .error _ => { mnemonic := .hex, address := word }

def disassemblyRow (address : Nat) (word : Word) : Bytes :=
  hexRow address word ++ Bytes.ofString "  " ++ (shownAs word).text

/-- The disassembly of memory, one row for each word that is not zero. -/
def disassembly (memory : Memory) : List Bytes :=
  memory.used.map fun (address, word) => disassemblyRow address word

end Memory

end BasicComputer
