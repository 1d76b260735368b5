import BasicComputer.Assembly.Body
import BasicComputer.Machine.Memory
import BasicComputer.Proofs.LineForm
import BasicComputer.Proofs.Numerals

/-!
Contract: the text of an instruction is a line that gives its word back.

Owns the words that the text of an instruction consists of, and:
- a line that holds only this text is read as an instruction line (`parse_text`);
- its body encodes to the word of the instruction, whatever labels there are, since
  operands are written as numerals (`encode_text`);
- what a word is shown as encodes to that word (`encode_shownAs`).
-/

namespace BasicComputer

open Text

/-- A byte that a line leaves inside a word: it ends neither the word nor the label,
and it starts no comment. -/
def Line.IsWordByte (byte : UInt8) : Prop :=
  IsPlain byte ∧ byte ≠ 0x2F ∧ byte ≠ 0x2C

instance (byte : UInt8) : Decidable (Line.IsWordByte byte) :=
  inferInstanceAs (Decidable (_ ∧ _))

/-- A byte of a line that is nothing but words. -/
def Line.IsTextByte (byte : UInt8) : Prop :=
  byte = 0x20 ∨ IsWordByte byte

instance (byte : UInt8) : Decidable (Line.IsTextByte byte) :=
  inferInstanceAs (Decidable (_ ∨ _))

/-- A word of a line. -/
structure Line.IsWord (word : Bytes) : Prop where
  nonempty : word ≠ []
  bytes : ∀ byte ∈ word, IsWordByte byte

namespace Line

theorem IsWord.fields {word : Bytes} (isWord : IsWord word) : fields word = [word] :=
  fields_of_plain isWord.nonempty fun byte member => (isWord.bytes byte member).1

theorem isWord_of_all {word : Bytes} (nonempty : word ≠ [])
    (all : word.all fun byte => IsWordByte byte) : IsWord word where
  nonempty := nonempty
  bytes := by
    intro byte member
    exact of_decide_eq_true (List.all_eq_true.1 all byte member)

/-- Words with a space between neighbours are found again. -/
theorem fields_joined {words : List Bytes} (areWords : ∀ word ∈ words, IsWord word) :
    Text.fields (Bytes.join [0x20] words) = words :=
  fields_join fun word member => (areWords word member).fields

theorem mem_joined {words : List Bytes} (areWords : ∀ word ∈ words, IsWord word) {byte : UInt8}
    (member : byte ∈ Bytes.join [0x20] words) : IsTextByte byte := by
  rcases Bytes.mem_join member with separator | ⟨word, among, inWord⟩
  · exact .inl (List.mem_singleton.1 separator)
  · exact .inr ((areWords word among).bytes byte inWord)

theorem isWord_upperHex (width number : Nat) : IsWord (upperHex width number) where
  nonempty := upperHex_ne_nil width number
  bytes := by
    have digitByte : ∀ digit < 16, IsWordByte (upperDigitByte digit) := by decide
    intro byte member
    obtain ⟨digit, below, rfl⟩ := upperHex_digit member
    exact digitByte digit below

theorem isWord_decimal (number : Nat) : IsWord (decimal number) where
  nonempty := by simp [decimal, digits_ne_nil]
  bytes := by
    have ofDigit : ∀ digit < 10, IsWordByte (digitByte digit) := by decide
    intro byte member
    obtain ⟨digit, below, rfl⟩ := decimal_digit member
    exact ofDigit digit below

theorem isWord_signedDecimal (number : Int) : IsWord (signedDecimal number) := by
  have digits := isWord_decimal number.natAbs
  unfold signedDecimal
  split
  · refine ⟨by simp, ?_⟩
    intro byte member
    rcases List.mem_cons.1 member with rfl | later
    · decide
    · exact digits.bytes byte later
  · exact digits

end Line

namespace Mnemonic

theorem ofText?_text (mnemonic : Mnemonic) : ofText? mnemonic.text = some mnemonic := by
  cases mnemonic <;> decide

theorem text_injective {first second : Mnemonic} (same : first.text = second.text) :
    first = second := by
  have found := first.ofText?_text
  rw [same, second.ofText?_text] at found
  exact (Option.some.inj found).symm

theorem ofText?_eq_none {name : Bytes} (nameless : ∀ mnemonic : Mnemonic, name ≠ mnemonic.text) :
    ofText? name = none := by
  apply List.find?_eq_none.2
  intro mnemonic _ named
  exact nameless mnemonic (beq_iff_eq.1 named).symm

theorem isWord_text (mnemonic : Mnemonic) : Line.IsWord mnemonic.text := by
  apply Line.isWord_of_all
  · cases mnemonic <;> decide
  · cases mnemonic <;> decide

theorem text_length (mnemonic : Mnemonic) : mnemonic.text.length = 3 := by
  cases mnemonic <;> decide

theorem text_ne_directive (mnemonic : Mnemonic) :
    mnemonic.text ≠ Line.originWord ∧ mnemonic.text ≠ Line.endWord := by
  cases mnemonic <;> decide

theorem eq_of_data {mnemonic : Mnemonic} (data : mnemonic.operationClass = .data) :
    mnemonic = .hex ∨ mnemonic = .dec := by
  revert data
  cases mnemonic <;> decide

theorem base_of_memory {mnemonic : Mnemonic} (memory : mnemonic.operationClass = .memory) :
    mnemonic.base = 16 := by
  revert memory
  cases mnemonic <;> decide

end Mnemonic

namespace Word

theorem ofInt_toNat (word : Word) : ofInt word.toNat = word := by
  have below : word.toNat < 65536 := word.toNat_lt
  have kept : ((word.toNat : Int) % 65536).toNat = word.toNat := by omega
  rw [ofInt, kept, UInt16.ofNat_toNat]

/-- Two's complement gives a word back. -/
theorem ofInt_toSigned (word : Word) : ofInt word.toSigned = word := by
  have below : word.toNat < 65536 := word.toNat_lt
  have kept : (word.toSigned % 65536).toNat = word.toNat := by
    unfold toSigned
    split <;> omega
  rw [ofInt, kept, UInt16.ofNat_toNat]

theorem toSigned_bounds (word : Word) : -0x8000 ≤ word.toSigned ∧ word.toSigned ≤ 0xFFFF := by
  have below : word.toNat < 65536 := word.toNat_lt
  unfold toSigned
  split <;> omega

theorem ofFields_nibble_addressField (word : Word) :
    ofFields word.nibble word.addressField = word := by
  have parts : word.toNat / 4096 * 4096 + word.toNat % 4096 % 4096 = word.toNat := by omega
  rw [ofFields, nibble, addressField, parts, UInt16.ofNat_toNat]

end Word

namespace Body

theorem encode_trim (labels : Labels) (body : Bytes) :
    encode labels (trim body) = encode labels body := by
  rw [encode, fields_trim, encode]

theorem encodeWords_text (labels : Labels) (mnemonic : Mnemonic) (arguments : List Bytes) :
    encodeWords labels (mnemonic.text :: arguments) = encodeWith labels mnemonic arguments := by
  rw [encodeWords, mnemonic.ofText?_text]

theorem words_cases (words : List Bytes) :
    (∃ (mnemonic : Mnemonic) (arguments : List Bytes), words = mnemonic.text :: arguments) ∨
      ∀ mnemonic : Mnemonic, words.head? ≠ some mnemonic.text := by
  by_cases named : ∃ mnemonic : Mnemonic, words.head? = some mnemonic.text
  · obtain ⟨mnemonic, first⟩ := named
    obtain ⟨arguments, rfl⟩ := List.head?_eq_some_iff.1 first
    exact .inl ⟨mnemonic, arguments, rfl⟩
  · exact .inr (not_exists.1 named)

theorem encodeWords_of_nameless {labels : Labels} {words : List Bytes}
    (nameless : ∀ mnemonic : Mnemonic, words.head? ≠ some mnemonic.text) :
    encodeWords labels words = .error (.plain .unknownMnemonic) := by
  cases words with
  | nil => rfl
  | cons first arguments =>
      have unknown : Mnemonic.ofText? first = none :=
        Mnemonic.ofText?_eq_none fun mnemonic same => nameless mnemonic (congrArg some same)
      rw [encodeWords, unknown]

/-- A numeral is an operand whatever labels there are. -/
theorem operandValue_upperHex (labels : Labels) {width number : Nat}
    (small : number < Nat.pow 2 63) :
    operandValue labels 16 (upperHex width number) = .ok (number : Int) := by
  rw [operandValue, readSigned_upperHex small]

theorem operandValue_signedDecimal (labels : Labels) {number : Int}
    (small : number.natAbs < Nat.pow 2 63) :
    operandValue labels 10 (signedDecimal number) = .ok number := by
  rw [operandValue, readSigned_signedDecimal small]

theorem within_of_bounds {least greatest value : Int} (above : least ≤ value)
    (below : value ≤ greatest) : within least greatest value = .ok value :=
  if_pos ⟨above, below⟩

theorem addressingMode_marker (indirect : Bool) :
    addressingMode (if indirect then [indirectMarker] else []) = .ok indirect := by
  cases indirect <;> rfl

theorem memoryWord_upperHex (labels : Labels) {mnemonic : Mnemonic}
    (memory : mnemonic.operationClass = .memory) {address : Nat} (inside : address ≤ addressMask)
    (indirect : Bool) :
    memoryWord labels mnemonic
        (upperHex 3 address :: if indirect then [indirectMarker] else []) =
      .ok (mnemonic.memoryWord address indirect) := by
  have bounded : within 0 addressMask (address : Int) = .ok (address : Int) :=
    within_of_bounds (by omega) (by omega)
  have small : address < Nat.pow 2 63 := Nat.lt_of_le_of_lt inside (by decide)
  rw [memoryWord, Mnemonic.base_of_memory memory, operandValue_upperHex labels small,
    addressingMode_marker]
  simp only [Attempt.ok_bind, bounded]
  rfl

end Body

namespace Instruction

/-- The operand of a literal word as it is written. -/
def literal (instruction : Instruction) : Bytes :=
  if instruction.mnemonic = .dec then signedDecimal instruction.address.toSigned
  else upperHex 4 instruction.address.toNat

/-- The words behind the mnemonic. -/
def arguments (instruction : Instruction) : List Bytes :=
  match instruction.mnemonic.operationClass with
  | .memory =>
      upperHex 3 instruction.address.toNat ::
        (if instruction.indirect then [Body.indirectMarker] else [])
  | .data => [instruction.literal]
  | _ => []

/-- The words of the text of an instruction. -/
def words (instruction : Instruction) : List Bytes :=
  instruction.mnemonic.text :: instruction.arguments

theorem text_eq_join (instruction : Instruction) :
    instruction.text = Bytes.join [0x20] instruction.words := by
  obtain ⟨mnemonic, address, indirect⟩ := instruction
  have marker : Bytes.ofString " I" = 0x20 :: Body.indirectMarker := by decide
  unfold text words arguments literal
  cases operationClass : mnemonic.operationClass with
  | memory => cases indirect <;> simp [Bytes.join, marker]
  | register => simp [Bytes.join]
  | io => simp [Bytes.join]
  | data =>
      rcases Mnemonic.eq_of_data operationClass with rfl | rfl
      · simp [Bytes.join]
      · simp [Bytes.join]

theorem isWord_arguments (instruction : Instruction) :
    ∀ word ∈ instruction.arguments, Line.IsWord word := by
  have marker : Line.IsWord Body.indirectMarker := Line.isWord_of_all (by decide) (by decide)
  have literalWord : Line.IsWord instruction.literal := by
    unfold literal
    split
    · exact Line.isWord_signedDecimal _
    · exact Line.isWord_upperHex _ _
  have address := Line.isWord_upperHex 3 instruction.address.toNat
  unfold arguments
  cases instruction.mnemonic.operationClass with
  | memory => cases instruction.indirect <;> simp [address, marker]
  | register => simp
  | io => simp
  | data => simpa using literalWord

theorem isWord_words (instruction : Instruction) :
    ∀ word ∈ instruction.words, Line.IsWord word := by
  intro word member
  rcases List.mem_cons.1 member with rfl | later
  · exact instruction.mnemonic.isWord_text
  · exact instruction.isWord_arguments word later

theorem fields_text (instruction : Instruction) : fields instruction.text = instruction.words := by
  rw [text_eq_join]
  exact Line.fields_joined instruction.isWord_words

/-- A literal word is read back from its operand. -/
theorem dataWord_literal (labels : Labels) {instruction : Instruction}
    (data : instruction.mnemonic.operationClass = .data) :
    Body.dataWord labels instruction.mnemonic [instruction.literal] = .ok instruction.address := by
  obtain ⟨mnemonic, address, indirect⟩ := instruction
  have below : address.toNat < 65536 := address.toNat_lt
  obtain ⟨least, greatest⟩ := address.toSigned_bounds
  rcases Mnemonic.eq_of_data data with rfl | rfl
  · have bounded : Body.within (-0x8000) 0xFFFF (address.toNat : Int) = .ok (address.toNat : Int) :=
      Body.within_of_bounds (by omega) (by omega)
    have value : Body.operandValue labels Mnemonic.hex.base (upperHex 4 address.toNat) =
        .ok (address.toNat : Int) :=
      Body.operandValue_upperHex labels (Nat.lt_trans below (by decide))
    rw [Body.dataWord, literal, if_neg (show Mnemonic.hex ≠ .dec by decide), value]
    rw [Attempt.ok_bind, bounded, Attempt.ok_bind, Word.ofInt_toNat]
    rfl
  · have bounded : Body.within (-0x8000) 0xFFFF address.toSigned = .ok address.toSigned :=
      Body.within_of_bounds least greatest
    have small : address.toSigned.natAbs < 65536 := by omega
    have value : Body.operandValue labels Mnemonic.dec.base (signedDecimal address.toSigned) =
        .ok address.toSigned :=
      Body.operandValue_signedDecimal labels (Nat.lt_trans small (by decide))
    rw [Body.dataWord, literal, if_pos rfl, value]
    rw [Attempt.ok_bind, bounded, Attempt.ok_bind, Word.ofInt_toSigned]
    rfl

/-- The text of an instruction encodes to the word of the instruction. -/
theorem encode_text {instruction : Instruction} {word : Word}
    (encodes : instruction.encode = .ok word) (labels : Labels) :
    Body.encode labels instruction.text = .ok word := by
  rw [Body.encode, fields_text, words, Body.encodeWords_text]
  unfold encode at encodes
  unfold Body.encodeWith arguments
  cases operationClass : instruction.mnemonic.operationClass with
  | memory =>
      simp only [operationClass] at encodes ⊢
      by_cases outside : addressMask < instruction.address.toNat
      · simp [outside] at encodes
      · rw [if_neg outside] at encodes
        cases encodes
        exact Body.memoryWord_upperHex labels operationClass (Nat.le_of_not_lt outside) _
  | register =>
      simp only [operationClass] at encodes ⊢
      split at encodes
      · contradiction
      · cases encodes
        rfl
  | io =>
      simp only [operationClass] at encodes ⊢
      split at encodes
      · contradiction
      · cases encodes
        rfl
  | data =>
      simp only [operationClass] at encodes ⊢
      split at encodes
      · contradiction
      · cases encodes
        exact dataWord_literal labels operationClass

/-- Spaces and bytes of words are all that the text holds. -/
theorem mem_text {instruction : Instruction} {byte : UInt8} (member : byte ∈ instruction.text) :
    Line.IsTextByte byte := by
  rw [text_eq_join] at member
  exact Line.mem_joined instruction.isWord_words member

/-- The text of an instruction is an instruction line. -/
theorem parse_text (instruction : Instruction) :
    Line.parse instruction.text = .ok ⟨⟨[], trim instruction.text⟩, .instruction⟩ := by
  obtain ⟨notOrigin, notEnd⟩ := instruction.mnemonic.text_ne_directive
  apply Line.parse_instruction _ instruction.fields_text notOrigin notEnd
  apply Line.split_of_noLabel
  · apply Line.noComment_of_noSlash
    intro slash
    exact absurd (mem_text slash) (by decide)
  · intro comma
    exact absurd (mem_text comma) (by decide)

theorem text_length_le (instruction : Instruction) : instruction.text.length ≤ 10 := by
  obtain ⟨mnemonic, address, indirect⟩ := instruction
  have below : address.toNat < 65536 := address.toNat_lt
  have name := mnemonic.text_length
  have hex (width : Nat) (narrow : width ≤ 4) : (upperHex width address.toNat).length ≤ 4 :=
    upperHex_length_le (by decide) narrow below
  have decimal : (signedDecimal address.toSigned).length ≤ 6 := by
    obtain ⟨least, greatest⟩ := address.toSigned_bounds
    have small : address.toSigned.natAbs < 10 ^ 5 := by omega
    exact signedDecimal_length_le (by decide) small
  have marker : (Bytes.ofString " I").length = 2 := by decide
  have short := hex 3 (by decide)
  have full := hex 4 (by decide)
  unfold text
  cases operationClass : mnemonic.operationClass with
  | memory => cases indirect <;> simp <;> omega
  | register => simp; omega
  | io => simp; omega
  | data =>
      rcases Mnemonic.eq_of_data operationClass with rfl | rfl <;> simp <;> omega

/-- An instruction that a word decodes to encodes to the word. -/
theorem encode_of_decode {word : Word} {instruction : Instruction}
    (decoded : decode word = .ok instruction) : instruction.encode = .ok word := by
  unfold decode at decoded
  split at decoded
  · split at decoded
    · next mnemonic found =>
        cases decoded
        have fixed := List.find?_some found
        cases operation : mnemonic.operation with
        | register fixedWord =>
            simp only [operation, beq_iff_eq] at fixed
            simp [encode, Mnemonic.operationClass, operation, Operation.operationClass,
              Mnemonic.fixedWord, fixed]
        | io fixedWord =>
            simp only [operation, beq_iff_eq] at fixed
            simp [encode, Mnemonic.operationClass, operation, Operation.operationClass,
              Mnemonic.fixedWord, fixed]
        | memory nibble => simp [operation] at fixed
        | data base => simp [operation] at fixed
    · contradiction
  · split at decoded
    · next mnemonic found =>
        cases decoded
        have reference := List.find?_some found
        simp only [Bool.and_eq_true, beq_iff_eq] at reference
        obtain ⟨isMemory, nibble⟩ := reference
        have field : word.addressField < 4096 := Nat.mod_lt _ (by decide)
        have kept : (UInt16.ofNat word.addressField).toNat = word.addressField :=
          UInt16.toNat_ofNat_of_lt' (Nat.lt_trans field (by decide))
        have inside : ¬ addressMask < word.addressField := by
          unfold addressMask
          omega
        rw [encode]
        simp only [isMemory, kept, if_neg inside]
        rw [Mnemonic.memoryWord, nibble, Word.ofFields_nibble_addressField]
    · contradiction

end Instruction

namespace Memory

/-- What a word is shown as encodes to the word. -/
theorem encode_shownAs (word : Word) : (shownAs word).encode = .ok word := by
  unfold shownAs
  split
  · next instruction decoded => exact Instruction.encode_of_decode decoded
  · rfl

end Memory

end BasicComputer
