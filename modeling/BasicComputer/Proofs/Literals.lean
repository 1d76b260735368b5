import BasicComputer.Proofs.BodyGrammar

/-!
Contract: literal operands are exact.

Owns that an operand which is a numeral in the base of its mnemonic stands for its
mathematical value, however long it is and whatever labels there are: the word holds this
value, or the operand is refused (`literals_exact`).
-/

namespace BasicComputer

open Text

namespace Text

theorem ShowsDigit.isWordByte {base digit : Nat} (few : base ≤ 36) {byte : UInt8}
    (shows : ShowsDigit base digit byte) : Line.IsWordByte byte := by
  have every : ∀ digit < 36, Line.IsWordByte (digitByte digit) ∧
      Line.IsWordByte (upperDigitByte digit) := by decide
  obtain ⟨below, shown⟩ := shows
  obtain ⟨lower, upper⟩ := every digit (by omega)
  rcases shown with rfl | rfl
  · exact lower
  · exact upper

theorem IsNumeral.isWord {base number : Nat} (few : base ≤ 36) {text : Bytes}
    (numeral : IsNumeral base text number) : Line.IsWord text where
  nonempty := numeral.nonempty
  bytes := by
    intro byte member
    obtain ⟨digit, shows⟩ := numeral.exists_digit byte member
    exact shows.isWordByte few

theorem IsSignedNumeral.isWord {base : Nat} (few : base ≤ 36) {text : Bytes} {value : Int}
    (numeral : IsSignedNumeral base text value) : Line.IsWord text := by
  have signed {sign : UInt8} {digits : Bytes} (isWordByte : Line.IsWordByte sign)
      (isWord : Line.IsWord digits) : Line.IsWord (sign :: digits) :=
    ⟨List.cons_ne_nil sign digits, List.forall_mem_cons.2 ⟨isWordByte, isWord.bytes⟩⟩
  cases numeral with
  | unsigned numeral => exact numeral.isWord few
  | plus numeral => exact signed (by decide) (numeral.isWord few)
  | minus numeral => exact signed (by decide) (numeral.isWord few)

end Text

namespace Body

/-- A word with this content on a condition, and otherwise an invalid operand. -/
def GivesExactly (inside : Prop) (content : Int) (result : Attempt Error Word) : Prop :=
  (inside → ∃ word, result = .ok word ∧ (word.toNat : Int) = content) ∧
    (¬ inside → result = .error (.plain .invalidOperand))

section Numerals

variable {mnemonic : Mnemonic} {word : Bytes} {value : Int}

theorem operandValue_of_numeral (labels : Labels) {base : Nat} (positive : 0 < base)
    (few : base ≤ 36) (numeral : IsSignedNumeral base word value) :
    operandValue labels base word =
      if FitsSigned value then .ok value else .error (.plain .invalidOperand) := by
  rw [operandValue, readSigned_of_isSignedNumeral positive few numeral]
  by_cases fits : FitsSigned value
  · rw [if_pos fits, if_pos fits]
  · rw [if_neg fits, if_neg fits]

theorem fitsSigned_of_fits (fits : Fits mnemonic value) : FitsSigned value := by
  unfold Fits at fits
  unfold FitsSigned
  omega

theorem base_bounds (takes : mnemonic.operationClass = .memory ∨ mnemonic.operationClass = .data) :
    0 < mnemonic.base ∧ mnemonic.base ≤ 36 := by
  revert takes
  cases mnemonic <;> decide

/-- A numeral that fits is its value; no label is asked for. -/
theorem operandValue_of_fits (labels : Labels)
    (takes : mnemonic.operationClass = .memory ∨ mnemonic.operationClass = .data)
    (numeral : IsSignedNumeral mnemonic.base word value) (fits : Fits mnemonic value) :
    operandValue labels mnemonic.base word = .ok value := by
  obtain ⟨positive, few⟩ := base_bounds takes
  rw [operandValue_of_numeral labels positive few numeral, if_pos (fitsSigned_of_fits fits)]

/-- A numeral that does not fit is an invalid operand, whether or not it has 64 bits. -/
theorem operandFault_of_outside (labels : Labels)
    (takes : mnemonic.operationClass = .memory ∨ mnemonic.operationClass = .data)
    (numeral : IsSignedNumeral mnemonic.base word value) (outside : ¬ Fits mnemonic value) :
    OperandFault labels mnemonic word (.plain .invalidOperand) := by
  obtain ⟨positive, few⟩ := base_bounds takes
  have resolved := operandValue_of_numeral labels positive few numeral
  by_cases fits : FitsSigned value
  · rw [if_pos fits] at resolved
    exact .outside resolved outside
  · rw [if_neg fits] at resolved
    exact .unresolved resolved

theorem encode_join (labels : Labels) {arguments : List Bytes}
    (words : ∀ argument ∈ arguments, Line.IsWord argument) :
    encode labels (Bytes.join [0x20] (mnemonic.text :: arguments)) =
      encodeWith labels mnemonic arguments := by
  rw [encode, Line.fields_joined, encodeWords_text]
  exact List.forall_mem_cons.2 ⟨mnemonic.isWord_text, words⟩

theorem memory_literal (labels : Labels) (memory : mnemonic.operationClass = .memory)
    (numeral : IsSignedNumeral mnemonic.base word value) (indirect : Bool) :
    GivesExactly (0 ≤ value ∧ value ≤ 0xFFF) (mnemonic.nibble indirect * 4096 + value)
      (encodeWith labels mnemonic (word :: if indirect then [indirectMarker] else [])) := by
  have same : Fits mnemonic value ↔ 0 ≤ value ∧ value ≤ 0xFFF := fits_memory_iff memory
  simp only [encodeWith, memory]
  constructor
  · intro inside
    have resolves := operandValue_of_fits labels (.inl memory) numeral (same.2 inside)
    refine ⟨mnemonic.memoryWord value.toNat indirect, ?_, ?_⟩
    · rw [memoryWord_of_value memory resolves (same.2 inside), addressingMode_marker]
      rfl
    · have small : value.toNat ≤ addressMask := by
        unfold addressMask
        omega
      rw [Mnemonic.memoryWord, Word.toNat_ofFields (mnemonic.nibble_lt indirect) small]
      omega
  · intro outside
    have fault := operandFault_of_outside labels (.inl memory) numeral (mt same.1 outside)
    exact memoryWord_of_fault memory fault _

theorem data_literal (labels : Labels) (data : mnemonic.operationClass = .data)
    (numeral : IsSignedNumeral mnemonic.base word value) :
    GivesExactly (-32768 ≤ value ∧ value ≤ 65535) (value % 65536)
      (encodeWith labels mnemonic [word]) := by
  have same : Fits mnemonic value ↔ -32768 ≤ value ∧ value ≤ 65535 := fits_data_iff data
  simp only [encodeWith, data]
  constructor
  · intro inside
    have resolves := operandValue_of_fits labels (.inr data) numeral (same.2 inside)
    have encoded := dataWord_of_value data resolves (same.2 inside)
    exact ⟨Word.ofInt value, encoded, Word.toNat_ofInt value⟩
  · intro outside
    have fault := operandFault_of_outside labels (.inr data) numeral (mt same.1 outside)
    exact dataWord_of_fault data fault

end Numerals

/-- A numeral is taken at its value if this is in the range of the mnemonic, and refused
otherwise, whatever labels are bound. -/
theorem literals_exact (labels : Labels) (word : Bytes) (value : Int) :
    (IsSignedNumeral 16 word value →
        (∀ mnemonic : Mnemonic, mnemonic.operationClass = .memory →
          GivesExactly (0 ≤ value ∧ value ≤ 0xFFF) (mnemonic.nibble false * 4096 + value)
              (encode labels (Bytes.join [0x20] [mnemonic.text, word])) ∧
            GivesExactly (0 ≤ value ∧ value ≤ 0xFFF) (mnemonic.nibble true * 4096 + value)
              (encode labels (Bytes.join [0x20] [mnemonic.text, word, indirectMarker]))) ∧
          GivesExactly (-32768 ≤ value ∧ value ≤ 65535) (value % 65536)
            (encode labels (Bytes.join [0x20] [Mnemonic.hex.text, word]))) ∧
      (IsSignedNumeral 10 word value →
        GivesExactly (-32768 ≤ value ∧ value ≤ 65535) (value % 65536)
          (encode labels (Bytes.join [0x20] [Mnemonic.dec.text, word]))) := by
  constructor
  · intro numeral
    have isWord := numeral.isWord (by decide)
    have isMarker : Line.IsWord indirectMarker := Line.isWord_of_all (by decide) (by decide)
    constructor
    · intro mnemonic memory
      have direct := memory_literal labels memory (Mnemonic.base_of_memory memory ▸ numeral)
      rw [encode_join labels (by simpa using isWord),
        encode_join labels (by simp [isWord, isMarker])]
      exact ⟨direct false, direct true⟩
    · rw [encode_join labels (by simpa using isWord)]
      exact data_literal labels rfl numeral
  · intro numeral
    rw [encode_join labels (by simpa using numeral.isWord (by decide))]
    exact data_literal labels rfl numeral

/-- A numeral with a sign and zeros in front that is also the name of a label, and one that
needs more than 64 bits and would be 1 without the bits that do not fit. -/
theorem literals_exact_large :
    let labels := Labels.ofList [(Bytes.ofString "+000fF", 0x123)]
    (IsSignedNumeral 16 (Bytes.ofString "+000fF") 0xFF ∧
        labels.find? (Bytes.ofString "+000fF") = some 0x123 ∧
        ∃ word : Word, encode labels (Bytes.ofString "LDA +000fF I") = .ok word ∧
          (word.toNat : Int) = 0xA0FF) ∧
      IsSignedNumeral 10 (Bytes.ofString "18446744073709551617") 18446744073709551617 ∧
        encode labels (Bytes.ofString "DEC 18446744073709551617") =
          .error (.plain .invalidOperand) := by
  intro labels
  have short : IsSignedNumeral 16 (Bytes.ofString "+000fF") 0xFF := by
    have read : readUnsigned 16 (Bytes.ofString "000fF") = .value 0xFF := by decide
    exact .plus (isNumeral_of_readUnsigned (by decide) read)
  have long : IsSignedNumeral 10 (Bytes.ofString "18446744073709551617") 18446744073709551617 :=
    .unsigned (isNumeral_map_digitByte
      [1, 8, 4, 4, 6, 7, 4, 4, 0, 7, 3, 7, 0, 9, 5, 5, 1, 6, 1, 7] (by decide) (by decide))
  refine ⟨⟨short, by decide, ?_⟩, long, ?_⟩
  · exact (((literals_exact labels _ _).1 short).1 .lda rfl).2.1 (by decide)
  · exact ((literals_exact labels _ _).2 long).2 (by decide)

end Body

end BasicComputer
