import BasicComputer.Proofs.InstructionText

/-!
Contract: instructions as structures, as words and as text say the same.

Owns that a word which an instruction encodes to decodes to this instruction
(`decode_of_encode`), except for literal words, and that the other words do not decode. With
the text of `Proofs.InstructionText` the three forms agree (`instruction_forms_agree`), also for
instructions that name their mnemonic by number.
-/

namespace BasicComputer

open Text

namespace Mnemonic

theorem atNumber_number (mnemonic : Mnemonic) : atNumber mnemonic.number = .ok mnemonic := by
  cases mnemonic <;> rfl

theorem number_of_atNumber {number : Int} {mnemonic : Mnemonic}
    (found : atNumber number = .ok mnemonic) : (mnemonic.number : Int) = number := by
  have inOrder : ∀ position < all.length,
      (all[position]?).map Mnemonic.number = some position := by decide
  unfold atNumber at found
  split at found
  · contradiction
  · next nonnegative =>
      cases entry : all[number.toNat]? with
      | none => simp [entry] at found
      | some other =>
          obtain rfl : other = mnemonic := by simpa [entry] using found
          have position := inOrder number.toNat (List.getElem?_eq_some_iff.1 entry).1
          rw [entry, Option.map_some, Option.some.injEq] at position
          omega

theorem number_of_data_iff (mnemonic : Mnemonic) :
    ((mnemonic.number : Int) = hex.number ∨ (mnemonic.number : Int) = dec.number) ↔
      mnemonic.operationClass = .data := by
  cases mnemonic <;> decide

theorem nibble_lt (mnemonic : Mnemonic) (indirect : Bool) : mnemonic.nibble indirect < 16 := by
  cases mnemonic <;> cases indirect <;> decide

/-- The nibbles of memory references are no nibbles of other instructions, and their top bits
are the addressing modes. -/
theorem nibble_of_memory {mnemonic : Mnemonic} (memory : mnemonic.operationClass = .memory)
    (indirect : Bool) :
    ¬ (mnemonic.nibble indirect = 0x7 ∨ mnemonic.nibble indirect = 0xF) ∧
      decide (8 ≤ mnemonic.nibble indirect) = indirect := by
  revert memory
  cases mnemonic <;> cases indirect <;> decide

end Mnemonic

namespace Word

theorem toNat_ofFields {nibble address : Nat} (fits : nibble < 16)
    (inside : address ≤ addressMask) :
    (ofFields nibble address).toNat = nibble * 4096 + address := by
  unfold addressMask at inside
  rw [ofFields, UInt16.toNat_ofNat_of_lt', Nat.mod_eq_of_lt (by omega)]
  simp only [UInt16.size]
  omega

theorem nibble_ofFields {nibble address : Nat} (fits : nibble < 16)
    (inside : address ≤ addressMask) : (ofFields nibble address).nibble = nibble := by
  rw [Word.nibble, toNat_ofFields fits inside]
  unfold addressMask at inside
  omega

theorem addressField_ofFields {nibble address : Nat} (fits : nibble < 16)
    (inside : address ≤ addressMask) : (ofFields nibble address).addressField = address := by
  rw [addressField, toNat_ofFields fits inside]
  unfold addressMask at inside
  omega

end Word

namespace Instruction

/-! ### Words and structures -/

theorem memoryMnemonic?_nibble {mnemonic : Mnemonic} (memory : mnemonic.operationClass = .memory)
    (indirect : Bool) : memoryMnemonic? (mnemonic.nibble indirect) indirect = some mnemonic := by
  revert memory
  cases mnemonic <;> cases indirect <;> decide

theorem decode_memoryWord {mnemonic : Mnemonic} (memory : mnemonic.operationClass = .memory)
    {address : Word} (inside : address.toNat ≤ addressMask) (indirect : Bool) :
    decode (mnemonic.memoryWord address.toNat indirect) = .ok ⟨mnemonic, address, indirect⟩ := by
  have fits := mnemonic.nibble_lt indirect
  obtain ⟨notFixed, topBit⟩ := Mnemonic.nibble_of_memory memory indirect
  have nibble := Word.nibble_ofFields fits inside
  rw [decode, Mnemonic.memoryWord, Word.indirectBit, nibble, if_neg notFixed, topBit,
    memoryMnemonic?_nibble memory, Word.addressField_ofFields fits inside, UInt16.ofNat_toNat]

theorem decode_fixedWord {mnemonic : Mnemonic}
    (fixed : mnemonic.operationClass = .register ∨ mnemonic.operationClass = .io) :
    decode mnemonic.fixedWord = .ok { mnemonic := mnemonic } := by
  revert fixed
  cases mnemonic <;> decide

/-- The word of an instruction decodes to the instruction, unless it is a literal. -/
theorem decode_of_encode {instruction : Instruction} {word : Word}
    (encodes : instruction.encode = .ok word)
    (notData : instruction.mnemonic.operationClass ≠ .data) : decode word = .ok instruction := by
  obtain ⟨mnemonic, address, indirect⟩ := instruction
  unfold encode at encodes
  cases operationClass : mnemonic.operationClass with
  | memory =>
      simp only [operationClass] at encodes
      split at encodes
      · contradiction
      · next inside =>
          cases encodes
          exact decode_memoryWord operationClass (Nat.le_of_not_lt inside) indirect
  | register =>
      simp only [operationClass] at encodes
      split at encodes
      · contradiction
      · next bare =>
          obtain ⟨rfl, rfl⟩ : address = 0 ∧ indirect = false := by simpa using bare
          cases encodes
          exact decode_fixedWord (.inl operationClass)
  | io =>
      simp only [operationClass] at encodes
      split at encodes
      · contradiction
      · next bare =>
          obtain ⟨rfl, rfl⟩ : address = 0 ∧ indirect = false := by simpa using bare
          cases encodes
          exact decode_fixedWord (.inr operationClass)
  | data => exact absurd operationClass notData

theorem notData_of_decode {word : Word} {instruction : Instruction}
    (decoded : decode word = .ok instruction) : instruction.mnemonic.operationClass ≠ .data := by
  unfold decode at decoded
  split at decoded
  · split at decoded
    · next mnemonic found =>
        cases decoded
        have fixed := List.find?_some found
        intro data
        rcases Mnemonic.eq_of_data data with rfl | rfl <;> cases fixed
    · contradiction
  · split at decoded
    · next mnemonic found =>
        cases decoded
        have reference := List.find?_some found
        simp only [Bool.and_eq_true, beq_iff_eq] at reference
        simp [reference.1]
    · contradiction

theorem opcodeUnknown_of_decode {word : Word} {cause : Error}
    (failed : decode word = .error cause) : cause = .opcodeUnknown word := by
  unfold decode at failed
  split at failed <;> split at failed <;> cases failed <;> rfl

/-- The instruction with the number of its mnemonic. -/
def numbered (instruction : Instruction) : NumberedInstruction :=
  ⟨instruction.mnemonic.number, instruction.address, instruction.indirect⟩

end Instruction

namespace NumberedInstruction

/-- Whether a number names one of the two mnemonics of literal words. -/
def IsData (numbered : NumberedInstruction) : Prop :=
  numbered.number = Mnemonic.hex.number ∨ numbered.number = Mnemonic.dec.number

instance (numbered : NumberedInstruction) : Decidable numbered.IsData :=
  inferInstanceAs (Decidable (_ ∨ _))

theorem instruction?_numbered (instruction : Instruction) :
    instruction.numbered.instruction? = some instruction := by
  simp [instruction?, Instruction.numbered, Mnemonic.atNumber_number]

theorem encode_numbered (instruction : Instruction) :
    instruction.numbered.encode = instruction.encode := by
  rw [encode, instruction?_numbered]

theorem isData_numbered_iff (instruction : Instruction) :
    instruction.numbered.IsData ↔ instruction.mnemonic.operationClass = .data :=
  instruction.mnemonic.number_of_data_iff

/-- Only instructions of the table have words. -/
theorem exists_of_encode {numbered : NumberedInstruction} {word : Word}
    (encodes : numbered.encode = .ok word) :
    ∃ instruction : Instruction, instruction.numbered = numbered ∧ instruction.encode = .ok word ∧
      instruction.text = numbered.text := by
  cases found : numbered.instruction? with
  | none => simp [encode, found] at encodes
  | some instruction =>
      refine ⟨instruction, ?_, by simpa [encode, found] using encodes, by simp [text, found]⟩
      unfold instruction? at found
      split at found
      · next mnemonic atNumber =>
          cases found
          rw [Instruction.numbered, Mnemonic.number_of_atNumber atNumber]
      · contradiction

/-- The three forms of an instruction agree: its text encodes to its word under all labels, its
word decodes to it unless it is a literal, and the words that do not decode are those of no
other instruction. -/
theorem instruction_forms_agree :
    (∀ (numbered : NumberedInstruction) (word : Word), numbered.encode = .ok word →
        (∀ labels, Body.encode labels numbered.text = .ok word) ∧
          (¬ numbered.IsData →
            (Instruction.decode word).map Instruction.numbered = .ok numbered)) ∧
      ∀ word : Word,
        (∀ instruction, Instruction.decode word = .ok instruction →
          instruction.numbered.encode = .ok word) ∧
        ∀ cause, Instruction.decode word = .error cause ↔
          cause = .opcodeUnknown word ∧
            ∀ numbered : NumberedInstruction, ¬ numbered.IsData → numbered.encode ≠ .ok word := by
  refine ⟨?_, fun word => ⟨?_, fun cause => ⟨?_, ?_⟩⟩⟩
  · intro numbered word encodes
    obtain ⟨instruction, rfl, encoded, sameText⟩ := exists_of_encode encodes
    refine ⟨fun labels => ?_, fun notData => ?_⟩
    · rw [← sameText]
      exact Instruction.encode_text encoded labels
    · rw [isData_numbered_iff] at notData
      rw [Instruction.decode_of_encode encoded notData]
      rfl
  · intro instruction decoded
    rw [encode_numbered]
    exact Instruction.encode_of_decode decoded
  · intro failed
    refine ⟨Instruction.opcodeUnknown_of_decode failed, ?_⟩
    intro numbered notData encodes
    obtain ⟨instruction, rfl, encoded, _⟩ := exists_of_encode encodes
    rw [isData_numbered_iff] at notData
    rw [Instruction.decode_of_encode encoded notData] at failed
    contradiction
  · rintro ⟨rfl, foreign⟩
    cases decoded : Instruction.decode word with
    | error cause => rw [Instruction.opcodeUnknown_of_decode decoded]
    | ok instruction =>
        have encoded := Instruction.encode_of_decode decoded
        rw [← encode_numbered] at encoded
        refine absurd encoded (foreign _ ?_)
        rw [isData_numbered_iff]
        exact Instruction.notData_of_decode decoded

/-- A negative literal and an indirect reference, under labels with the names of their
operands, and a word that is no instruction. -/
theorem instruction_forms_agree_captured :
    let labels := Labels.ofList [(Bytes.ofString "-32767", 1), (Bytes.ofString "0FF", 2)]
    let literal : NumberedInstruction := ⟨26, 0x8001, false⟩
    let reference : NumberedInstruction := ⟨4, 0x0FF, true⟩
    (literal.encode = .ok 0x8001 ∧ literal.text = Bytes.ofString "DEC -32767" ∧
        Body.encode labels literal.text = .ok 0x8001) ∧
      (reference.encode = .ok 0xC0FF ∧ Body.encode labels reference.text = .ok 0xC0FF ∧
        (Instruction.decode 0xC0FF).map Instruction.numbered = .ok reference) ∧
      Instruction.decode 0xF001 = .error (.opcodeUnknown 0xF001) ∧
        ∀ numbered : NumberedInstruction, ¬ numbered.IsData → numbered.encode ≠ .ok 0xF001 := by
  intro labels literal reference
  have literalEncodes : literal.encode = .ok 0x8001 := by decide
  have referenceEncodes : reference.encode = .ok 0xC0FF := by decide
  have failed : Instruction.decode 0xF001 = .error (.opcodeUnknown 0xF001) := by decide
  have referenceForms := instruction_forms_agree.1 reference 0xC0FF referenceEncodes
  refine ⟨⟨literalEncodes, by decide +kernel, ?_⟩, ⟨referenceEncodes, ?_, ?_⟩, failed, ?_⟩
  · exact (instruction_forms_agree.1 literal 0x8001 literalEncodes).1 labels
  · exact referenceForms.1 labels
  · exact referenceForms.2 (by decide)
  · exact (((instruction_forms_agree.2 0xF001).2 _).1 failed).2

end NumberedInstruction

end BasicComputer
