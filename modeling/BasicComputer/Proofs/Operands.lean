import BasicComputer.Proofs.InstructionText
import BasicComputer.Proofs.Labels

/-!
Contract: what labels do to the word of a body.

Owns:
- that more labels change no word of a body whose operand is no expression, and no
  complaint about it but that a label is missing (`encodeWords_within`);
- that a body which has a word starts with a mnemonic, so its line is an instruction
  (`parse_of_encode`).
-/

namespace BasicComputer

open Text

namespace Labels

/-- Every binding of a table is one of a larger table. -/
def Within (labels larger : Labels) : Prop :=
  ∀ name address, labels.find? name = some address → larger.find? name = some address

theorem Within.refl (labels : Labels) : labels.Within labels :=
  fun _ _ bound => bound

theorem Within.trans {first second third : Labels} (left : first.Within second)
    (right : second.Within third) : first.Within third :=
  fun name address bound => right name address (left name address bound)

theorem within_insert {labels : Labels} {name : Bytes} (unbound : labels.find? name = none)
    (address : Word) : labels.Within (labels.insert name address) := by
  intro other found bound
  rw [find?_insert, if_neg, bound]
  rintro rfl
  rw [unbound] at bound
  contradiction

end Labels

namespace Body

section Within

variable {labels larger : Labels}

theorem namedValue_within (within : labels.Within larger) {word : Bytes}
    (plain : expressionText? word = none) :
    namedValue larger word = namedValue labels word ∨
      namedValue labels word = .error (.labelMissing word) := by
  unfold namedValue
  cases found : labels.find? word with
  | some address =>
      rw [within word address found]
      exact .inl rfl
  | none =>
      rw [plain]
      exact .inr rfl

theorem operandValue_within (within : labels.Within larger) (base : Nat) {word : Bytes}
    (plain : expressionText? word = none) :
    operandValue larger base word = operandValue labels base word ∨
      operandValue labels base word = .error (.labelMissing word) := by
  unfold operandValue
  cases readSigned base word with
  | value number => exact .inl rfl
  | outOfRange => exact .inl rfl
  | notNumeral => exact namedValue_within within plain

theorem memoryWord_within (within : labels.Within larger) (mnemonic : Mnemonic)
    {arguments : List Bytes}
    (plain : ∀ operand ∈ arguments.head?, expressionText? operand = none) :
    memoryWord larger mnemonic arguments = memoryWord labels mnemonic arguments ∨
      ∃ name, memoryWord labels mnemonic arguments = .error (.labelMissing name) := by
  cases arguments with
  | nil => exact .inl rfl
  | cons operand more =>
      rcases operandValue_within within mnemonic.base (plain operand rfl) with same | missing
      · left
        rw [memoryWord, memoryWord, same]
      · refine .inr ⟨operand, ?_⟩
        rw [memoryWord, missing]
        rfl

theorem dataWord_within (within : labels.Within larger) (mnemonic : Mnemonic)
    {arguments : List Bytes}
    (plain : ∀ operand ∈ arguments.head?, expressionText? operand = none) :
    dataWord larger mnemonic arguments = dataWord labels mnemonic arguments ∨
      ∃ name, dataWord labels mnemonic arguments = .error (.labelMissing name) := by
  rcases arguments with _ | ⟨operand, _ | ⟨second, more⟩⟩
  · exact .inl rfl
  · rcases operandValue_within within mnemonic.base (plain operand rfl) with same | missing
    · left
      rw [dataWord, dataWord, same]
    · refine .inr ⟨operand, ?_⟩
      rw [dataWord, missing]
      rfl
  · exact .inl rfl

/-- More labels change nothing about a body without an expression, unless a label was
missing. -/
theorem encodeWords_within (within : labels.Within larger) {words : List Bytes}
    (plain : ∀ operand ∈ words.tail.head?, expressionText? operand = none) :
    encodeWords larger words = encodeWords labels words ∨
      ∃ name, encodeWords labels words = .error (.labelMissing name) := by
  cases words with
  | nil => exact .inl rfl
  | cons first arguments =>
      simp only [encodeWords]
      cases Mnemonic.ofText? first with
      | none => exact .inl rfl
      | some mnemonic =>
          simp only [encodeWith]
          cases mnemonic.operationClass with
          | memory => exact memoryWord_within within mnemonic plain
          | data => exact dataWord_within within mnemonic plain
          | register => exact .inl rfl
          | io => exact .inl rfl

end Within

theorem exists_mnemonic_of_encodeWords {labels : Labels} {words : List Bytes} {word : Word}
    (encoded : encodeWords labels words = .ok word) :
    ∃ (mnemonic : Mnemonic) (arguments : List Bytes), words = mnemonic.text :: arguments := by
  rcases words_cases words with named | nameless
  · exact named
  · rw [encodeWords_of_nameless nameless] at encoded
    contradiction

/-- What has a word is no directive. -/
theorem parse_of_encode {labels : Labels} {text body : Bytes} {word : Word}
    (encoded : encode labels body = .ok word) (parts : Line.split text = ⟨[], trim body⟩) :
    Line.parse text = .ok ⟨⟨[], trim body⟩, .instruction⟩ := by
  obtain ⟨mnemonic, arguments, words⟩ := exists_mnemonic_of_encodeWords encoded
  obtain ⟨notOrigin, notEnd⟩ := mnemonic.text_ne_directive
  exact Line.parse_instruction parts words notOrigin notEnd

end Body

end BasicComputer
