import BasicComputer.Proofs.Literals
import BasicComputer.Proofs.Operands
import BasicComputer.Proofs.Relabeling

/-!
Contract: labels as operands.

An operand is looked up among the labels if the reader of numerals finds it to be none. The
reader stops at the moment a number needs more than 64 bits, so a name that starts with such
a number is never looked up, although it is no numeral.

Owns:
- which bound names can be used as operands (`label_operand_iff`);
- that more labels change no outcome of a body without an expression, unless they bind the
  label that was missing (`encode_of_more_labels`).
-/

namespace BasicComputer

open Text

theorem Text.IsSignedNumeral.sign_or_digit {base : Nat} (few : base ≤ 36) {text : Bytes}
    {value : Int} (numeral : IsSignedNumeral base text value) :
    ∀ byte ∈ text, byte = 0x2B ∨ byte = 0x2D ∨ (digitOf? base byte).isSome := by
  have digit {digits : Bytes} {number : Nat} (numeral : IsNumeral base digits number) :
      ∀ byte ∈ digits, (digitOf? base byte).isSome := by
    intro byte member
    obtain ⟨digit, shows⟩ := numeral.exists_digit byte member
    rw [(digitOf?_eq_some_iff few).2 shows, Option.isSome_some]
  intro byte member
  cases numeral with
  | unsigned numeral => exact .inr (.inr (digit numeral byte member))
  | plus numeral =>
      rcases List.mem_cons.1 member with sign | later
      · exact .inl sign
      · exact .inr (.inr (digit numeral byte later))
  | minus numeral =>
      rcases List.mem_cons.1 member with sign | later
      · exact .inr (.inl sign)
      · exact .inr (.inr (digit numeral byte later))

namespace Body

/-- The operand that an expression is written as. -/
def expressionOperand (text : Bytes) : Bytes :=
  0x24 :: 0x28 :: (text ++ [0x29])

theorem expressionText?_eq_some_iff {word text : Bytes} :
    expressionText? word = some text ↔ text ≠ [] ∧ word = expressionOperand text := by
  unfold expressionOperand
  constructor
  · intro found
    unfold expressionText? at found
    split at found
    · next first rest =>
        split at found
        · next closed =>
            obtain rfl := Option.some.inj found
            obtain ⟨second, more, rfl⟩ := List.exists_cons_of_ne_nil closed.2
            refine ⟨by simp, ?_⟩
            rw [List.dropLast_append_getLast? _ closed.1]
        · contradiction
    · contradiction
  · rintro ⟨nonempty, rfl⟩
    obtain ⟨first, rest, rfl⟩ := List.exists_cons_of_ne_nil nonempty
    have closed : (first :: (rest ++ [0x29])).getLast? = some 0x29 := by
      rw [← List.cons_append, List.getLast?_concat]
    have inner : (first :: (rest ++ [0x29])).dropLast = first :: rest := by
      rw [← List.cons_append, List.dropLast_concat]
    simp [expressionText?, closed, inner]

theorem operandValue_of_label {labels : Labels} {base : Nat} {word : Bytes} {address : Word}
    (read : readSigned base word = .notNumeral) (bound : labels.find? word = some address) :
    operandValue labels base word = .ok address.toNat := by
  simp only [operandValue, read, namedValue, bound]

theorem operandValue_expressionOperand {labels : Labels} {text : Bytes} (base : Nat)
    (nonempty : text ≠ []) (unbound : labels.find? (expressionOperand text) = none) :
    operandValue labels base (expressionOperand text) = expressionValue labels text := by
  have read : readSigned base (expressionOperand text) = .notNumeral := rfl
  have isExpression : expressionText? (expressionOperand text) = some text :=
    expressionText?_eq_some_iff.2 ⟨nonempty, rfl⟩
  simp only [operandValue, read, namedValue, unbound, isExpression]

/-- What the word of a mnemonic holds if its operand has a value: a direct reference to the
value, or the value itself. -/
def operandContent (mnemonic : Mnemonic) (value : Int) : Int :=
  match mnemonic.operationClass with
  | .memory => mnemonic.nibble false * 4096 + value
  | _ => value % 65536

section Operand

variable {labels : Labels} {mnemonic : Mnemonic} {operand : Bytes}

theorem encode_operand (labels : Labels) (mnemonic : Mnemonic)
    (single : fields operand = [operand]) :
    encode labels (Bytes.join [0x20] [mnemonic.text, operand]) =
      encodeWith labels mnemonic [operand] := by
  rw [encode, fields_join, encodeWords_text]
  simp [single, mnemonic.isWord_text.fields]

/-- An operand that has a value gives the word that holds the value, or is invalid if the
mnemonic does not take the value. -/
theorem encodeWith_of_value
    (takes : mnemonic.operationClass = .memory ∨ mnemonic.operationClass = .data) {value : Int}
    (resolves : operandValue labels mnemonic.base operand = .ok value) :
    GivesExactly (Fits mnemonic value) (operandContent mnemonic value)
      (encodeWith labels mnemonic [operand]) := by
  unfold operandContent
  rcases takes with memory | data
  · simp only [encodeWith, memory]
    constructor
    · intro fits
      obtain ⟨least, greatest⟩ := (fits_memory_iff memory).1 fits
      refine ⟨mnemonic.memoryWord value.toNat false, ?_, ?_⟩
      · rw [memoryWord_of_value memory resolves fits]
        rfl
      · rw [Mnemonic.memoryWord, Word.toNat_ofFields (mnemonic.nibble_lt false) (by omega)]
        omega
    · intro outside
      exact memoryWord_of_fault memory (.outside resolves outside) []
  · simp only [encodeWith, data]
    constructor
    · intro fits
      exact ⟨Word.ofInt value, dataWord_of_value data resolves fits, Word.toNat_ofInt value⟩
    · intro outside
      exact dataWord_of_fault data (.outside resolves outside)

/-- What can be wrong with a body apart from its operand. -/
def formKinds : List ErrorKind :=
  [.unknownMnemonic, .missingOperand, .extraTokens, .invalidIndirectFlag]

/-- A body is refused for its form, or because of the operand it is judged by. -/
theorem encodeWords_error_cases {words : List Bytes} {cause : Error}
    (refused : encodeWords labels words = .error cause) :
    (∃ kind, cause = .plain kind ∧ kind ∈ formKinds) ∨
      ∃ mnemonic operand, JudgedBy words mnemonic operand ∧
        OperandFault labels mnemonic operand cause := by
  obtain ⟨⟨rank, fault, first⟩, _⟩ := (encodeWords_eq_error_iff _).1 refused
  cases fault with
  | unknownMnemonic => exact .inl ⟨_, rfl, by decide⟩
  | @arguments mnemonic arguments _ _ named fault =>
      cases fault with
      | @operand operand more _ takes fault =>
          refine .inr ⟨mnemonic, operand, ⟨more, named, ?_⟩, fault⟩
          rcases takes with memory | data
          · exact .inl memory
          · refine .inr ⟨data, ?_⟩
            rcases more with _ | ⟨second, more⟩
            · rfl
            · -- further words of a literal are reported before its operand
              exact absurd (first 3 _ (.arguments named (.dataTokens data))) (by decide)
      | _ => exact .inl ⟨_, rfl, by decide⟩

end Operand

/-! ### Bound names -/

/-- A name that is bound to an address is a valid operand with this address for its value if
and only if it does not start with a number of more than 64 bits; otherwise the operand is
invalid. -/
theorem label_operand_iff (labels : Labels) (name : Bytes) (address : Word) (mnemonic : Mnemonic)
    (nonempty : name ≠ []) (noBlank : NoBlank name) (bound : labels.find? name = some address)
    (small : address.toNat ≤ 0xFFF)
    (takes : mnemonic.operationClass = .memory ∨ mnemonic.operationClass = .data)
    (notNumeral : ∀ value, ¬ IsSignedNumeral mnemonic.base name value) :
    ((∃ word, encode labels (Bytes.join [0x20] [mnemonic.text, name]) = .ok word ∧
        (word.toNat : Int) = operandContent mnemonic address.toNat) ↔
      ¬ StartsTooLarge mnemonic.base name) ∧
      (StartsTooLarge mnemonic.base name →
        encode labels (Bytes.join [0x20] [mnemonic.text, name]) =
          .error (.plain .invalidOperand)) := by
  obtain ⟨positive, few⟩ := base_bounds takes
  rw [encode_operand labels mnemonic (noBlank.fields nonempty)]
  by_cases starts : StartsTooLarge mnemonic.base name
  · have refused : operandValue labels mnemonic.base name = .error (.plain .invalidOperand) := by
      rw [operandValue, readSigned_of_startsTooLarge few starts]
    have failed : encodeWith labels mnemonic [name] = .error (.plain .invalidOperand) :=
      encodeWith_of_operandFault (by simpa using takes) (.unresolved refused)
    simp [starts, failed]
  · have read := (readSigned_eq_notNumeral_iff positive few).2 ⟨notNumeral, starts⟩
    have resolves := operandValue_of_label read bound
    have fits : Fits mnemonic address.toNat := by
      rcases takes with memory | data
      · rw [fits_memory_iff memory]
        unfold addressMask
        omega
      · rw [fits_data_iff data]
        omega
    exact ⟨⟨fun _ => starts, fun _ => (encodeWith_of_value takes resolves).1 fits⟩,
      fun tooLarge => absurd tooLarge starts⟩

/-- Sixteen digits are read before the letter that is none, and their number has 64 bits. -/
theorem label_operand_iff_sixteen :
    let name := Bytes.ofString "FFFFFFFFFFFFFFFFG"
    let labels := Labels.ofList [(name, 9)]
    (name ≠ [] ∧ NoBlank name ∧ labels.find? name = some 9 ∧
        ∀ value, ¬ IsSignedNumeral 16 name value) ∧
      ∃ word, encode labels (Bytes.ofString "LDA FFFFFFFFFFFFFFFFG") = .ok word ∧
        (word.toNat : Int) = 0x2009 := by
  intro name labels
  have read : readSigned 16 name = .notNumeral := by decide
  obtain ⟨notNumeral, notStarts⟩ :=
    (readSigned_eq_notNumeral_iff (by decide) (by decide)).1 read
  refine ⟨⟨by decide, by decide, by decide, notNumeral⟩, ?_⟩
  exact (label_operand_iff labels name 9 .lda (by decide) (by decide) (by decide) (by decide)
    (by decide) notNumeral).1.2 notStarts

/-- One digit more, and the name cannot be used although it is bound and no numeral. -/
theorem bound_name_refused :
    let name := Bytes.ofString "FFFFFFFFFFFFFFFFFG"
    let labels := Labels.ofList [(name, 9)]
    (name ≠ [] ∧ NoBlank name ∧ labels.find? name = some 9 ∧
        ∀ value, ¬ IsSignedNumeral 16 name value) ∧
      encode labels (Bytes.ofString "LDA FFFFFFFFFFFFFFFFFG") =
        .error (.plain .invalidOperand) := by
  intro name labels
  refine ⟨⟨by decide, by decide, by decide, ?_⟩, by decide⟩
  intro value numeral
  have last := numeral.sign_or_digit (by decide) 0x47 (by decide)
  revert last
  decide

/-! ### More labels -/

section MoreLabels

variable {labels larger : Labels}

theorem operandValue_missing {base : Nat} {word name : Bytes}
    (missing : operandValue labels base word = .error (.labelMissing name)) :
    name = word ∧ readSigned base word = .notNumeral ∧ labels.find? word = none ∧
      expressionText? word = none := by
  unfold operandValue namedValue expressionValue at missing
  grind

/-- The label that is missing is the operand. -/
theorem encodeWords_missing {words : List Bytes} {name : Bytes}
    (missing : encodeWords labels words = .error (.labelMissing name)) :
    ∃ (mnemonic : Mnemonic) (more : List Bytes), words = mnemonic.text :: name :: more ∧
      (mnemonic.operationClass = .memory ∨ mnemonic.operationClass = .data ∧ more = []) ∧
      operandValue labels mnemonic.base name = .error (.labelMissing name) := by
  rcases encodeWords_error_cases missing with
    ⟨kind, plain, _⟩ | ⟨mnemonic, operand, ⟨more, named, takes⟩, fault⟩
  · cases plain
  · cases fault with
    | unresolved refused =>
        obtain ⟨rfl, _⟩ := operandValue_missing refused
        exact ⟨mnemonic, more, named, takes, refused⟩

/-- Words that have no operand are encoded without a look at the labels. -/
theorem encodeWords_of_noOperand (labels larger : Labels) {first : Bytes}
    (noOperand : takesOperand first = false) (arguments : List Bytes) :
    encodeWords larger (first :: arguments) = encodeWords labels (first :: arguments) := by
  simp only [encodeWords]
  cases found : Mnemonic.ofText? first with
  | none => rfl
  | some mnemonic =>
      simp only [encodeWith]
      cases operationClass : mnemonic.operationClass with
      | memory => simp [takesOperand, found, operationClass] at noOperand
      | data => simp [takesOperand, found, operationClass] at noOperand
      | register => rfl
      | io => rfl

/-- A body whose operand is no expression has the same outcome under more labels, unless a
label was missing. A label that was missing and is not among the new ones is still missing. -/
theorem encode_of_more_labels (labels larger : Labels) (within : labels.Within larger)
    (body : Bytes)
    (plain : ∀ text, text ≠ [] → operand? (fields body) ≠ some (expressionOperand text)) :
    ((∀ name, encode labels body ≠ .error (.labelMissing name)) →
        encode larger body = encode labels body) ∧
      ∀ name, encode labels body = .error (.labelMissing name) → larger.find? name = none →
        encode larger body = .error (.labelMissing name) := by
  unfold encode
  generalize fields body = words at plain ⊢
  constructor
  · intro found
    rcases words with _ | ⟨first, arguments⟩
    · rfl
    cases takes : takesOperand first with
    | false => exact encodeWords_of_noOperand labels larger takes arguments
    | true =>
        have noExpression : ∀ operand ∈ arguments.head?, expressionText? operand = none := by
          intro operand isFirst
          rw [Option.eq_none_iff_forall_not_mem]
          intro text isText
          obtain ⟨nonempty, rfl⟩ := expressionText?_eq_some_iff.1 isText
          apply plain text nonempty
          rcases arguments with _ | ⟨second, more⟩
          · cases isFirst
          · obtain rfl := Option.some.inj isFirst
            exact if_pos takes
        have outcomes : encodeWords larger (first :: arguments) =
            encodeWords labels (first :: arguments) ∨
              ∃ name, encodeWords labels (first :: arguments) = .error (.labelMissing name) :=
          encodeWords_within within noExpression
        rcases outcomes with same | ⟨name, missing⟩
        · exact same
        · exact absurd missing (found name)
  · intro name missing unbound
    obtain ⟨mnemonic, more, rfl, takes, refused⟩ := encodeWords_missing missing
    obtain ⟨_, read, _, noExpression⟩ := operandValue_missing refused
    have still : operandValue larger mnemonic.base name = .error (.labelMissing name) := by
      simp only [operandValue, read, namedValue, unbound, noExpression]
    rw [encodeWords_text]
    exact encodeWith_of_operandFault takes (.unresolved still)

/-- A bad flag stays the complaint and a missing label stays missing when another label is
defined. -/
theorem encode_of_more_labels_defined :
    let labels := Labels.ofList [(Bytes.ofString "P", 0x123)]
    let larger := labels.insert (Bytes.ofString "Q") 7
    labels.Within larger ∧
      (encode labels (Bytes.ofString "ISZ P J") = .error (.plain .invalidIndirectFlag) ∧
        encode larger (Bytes.ofString "ISZ P J") = .error (.plain .invalidIndirectFlag)) ∧
      encode labels (Bytes.ofString "HEX R") = .error (.labelMissing (Bytes.ofString "R")) ∧
        encode larger (Bytes.ofString "HEX R") = .error (.labelMissing (Bytes.ofString "R")) := by
  intro labels larger
  have within : labels.Within larger := Labels.within_insert (by decide) 7
  have notExpression : ∀ {body : Bytes},
      (operand? (fields body)).bind List.head? ≠ some 0x24 →
      ∀ text, text ≠ [] → operand? (fields body) ≠ some (expressionOperand text) := by
    intro body noMark text _ isExpression
    rw [isExpression] at noMark
    exact noMark rfl
  have flagged : encode labels (Bytes.ofString "ISZ P J") =
      .error (.plain .invalidIndirectFlag) := by decide +kernel
  have missing : encode labels (Bytes.ofString "HEX R") =
      .error (.labelMissing (Bytes.ofString "R")) := by decide +kernel
  refine ⟨within, ⟨flagged, ?_⟩, missing, ?_⟩
  · rw [← flagged]
    apply (encode_of_more_labels labels larger within _ _).1
    · rw [flagged]
      simp
    · exact notExpression (by decide)
  · exact (encode_of_more_labels labels larger within _ (notExpression (by decide))).2 _ missing
      (by decide)

end MoreLabels

end Body

end BasicComputer
