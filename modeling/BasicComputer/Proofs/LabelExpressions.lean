import BasicComputer.Expression.Evaluation
import BasicComputer.Proofs.LabelOperands
import BasicComputer.Proofs.Names

/-!
Contract: labels in expressions.

An expression that is a name has the address of the label with this name for its value, also
where the name is a built-in one. The name that the value of every expression is assigned to is
the exception: it means the value that is being computed, so a label with this name is hidden.

Owns:
- the script of an expression that is a name (`script?_of_name`);
- the word of a reference or a literal to such an expression (`encode_label_expression`).
-/

namespace BasicComputer

open Text

namespace Expression

/-! ### The script of a name -/

theorem tokensFrom_next {text rest : Bytes} {token : Token} (goesOn : endsHere text = false)
    (found : nextToken? text = some (token, rest)) (fuel : Nat) (passed : List Token) :
    tokensFrom (fuel + 1) passed text = tokensFrom fuel (token :: passed) rest := by
  rw [tokensFrom, goesOn, if_neg (by decide), found]

theorem tokensFrom_end (fuel : Nat) (passed : List Token) :
    tokensFrom fuel passed [] = some passed.reverse := by
  unfold tokensFrom
  exact if_pos rfl

theorem isName_resultName : IsName resultName := by
  have spelling : resultName = encodePoints [0x72, 0x63] := by decide
  rw [spelling]
  exact .spelled (by decide) (by decide) (by decide)

theorem stopsName_assign (rest : Bytes) : StopsName (0x3D :: rest) := by
  intro code encoding found
  have isAscii : firstCharacter? (0x3D :: rest) = some (.point 0x3D [0x3D]) :=
    firstCharacter?_of_encodes (.one (by decide) rfl) rest
  rw [isAscii] at found
  cases found
  decide

theorem stopsName_end : StopsName [] := by
  intro code encoding found
  cases found

theorem nextToken?_assign {byte : UInt8} (starts : StartsWord byte) (rest : Bytes) :
    nextToken? (0x3D :: byte :: rest) = some (.punctuation .assign, byte :: rest) := by
  have noNumber : startsNumber (0x3D :: byte :: rest) = false := rfl
  rw [nextToken?, noNumber, starts.punctuation?_assign]
  rfl

section Name

variable {name : Bytes} {label? : Bytes → Option Int} {code : Code}

theorem IsName.endsHere (isName : IsName name) (rest : Bytes) :
    endsHere (name ++ rest) = false := by
  obtain ⟨byte, more, rfl, starts⟩ := isName.exists_start
  exact (startsWord_of_isNameStart starts).endsHere (more ++ rest)

theorem tokens?_assignment (isName : IsName name) :
    tokens? (resultName ++ 0x3D :: name) =
      some [.name resultName, .punctuation .assign, wordToken name] := by
  have noQuote : ∀ byte ∈ 0x3D :: name, isQuote byte = false :=
    List.forall_mem_cons.2 ⟨rfl, isName.run.noQuote⟩
  have result := nextToken?_of_isName isName_resultName (stopsName_assign name) noQuote
  have value := nextToken?_of_isName isName stopsName_end (by simp)
  have goesOn := isName.endsHere []
  rw [List.append_nil] at value goesOn
  obtain ⟨byte, more, rfl, starts⟩ := isName.exists_start
  have assign := nextToken?_assign (startsWord_of_isNameStart starts) more
  have enough : (resultName ++ 0x3D :: byte :: more).length = more.length + 1 + 3 := by
    rw [List.length_append]
    exact Nat.add_comm 2 _
  rw [tokens?, enough, tokensFrom_next (isName_resultName.endsHere _) result,
    tokensFrom_next rfl assign, tokensFrom_next goesOn value, tokensFrom_end]
  rfl

theorem statements?_assignment (name : Bytes) :
    statements? [.name resultName, .punctuation .assign, .name name] =
      some [.assign (.name resultName) (.name name)] :=
  rfl

/-- What names mean in an operand expression. -/
def operandScope (label? : Bytes → Option Int) : Scope :=
  ⟨[[]], [], [resultName], label?⟩

theorem resolveScript?_of_name (meaning : (operandScope label?).code? name = some code) :
    resolveScript? label? [.assign (.name resultName) (.name name)] =
      some ⟨[.assign (.global resultName) code], 0, 0⟩ := by
  have names : outermostNames? {} [.assign (.name resultName) (.name name)] =
      some ⟨[], [resultName]⟩ := rfl
  have value : resolve (operandScope label?) (.name name) = pure code := by
    simp only [resolve, meaning]
  have target : resolveTarget (operandScope label?) (.name resultName) =
      pure (.global resultName) := rfl
  have steps : resolveStatements (operandScope label?) [.assign (.name resultName) (.name name)] =
      pure [.assign (.global resultName) code] := by
    simp only [resolveStatements, resolveStatement, value, target, pure_bind, List.append_nil]
  unfold operandScope at steps
  simp only [resolveScript?, names, steps]
  rfl

/-- A name that is no keyword makes the script that assigns what the name means. -/
theorem script?_of_name (isName : IsName name) (notKeyword : keyword? name = none)
    (meaning : (operandScope label?).code? name = some code) :
    script? label? name = some ⟨[.assign (.global resultName) code], 0, 0⟩ := by
  rw [script?, tokens?_assignment isName, wordToken, notKeyword]
  simp only [statements?_assignment]
  exact resolveScript?_of_name meaning

/-! ### What a name means -/

theorem code?_of_label {address : Int} (bound : label? name = some address)
    (other : name ≠ resultName) :
    (operandScope label?).code? name = some (.constant (.integer address)) := by
  simp [Scope.code?, operandScope, slotFrom, other, bound]

theorem code?_resultName (label? : Bytes → Option Int) :
    (operandScope label?).code? resultName = some (.global resultName) := by
  simp [Scope.code?, operandScope, slotFrom]

theorem outcome_of_label {address : Int} (isName : IsName name) (notKeyword : keyword? name = none)
    (bound : label? name = some address) (other : name ≠ resultName)
    (small : 0 ≤ address ∧ address < 0x10000) : outcome label? name = .value address := by
  rw [outcome, script?_of_name isName notKeyword (code?_of_label bound other)]
  have assigned : Script.outcome
      ⟨[.assign (.global resultName) (.constant (.integer address))], 0, 0⟩ =
        .ofValue? (some (.integer address)) := rfl
  have fits : -9223372036854775808 ≤ address ∧ address ≤ 9223372036854775807 := by omega
  simp only [assigned, Outcome.ofValue?, Option.bind_some, int64?, if_pos fits]

/-- The value of the expression is asked for before there is one. -/
theorem outcome_resultName (label? : Bytes → Option Int) :
    outcome label? resultName = .invalid := by
  rw [outcome, script?_of_name isName_resultName (by decide) (code?_resultName label?)]
  rfl

end Name

end Expression

namespace Body

open Expression

theorem fields_expressionOperand {text : Bytes} (run : NameRun text) :
    fields (expressionOperand text) = [expressionOperand text] := by
  have ink (byte : UInt8) (noBlank : isBlankByte byte = false) : singleGlyph byte = .ink byte := by
    rw [singleGlyph, noBlank]
    rfl
  apply fields_of_ink (by simp [expressionOperand])
  unfold expressionOperand
  rw [glyphs_ascii_cons (by decide), glyphs_ascii_cons (by decide), glyphs_append (by decide),
    run.glyphs, ink 0x24 (by decide), ink 0x28 (by decide), ink 0x29 (by decide), glyphs_nil]
  simp

/-- An expression that is the name of a label gives the word that the address of the label
gives, except for the name that the value of an expression is assigned to: this label cannot
be used. -/
theorem encode_label_expression (labels : Labels) (name : Bytes) (address : Word)
    (mnemonic : Mnemonic) (isName : IsName name) (notKeyword : keyword? name = none)
    (bound : labels.find? name = some address)
    (unbound : labels.find? (expressionOperand name) = none)
    (takes : mnemonic.operationClass = .memory ∨ mnemonic.operationClass = .data) :
    (name ≠ resultName →
      GivesExactly (Fits mnemonic address.toNat) (operandContent mnemonic address.toNat)
        (encode labels (Bytes.join [0x20] [mnemonic.text, expressionOperand name]))) ∧
      (name = resultName →
        encode labels (Bytes.join [0x20] [mnemonic.text, expressionOperand name]) =
          .error (.expressionInvalid name)) := by
  have value := operandValue_expressionOperand mnemonic.base isName.nonempty unbound
  have found : labelValue? labels name = some (address.toNat : Int) := by
    rw [labelValue?, bound]
    rfl
  have small : 0 ≤ (address.toNat : Int) ∧ (address.toNat : Int) < 0x10000 := by
    have := address.toNat_lt
    omega
  rw [encode_operand labels mnemonic (fields_expressionOperand isName.run)]
  constructor
  · intro other
    apply encodeWith_of_value takes
    rw [value, expressionValue, outcome_of_label isName notKeyword found other small]
  · rintro rfl
    apply encodeWith_of_operandFault (by simpa using takes)
    apply OperandFault.unresolved
    rw [value, expressionValue, outcome_resultName]

/-- A label hides the built-in name that it is spelled like, and may be too large an address. -/
theorem encode_label_expression_len :
    let name := Bytes.ofString "len"
    let labels (address : Word) := Labels.ofList [(name, address)]
    IsName name ∧ keyword? name = none ∧ builtin? name = some .len ∧
      (∃ word, encode (labels 0x123) (Bytes.ofString "LDA $(len)") = .ok word ∧
        (word.toNat : Int) = 0x2123) ∧
      encode (labels 0x1000) (Bytes.ofString "LDA $(len)") = .error (.plain .invalidOperand) := by
  intro name labels
  have spelling : name = encodePoints [0x6C, 0x65, 0x6E] := by decide
  have isName : IsName name := by
    rw [spelling]
    exact .spelled (by decide) (by decide) (by decide)
  have notKeyword : keyword? name = none := by decide
  refine ⟨isName, notKeyword, by decide, ?_, ?_⟩
  · have gives := (encode_label_expression (labels 0x123) name 0x123 .lda isName notKeyword
      (by decide) (by decide) (by decide)).1 (by decide)
    exact gives.1 ((fits_memory_iff rfl).2 (by decide))
  · have gives := (encode_label_expression (labels 0x1000) name 0x1000 .lda isName notKeyword
      (by decide) (by decide) (by decide)).1 (by decide)
    exact gives.2 (fun fits => absurd ((fits_memory_iff rfl).1 fits) (by decide))

/-- A label with the name that the value is assigned to is bound and hidden. -/
theorem bound_label_hidden :
    let name := Bytes.ofString "rc"
    let labels := Labels.ofList [(name, 5)]
    IsName name ∧ keyword? name = none ∧ labels.find? name = some 5 ∧
      labels.find? (expressionOperand name) = none ∧
      encode labels (Bytes.ofString "LDA $(rc)") = .error (.expressionInvalid name) :=
  ⟨isName_resultName, by decide +kernel⟩

end Body

end BasicComputer
