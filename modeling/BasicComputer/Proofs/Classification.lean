import BasicComputer.Proofs.BlamedLine

/-!
Contract: the kinds that failures answer to.

A failure of assembling answers to exactly one kind. The evaluation of an expression that asks
for more than there can be is no failure: it breaks down, and nothing is returned.

Owns:
- what an operand resolves to, said without the encoder (`Body.Resolves`, `Body.Breaks`);
- which line reading a text comes to (`Assembler.ComesTo`), and which operand
  (`Assembler.OperandAt`);
- the kind of every failure of a text, the failure of every operand that does not resolve to a
  value of the right size, and the texts that break down (`assembleText_classified`).
-/

namespace BasicComputer

open Text

/-! ### Kinds -/

/-- Whether source text can fail in this way. The other kinds are for words, images and the
arguments of commands. -/
def ErrorKind.isAssembly : ErrorKind → Bool
  | .opcodeDecode | .imageSize | .format | .define => false
  | _ => true

theorem ErrorKind.isAssembly_of_isFormal {kind : ErrorKind} (formal : kind.isFormal = true) :
    kind.isAssembly = true := by
  revert formal
  cases kind <;> decide

namespace Error

/-- An error that answers to one kind, which is one of assembling. -/
def Classified (error : Error) : Prop :=
  ∃ kind : ErrorKind, kind.isAssembly = true ∧ ∀ other, error.Is other ↔ other = kind

theorem Is.classified {error : Error} {kind : ErrorKind} (isKind : error.Is kind)
    (assembly : kind.isAssembly = true) : error.Classified := by
  refine ⟨kind, assembly, fun other => ?_⟩
  rw [is_iff] at isKind ⊢
  simp [isKind, eq_comm]

theorem IsFormal.not_operand {cause : Error} (formal : cause.IsFormal) :
    ¬ cause.Is .invalidOperand := by
  obtain ⟨kind, rfl, isFormal⟩ := formal
  intro isOperand
  cases isOperand
  contradiction

end Error

theorem Failure.is_error_iff (failure : Failure) (kind : ErrorKind) :
    failure.error.Is kind ↔ failure.cause.Is kind := by
  constructor
  · intro isKind
    cases isKind with
    | atLine _ _ isKind => exact isKind
  · exact .atLine failure.number failure.line

/-! ### Operands -/

namespace Body

/-- The value that an operand has: a number of any size, else the address of a label, else the
value of an expression. -/
inductive Resolves (labels : Labels) (base : Nat) (operand : Bytes) : Int → Prop
  | numeral {value : Int} (numeral : IsSignedNumeral base operand value) :
      Resolves labels base operand value
  | label {address : Word} (notNumeral : ∀ value, ¬ IsSignedNumeral base operand value)
      (notLarge : ¬ StartsTooLarge base operand) (bound : labels.find? operand = some address) :
      Resolves labels base operand address.toNat
  | expression {text : Bytes} {value : Int} (nonempty : text ≠ [])
      (written : operand = expressionOperand text) (unbound : labels.find? operand = none)
      (evaluated : Expression.outcome (labelValue? labels) text = .value value) :
      Resolves labels base operand value

/-- An operand whose evaluation asks for more than there can be. -/
def Breaks (labels : Labels) (operand reason : Bytes) : Prop :=
  ∃ text, text ≠ [] ∧ operand = expressionOperand text ∧ labels.find? operand = none ∧
    Expression.outcome (labelValue? labels) text = .broken reason

/-- An operand without a value that the mnemonic takes. -/
def Unusable (labels : Labels) (mnemonic : Mnemonic) (operand : Bytes) : Prop :=
  ∀ value, Resolves labels mnemonic.base operand value → ¬ Fits mnemonic value

section Operand

variable {labels : Labels} {mnemonic : Mnemonic} {operand : Bytes}

theorem operandValue_of_resolves {base : Nat} (positive : 0 < base) (few : base ≤ 36)
    {value : Int} (resolves : Resolves labels base operand value) (fits : FitsSigned value) :
    operandValue labels base operand = .ok value := by
  cases resolves with
  | numeral numeral => rw [operandValue_of_numeral labels positive few numeral, if_pos fits]
  | label notNumeral notLarge bound =>
      have read := (readSigned_eq_notNumeral_iff positive few).2 ⟨notNumeral, notLarge⟩
      exact operandValue_of_label read bound
  | expression nonempty written unbound evaluated =>
      subst written
      rw [operandValue_expressionOperand base nonempty unbound, expressionValue, evaluated]

/-- An operand has its value, is invalid, or breaks down. -/
theorem operandValue_cases (labels : Labels) {base : Nat} (positive : 0 < base) (few : base ≤ 36)
    (operand : Bytes) :
    (∃ value, operandValue labels base operand = .ok value ∧ Resolves labels base operand value) ∨
      (∃ cause, operandValue labels base operand = .error cause) ∨
      ∃ reason, operandValue labels base operand = .broken reason ∧
        Breaks labels operand reason := by
  by_cases read : readSigned base operand = .notNumeral
  · obtain ⟨notNumeral, notLarge⟩ := (readSigned_eq_notNumeral_iff positive few).1 read
    cases bound : labels.find? operand with
    | some address =>
        exact .inl ⟨_, operandValue_of_label read bound, .label notNumeral notLarge bound⟩
    | none =>
        cases isExpression : expressionText? operand with
        | none =>
            refine .inr (.inl ⟨.labelMissing operand, ?_⟩)
            simp only [operandValue, read, namedValue, bound, isExpression]
        | some text =>
            obtain ⟨nonempty, rfl⟩ := expressionText?_eq_some_iff.1 isExpression
            rw [operandValue_expressionOperand base nonempty bound, expressionValue]
            cases evaluated : Expression.outcome (labelValue? labels) text with
            | value number =>
                exact .inl ⟨number, rfl, .expression nonempty rfl bound evaluated⟩
            | invalid => exact .inr (.inl ⟨_, rfl⟩)
            | broken reason =>
                exact .inr (.inr ⟨reason, rfl, text, nonempty, rfl, bound, evaluated⟩)
  · rcases exists_numeral_of_readSigned few read with ⟨number, numeral⟩ | large
    · rw [operandValue_of_numeral labels positive few numeral]
      by_cases fits : FitsSigned number
      · exact .inl ⟨number, if_pos fits, .numeral numeral⟩
      · exact .inr (.inl ⟨_, if_neg fits⟩)
    · refine .inr (.inl ⟨.plain .invalidOperand, ?_⟩)
      rw [operandValue, readSigned_of_startsTooLarge few large]

theorem operandValue_of_breaks (base : Nat) {reason : Bytes}
    (breaks : Breaks labels operand reason) :
    operandValue labels base operand = .broken reason := by
  obtain ⟨text, nonempty, rfl, unbound, outcome⟩ := breaks
  rw [operandValue_expressionOperand base nonempty unbound, expressionValue, outcome]

variable (takes : mnemonic.operationClass = .memory ∨ mnemonic.operationClass = .data)
include takes

theorem Breaks.unusable {reason : Bytes} (breaks : Breaks labels operand reason) :
    Unusable labels mnemonic operand := by
  obtain ⟨positive, few⟩ := base_bounds takes
  intro value resolves fits
  have resolved := operandValue_of_resolves positive few resolves (fitsSigned_of_fits fits)
  rw [operandValue_of_breaks mnemonic.base breaks] at resolved
  contradiction

theorem breaks_of_operandValue {reason : Bytes}
    (broken : operandValue labels mnemonic.base operand = .broken reason) :
    Breaks labels operand reason := by
  obtain ⟨positive, few⟩ := base_bounds takes
  rcases operandValue_cases labels positive few operand with
    ⟨value, resolved, _⟩ | ⟨cause, refused⟩ | ⟨other, alsoBroken, breaks⟩
  · rw [resolved] at broken
    contradiction
  · rw [refused] at broken
    contradiction
  · rw [alsoBroken] at broken
    cases broken
    exact breaks

theorem OperandFault.unusable {cause : Error}
    (fault : OperandFault labels mnemonic operand cause) : Unusable labels mnemonic operand := by
  obtain ⟨positive, few⟩ := base_bounds takes
  intro value resolves fits
  have resolved := operandValue_of_resolves positive few resolves (fitsSigned_of_fits fits)
  exact fault.not_fits resolved fits

/-- An operand that cannot be used is at fault, unless it breaks down. -/
theorem exists_operandFault (unusable : Unusable labels mnemonic operand)
    (whole : ∀ reason, ¬ Breaks labels operand reason) :
    ∃ cause, OperandFault labels mnemonic operand cause := by
  obtain ⟨positive, few⟩ := base_bounds takes
  rcases operandValue_cases labels positive few operand with
    ⟨value, resolved, resolves⟩ | ⟨cause, refused⟩ | ⟨reason, _, breaks⟩
  · exact ⟨_, .outside resolved (unusable value resolves)⟩
  · exact ⟨cause, .unresolved refused⟩
  · exact absurd breaks (whole reason)

end Operand

end Body

namespace Assembler

/-! ### Texts -/

/-- Reading a text comes to a line: the lines before it are assembled when they stand alone, and
none of them is an end directive. -/
structure ComesTo (assembler : Assembler) (text : Bytes) (count : Nat) (line : Bytes) : Prop where
  line : (Source.delivered text)[count]? = some line
  assembled : ∃ program,
    (assembler.assembleText (Source.firstLines count text)).result = .ok program
  noEnd : ∀ passed ∈ (Source.delivered text).take count, Line.isEnd passed = false

/-- The run over the first lines of a text. -/
def runTo (assembler : Assembler) (text : Bytes) (count : Nat) : Progress × Verdict :=
  assembler.begin.over ((Source.delivered text).take count)

section Text

variable {assembler : Assembler} {text line : Bytes} {count : Nat}

theorem assembleText_firstLines_of_line (assembler : Assembler)
    (atLine : (Source.delivered text)[count]? = some line) :
    assembler.assembleText (Source.firstLines count text) =
      Progress.settle .complete (assembler.runTo text count) := by
  obtain ⟨below, _⟩ := List.getElem?_eq_some_iff.1 atLine
  exact assembleText_firstLines_of_delivered assembler (Nat.le_of_lt below)

theorem ComesTo.through (comesTo : assembler.ComesTo text count line) :
    (assembler.runTo text count).2 = .proceed := by
  have assembled := comesTo.assembled
  rw [assembleText_firstLines_of_line assembler comesTo.line, Progress.settle_ok_iff] at assembled
  -- a run that is fine but cut short has met an end directive
  rcases Progress.over_of_fine assembled.1 with through | finished
  · exact through
  · obtain ⟨passed, member, isEnd⟩ := Progress.over_finished_end finished
    rw [comesTo.noEnd passed member] at isEnd
    contradiction

theorem comesTo_of_through (atLine : (Source.delivered text)[count]? = some line)
    (through : (assembler.runTo text count).2 = .proceed) : assembler.ComesTo text count line := by
  refine ⟨atLine, ?_, Progress.over_proceed_noEnd through⟩
  rw [assembleText_firstLines_of_line assembler atLine, Progress.settle_ok_iff]
  exact ⟨by rw [through]; rfl, rfl⟩

theorem ComesTo.number (comesTo : assembler.ComesTo text count line) :
    (assembler.runTo text count).1.number = count := by
  obtain ⟨below, _⟩ := List.getElem?_eq_some_iff.1 comesTo.line
  have number := Progress.over_number comesTo.through
  rw [List.length_take, Nat.min_eq_left (Nat.le_of_lt below)] at number
  exact number.trans (Nat.zero_add count)

/-- The line that reading comes to is the next step from the state that the lines before it
leave. -/
theorem ComesTo.move (comesTo : assembler.ComesTo text count line) :
    Move (assembler.assembleText (Source.firstLines count text)).assembler (count + 1) line
      ((assembler.runTo text count).1.next line).1.assembler
      ((assembler.runTo text count).1.next line).2 := by
  have move := (assembler.runTo text count).1.next_move line
  rw [comesTo.number] at move
  rw [assembleText_firstLines_of_line assembler comesTo.line, Progress.settle_assembler]
  exact move

/-- A text is not read further than to a line that ends the run. -/
theorem ComesTo.over_delivered (comesTo : assembler.ComesTo text count line)
    (stops : Progress.goesOn ((assembler.runTo text count).1.next line).2 = false) :
    assembler.begin.over (Source.delivered text) = (assembler.runTo text count).1.next line := by
  obtain ⟨below, isLine⟩ := List.getElem?_eq_some_iff.1 comesTo.line
  have split : Source.delivered text = (Source.delivered text).take count ++
      line :: (Source.delivered text).drop (count + 1) := by
    rw [← isLine, List.getElem_cons_drop, List.take_append_drop]
  exact Progress.StopsAt.over_eq ⟨⟨_, split⟩, comesTo.through, stops⟩

theorem ComesTo.result_of_failed (comesTo : assembler.ComesTo text count line) {cause : Error}
    (failed : ((assembler.runTo text count).1.next line).2 = .failed cause) :
    (assembler.assembleText text).result = .error ⟨count + 1, line, cause⟩ := by
  have whole := comesTo.over_delivered (by rw [failed]; rfl)
  rw [assembleText, assemble_eq_settle, Source.texts_read, whole, Progress.settle_of_failed failed,
    Progress.fail, Progress.next_number, Progress.next_line, comesTo.number]

theorem ComesTo.result_of_broken (comesTo : assembler.ComesTo text count line) {reason : Bytes}
    (broken : ((assembler.runTo text count).1.next line).2 = .broken reason) :
    (assembler.assembleText text).result = .broken reason := by
  have whole := comesTo.over_delivered (by rw [broken]; rfl)
  rw [assembleText, assemble_eq_settle, Source.texts_read, whole, Progress.settle_broken_iff]
  exact broken

/-- A run that stops has come to the line where it does. -/
theorem exists_comesTo_of_stopped
    (stopped : (assembler.begin.over (Source.delivered text)).2 ≠ .proceed) :
    ∃ count line, assembler.ComesTo text count line ∧
      assembler.begin.over (Source.delivered text) = (assembler.runTo text count).1.next line := by
  obtain ⟨before, line, stopsAt⟩ := Progress.exists_stopsAt stopped
  have run : assembler.runTo text before.length = assembler.begin.over before := by
    rw [runTo, stopsAt.take]
  refine ⟨before.length, line, comesTo_of_through stopsAt.getElem? ?_, ?_⟩
  · rw [run]
    exact stopsAt.through
  · rw [run]
    exact stopsAt.over_eq

end Text

/-- An operand that reading a text comes to, with the labels that it is looked up under. -/
structure OperandAt (assembler : Assembler) (text : Bytes) (count : Nat) (line : Bytes)
    (labels : Labels) (mnemonic : Mnemonic) (operand : Bytes) : Prop where
  comesTo : assembler.ComesTo text count line
  judgesBy : (assembler.assembleText (Source.firstLines count text)).assembler.JudgesBy line labels
    mnemonic operand

/-- A text that fails does so for its form, for its length, or because of an operand that reading
comes to. -/
theorem assembleText_error_cases {assembler : Assembler} {text : Bytes} {failure : Failure}
    (failed : (assembler.assembleText text).result = .error failure) :
    failure.cause.IsFormal ∨ failure.cause = .plain .lineTooLong ∨
      ∃ count labels mnemonic operand, failure.number = count + 1 ∧
        assembler.OperandAt text count failure.line labels mnemonic operand ∧
        Body.OperandFault labels mnemonic operand failure.cause := by
  rcases assembleText_failure_cases failed with atLine | ⟨_, tooLong, _⟩
  · rw [assembleText, assemble_eq_settle, Source.texts_read] at failed
    obtain ⟨number, line, _⟩ := Progress.settle_error failed
    have stops : (assembler.begin.over (Source.delivered text)).2 ≠ .proceed := by simp [atLine]
    obtain ⟨count, last, comesTo, stopped⟩ := exists_comesTo_of_stopped stops
    rw [stopped] at atLine number line
    rw [Progress.next_number, comesTo.number] at number
    rw [Progress.next_line] at line
    have move := comesTo.move
    rw [atLine] at move
    rw [line]
    rcases move.failed_cases with formal | ⟨labels, mnemonic, operand, judgesBy, fault⟩
    · exact .inl formal
    · exact .inr (.inr ⟨count, labels, mnemonic, operand, number, ⟨comesTo, judgesBy⟩, fault⟩)
  · exact .inr (.inl tooLong)

/-- A text breaks down with an operand that reading comes to. -/
theorem assembleText_broken_iff (assembler : Assembler) (text reason : Bytes) :
    (assembler.assembleText text).result = .broken reason ↔
      ∃ count line labels mnemonic operand,
        assembler.OperandAt text count line labels mnemonic operand ∧
        Body.Breaks labels operand reason := by
  constructor
  · intro broken
    rw [assembleText, assemble_eq_settle, Source.texts_read, Progress.settle_broken_iff] at broken
    have stops : (assembler.begin.over (Source.delivered text)).2 ≠ .proceed := by simp [broken]
    obtain ⟨count, line, comesTo, stopped⟩ := exists_comesTo_of_stopped stops
    rw [stopped] at broken
    have move := comesTo.move
    rw [broken] at move
    obtain ⟨labels, mnemonic, operand, judgesBy, breaks⟩ := move.broken_operand
    exact ⟨count, line, labels, mnemonic, operand, ⟨comesTo, judgesBy⟩,
      Body.breaks_of_operandValue judgesBy.takes breaks⟩
  · rintro ⟨count, line, labels, mnemonic, operand, operandAt, breaks⟩
    have broken := operandAt.judgesBy.broken_of_operand
      (Body.operandValue_of_breaks mnemonic.base breaks) operandAt.comesTo.move
    exact operandAt.comesTo.result_of_broken broken

/-- Every failure answers to exactly one kind, which is a kind of assembling and that of its
cause, and invalid operands are due to an unusable operand that reading comes to. Every such
operand fails the text there, as an invalid one, unless its evaluation breaks down; and then
the text does. -/
theorem assembleText_classified (assembler : Assembler) (text : Bytes) :
    (∀ failure, (assembler.assembleText text).result = .error failure →
      (∀ kind, failure.error.Is kind ↔ failure.cause.Is kind) ∧ failure.error.Classified ∧
      (failure.cause.Is .invalidOperand →
        ∃ count labels mnemonic operand, failure.number = count + 1 ∧
          assembler.OperandAt text count failure.line labels mnemonic operand ∧
          Body.Unusable labels mnemonic operand)) ∧
      (∀ count line labels mnemonic operand,
        assembler.OperandAt text count line labels mnemonic operand →
        Body.Unusable labels mnemonic operand →
        (∀ reason, ¬ Body.Breaks labels operand reason) →
        ∃ cause, (assembler.assembleText text).result = .error ⟨count + 1, line, cause⟩ ∧
          cause.Is .invalidOperand) ∧
      ∀ reason, (assembler.assembleText text).result = .broken reason ↔
        ∃ count line labels mnemonic operand,
          assembler.OperandAt text count line labels mnemonic operand ∧
          Body.Breaks labels operand reason := by
  refine ⟨?_, ?_, assembler.assembleText_broken_iff text⟩
  · intro failure failed
    have same : failure.error.Classified ↔ failure.cause.Classified := by
      simp only [Error.Classified, failure.is_error_iff]
    refine ⟨failure.is_error_iff, ?_⟩
    rw [same]
    rcases assembleText_error_cases failed with
      formal | tooLong | ⟨count, labels, mnemonic, operand, number, operandAt, fault⟩
    · refine ⟨?_, fun isOperand => absurd isOperand formal.not_operand⟩
      obtain ⟨kind, isPlain, isFormal⟩ := formal
      rw [isPlain]
      exact (Error.Is.plain kind).classified (ErrorKind.isAssembly_of_isFormal isFormal)
    · rw [tooLong]
      refine ⟨(Error.Is.plain _).classified rfl, ?_⟩
      intro isOperand
      cases isOperand
    · have unusable := Body.OperandFault.unusable operandAt.judgesBy.takes fault
      exact ⟨fault.isInvalid.classified rfl, fun _ =>
        ⟨count, labels, mnemonic, operand, number, operandAt, unusable⟩⟩
  · intro count line labels mnemonic operand operandAt unusable whole
    obtain ⟨cause, fault⟩ :=
      Body.exists_operandFault operandAt.judgesBy.takes unusable whole
    have failed := operandAt.judgesBy.failed_of_fault fault operandAt.comesTo.move
    exact ⟨cause, operandAt.comesTo.result_of_failed failed, fault.isInvalid⟩

/-- A remainder for the address of a label, which is 0. -/
theorem assembleText_classified_remainder :
    let text := Bytes.ofString "X, HEX 5\nLDA $(5%X)\n"
    let failure : Failure :=
      ⟨2, Bytes.ofString "LDA $(5%X)", .expressionInvalid (Bytes.ofString "5%X")⟩
    (assembleText {} text).result = .error failure ∧ failure.error.Classified ∧
      ∃ labels mnemonic operand, OperandAt {} text 1 failure.line labels mnemonic operand ∧
        Body.Unusable labels mnemonic operand ∧
        ∀ reason, ¬ Body.Breaks labels operand reason := by
  intro text failure
  have failed : (assembleText {} text).result = .error failure := by decide +kernel
  obtain ⟨classified, _, breaks⟩ := assembleText_classified {} text
  obtain ⟨_, isClassified, blamed⟩ := classified failure failed
  obtain ⟨count, labels, mnemonic, operand, number, operandAt, unusable⟩ :=
    blamed (.expressionInvalid _)
  obtain rfl : count = 1 := by
    have second : 2 = count + 1 := number
    omega
  refine ⟨failed, isClassified, labels, mnemonic, operand, operandAt, unusable, ?_⟩
  intro reason broken
  have result := (breaks reason).2 ⟨1, _, labels, mnemonic, operand, operandAt, broken⟩
  rw [failed] at result
  contradiction

/-- An operand without a value that is reported as no kind of failure: nothing is returned. -/
theorem breakdown_unclassified :
    let line := Bytes.ofString ",DEC $('a'.rsplit(None,9223372036854775807))"
    let reason := Bytes.ofString "runtime error: makeslice: cap out of range"
    (assembleText {} line).result = .broken reason ∧
      (∀ failure, (assembleText {} line).result ≠ .error failure) ∧
      ∃ labels mnemonic operand, OperandAt {} line 0 line labels mnemonic operand ∧
        Body.Unusable labels mnemonic operand := by
  intro line reason
  have broken : (assembleText {} line).result = .broken reason := by decide +kernel
  obtain ⟨count, last, labels, mnemonic, operand, operandAt, breaks⟩ :=
    (assembleText_broken_iff {} line reason).1 broken
  have single : Source.delivered line = [line] := by decide +kernel
  have atLine := operandAt.comesTo.line
  obtain ⟨rfl, rfl⟩ : 0 = count ∧ line = last := by
    rw [single, List.getElem?_singleton] at atLine
    split at atLine <;> simp_all
  refine ⟨broken, by simp [broken], labels, mnemonic, operand, operandAt, ?_⟩
  exact Body.Breaks.unusable operandAt.judgesBy.takes breaks

end Assembler

end BasicComputer
