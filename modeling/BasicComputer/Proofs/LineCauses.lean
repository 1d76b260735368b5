import BasicComputer.Proofs.LabelOperands

/-!
Contract: what a line fails of.

Owns:
- the kinds that an error answers to (`Error.Is`);
- which operand a line comes down to (`Assembler.JudgesBy`);
- the causes of a line that fails (`Move.failed_cases`): its form, which is one of few kinds, or
  that operand, and that the same operand is behind a line that breaks down.

Does not own which line of a text fails.
-/

namespace BasicComputer

open Text

/-! ### Kinds -/

namespace Error

/-- The kinds that an error answers to. A wrapper answers to what its cause answers to. -/
inductive Is : Error → ErrorKind → Prop
  | plain (kind : ErrorKind) : Is (.plain kind) kind
  | labelMissing (name : Bytes) : Is (.labelMissing name) .invalidOperand
  | expressionInvalid (text : Bytes) : Is (.expressionInvalid text) .invalidOperand
  | opcodeUnknown (word : Word) : Is (.opcodeUnknown word) .opcodeDecode
  | atLine {cause : Error} {kind : ErrorKind} (number : Int) (line : Bytes)
      (isKind : Is cause kind) : Is (.atLine number line cause) kind
  | inFile {cause : Error} {kind : ErrorKind} (name : Bytes) (isKind : Is cause kind) :
      Is (.inFile name cause) kind

theorem is_iff {error : Error} {kind : ErrorKind} : error.Is kind ↔ error.kind? = some kind := by
  constructor
  · intro isKind
    induction isKind with
    | atLine _ _ _ inductionHypothesis => exact inductionHypothesis
    | inFile _ _ inductionHypothesis => exact inductionHypothesis
    | _ => rfl
  · intro found
    induction error with
    | atLine number line cause inductionHypothesis =>
        exact .atLine number line (inductionHypothesis found)
    | inFile name cause inductionHypothesis => exact .inFile name (inductionHypothesis found)
    | external text => cases found
    | plain kind =>
        cases found
        exact .plain kind
    | labelMissing name =>
        cases found
        exact .labelMissing name
    | expressionInvalid text =>
        cases found
        exact .expressionInvalid text
    | opcodeUnknown word =>
        cases found
        exact .opcodeUnknown word

end Error

/-- Whether this can be wrong with a line apart from its operand. -/
def ErrorKind.isFormal : ErrorKind → Bool
  | .invalidOperand | .opcodeDecode | .imageSize | .format | .define | .lineTooLong => false
  | _ => true

/-- A cause that has nothing to do with an operand. -/
def Error.IsFormal (cause : Error) : Prop :=
  ∃ kind : ErrorKind, cause = .plain kind ∧ kind.isFormal = true

theorem Line.parse_error_isFormal {text : Bytes} {cause : Error}
    (refused : Line.parse text = .error cause) : cause.IsFormal := by
  rw [parse_eq_error_iff] at refused
  unfold directiveOf originAddress at refused
  unfold Error.IsFormal
  grind [Except.map, ErrorKind.isFormal]

namespace Body

theorem operandValue_error {labels : Labels} {base : Nat} {operand : Bytes} {cause : Error}
    (refused : operandValue labels base operand = .error cause) : cause.Is .invalidOperand := by
  unfold operandValue namedValue expressionValue at refused
  split at refused
  · cases refused
  · cases refused
    exact .plain _
  · split at refused
    · cases refused
    · split at refused
      · split at refused <;> cases refused
        exact .expressionInvalid _
      · cases refused
        exact .labelMissing _

/-- What is wrong with an operand is that it is invalid. -/
theorem OperandFault.isInvalid {labels : Labels} {mnemonic : Mnemonic} {operand : Bytes}
    {cause : Error} (fault : OperandFault labels mnemonic operand cause) :
    cause.Is .invalidOperand := by
  cases fault with
  | unresolved refused => exact operandValue_error refused
  | outside => exact .plain _

end Body

/-! ### Lines -/

namespace Assembler

/-- A line is judged by an operand, which is looked up under these labels: nothing else is wrong
with the line before its operand is reached. -/
inductive JudgesBy (assembler : Assembler) (line : Bytes) : Labels → Mnemonic → Bytes → Prop
  | instruction {parts : LineParts} {mnemonic : Mnemonic} {operand : Bytes}
      (parsed : Line.parse line = .ok ⟨parts, .instruction⟩)
      (accepts : assembler.labels.Accepts parts.label) (fits : assembler.cursor < memorySize)
      (judgedBy : Body.JudgedBy (fields parts.body) mnemonic operand) :
      JudgesBy assembler line (assembler.labels.withLabel parts.label assembler.cursor) mnemonic
        operand

variable {assembler reached : Assembler} {number : Nat} {line : Bytes}

/-- A line fails for its form, or because of the operand that it is judged by. -/
theorem Move.failed_cases {cause : Error}
    (move : Move assembler number line reached (.failed cause)) :
    cause.IsFormal ∨ ∃ labels mnemonic operand, assembler.JudgesBy line labels mnemonic operand ∧
      Body.OperandFault labels mnemonic operand cause := by
  cases move with
  | unreadable parsed => exact .inl (Line.parse_error_isFormal parsed)
  | duplicate => exact .inl ⟨_, rfl, rfl⟩
  | full => exact .inl ⟨_, rfl, rfl⟩
  | unencodable parsed accepts fits refused =>
      rcases Body.encodeWords_error_cases refused with
        ⟨kind, rfl, member⟩ | ⟨mnemonic, operand, judgedBy, fault⟩
      · have formal : ∀ kind ∈ Body.formKinds, kind.isFormal = true := by decide
        exact .inl ⟨kind, rfl, formal kind member⟩
      · exact .inr ⟨_, mnemonic, operand, .instruction parsed accepts fits judgedBy, fault⟩

/-- A line breaks down with the operand that it is judged by. -/
theorem Move.broken_operand {reason : Bytes}
    (move : Move assembler number line reached (.broken reason)) :
    ∃ labels mnemonic operand, assembler.JudgesBy line labels mnemonic operand ∧
      Body.operandValue labels mnemonic.base operand = .broken reason := by
  cases move with
  | broken parsed accepts fits breaks =>
      obtain ⟨mnemonic, operand, judgedBy, broken⟩ :=
        (Body.encodeWords_eq_broken_iff reason).1 breaks
      exact ⟨_, mnemonic, operand, .instruction parsed accepts fits judgedBy, broken⟩

/-- No line fails because of its length; lines that are too long are not read. -/
theorem Move.ne_lineTooLong {cause : Error}
    (move : Move assembler number line reached (.failed cause)) :
    cause ≠ .plain .lineTooLong := by
  rintro rfl
  rcases move.failed_cases with ⟨kind, same, formal⟩ | ⟨_, _, _, _, fault⟩
  · cases same
    contradiction
  · cases fault.isInvalid

variable {labels : Labels} {mnemonic : Mnemonic} {operand : Bytes}

theorem JudgesBy.takes (judgesBy : assembler.JudgesBy line labels mnemonic operand) :
    mnemonic.operationClass = .memory ∨ mnemonic.operationClass = .data := by
  cases judgesBy with
  | instruction _ _ _ judgedBy =>
      obtain ⟨more, _, memory | ⟨data, _⟩⟩ := judgedBy
      · exact .inl memory
      · exact .inr data

theorem JudgesBy.failed_of_fault (judgesBy : assembler.JudgesBy line labels mnemonic operand)
    {cause : Error} (fault : Body.OperandFault labels mnemonic operand cause) {verdict : Verdict}
    (move : Move assembler number line reached verdict) : verdict = .failed cause := by
  cases judgesBy with
  | @instruction parts _ _ parsed accepts fits judgedBy =>
      obtain ⟨more, words, takes⟩ := judgedBy
      have refused : Body.encode (assembler.labels.withLabel parts.label assembler.cursor)
          parts.body = .error cause := by
        rw [Body.encode, words, Body.encodeWords_text]
        exact Body.encodeWith_of_operandFault takes fault
      have fails : Move assembler number line _ (.failed cause) :=
        .unencodable parsed accepts fits refused
      exact (move.unique fails).2

theorem JudgesBy.broken_of_operand (judgesBy : assembler.JudgesBy line labels mnemonic operand)
    {reason : Bytes} (broken : Body.operandValue labels mnemonic.base operand = .broken reason)
    {verdict : Verdict} (move : Move assembler number line reached verdict) :
    verdict = .broken reason := by
  cases judgesBy with
  | instruction parsed accepts fits judgedBy =>
      have breaks : Move assembler number line _ (.broken reason) :=
        .broken parsed accepts fits
          (Body.encodeWords_of_wordsBreak ⟨mnemonic, operand, judgedBy, broken⟩)
      exact (move.unique breaks).2

end Assembler

end BasicComputer
