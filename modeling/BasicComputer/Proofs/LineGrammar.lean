import BasicComputer.Proofs.LineForm
import BasicComputer.Proofs.NumeralGrammar

/-!
Contract: reading a line accepts exactly the grammar of lines.

A line is its statement and perhaps a comment behind it (`StatementOf`). The first comma of
the statement stands between the front and the rest (`Divides`). Front and rest have a shape
(`Shape`), or something is wrong with them (`Fault`); of all that is wrong, what comes
first is reported (`FirstOf`).

Owns this grammar and that lines are read by it (`parse_follows_grammar`). What the rest of an
instruction line stands for is owned by `Proofs.BodyGrammar`.
-/

namespace BasicComputer

open Text

/-! ### The first of several faults -/

/-- A fault that applies, when no fault of a lower rank does. -/
def FirstOf (applies : Nat → Error → Prop) (cause : Error) : Prop :=
  ∃ rank, applies rank cause ∧ ∀ other another, applies other another → rank ≤ other

section FirstOf

variable {applies : Nat → Error → Prop}

theorem FirstOf.unique
    (single : ∀ rank first second, applies rank first → applies rank second → first = second)
    {first second : Error} (isFirst : FirstOf applies first) (isSecond : FirstOf applies second) :
    first = second := by
  obtain ⟨rank, applied, lowest⟩ := isFirst
  obtain ⟨other, otherApplied, otherLowest⟩ := isSecond
  obtain rfl : rank = other :=
    Nat.le_antisymm (lowest other second otherApplied) (otherLowest rank first applied)
  exact single rank first second applied otherApplied

/-- A computation that fails with the first fault, and succeeds if there is none, fails in no
other way. -/
theorem error_iff_firstOf {Value : Type} {result : Except Error Value}
    (single : ∀ rank first second, applies rank first → applies rank second → first = second)
    (judged : (∃ value, result = .ok value ∧ ∀ rank cause, ¬ applies rank cause) ∨
      ∃ cause, result = .error cause ∧ FirstOf applies cause) (cause : Error) :
    result = .error cause ↔ FirstOf applies cause := by
  rcases judged with ⟨value, rfl, sound⟩ | ⟨reported, rfl, first⟩
  · constructor
    · intro failed
      cases failed
    · rintro ⟨rank, applied, _⟩
      exact absurd applied (sound rank cause)
  · rw [Except.error.injEq]
    constructor
    · rintro rfl
      exact first
    · exact first.unique single

end FirstOf

namespace Line

/-! ### The grammar -/

/-- What a line says: all of it, or what stands before its first comment mark. -/
inductive StatementOf (text : Bytes) : Bytes → Prop
  | whole (noComment : ¬ HasComment text) : StatementOf text text
  | before {statement comment : Bytes} (split : text = statement ++ 0x2F :: 0x2F :: comment)
      (first : ¬ HasComment (statement ++ [0x2F])) : StatementOf text statement

/-- What stands before the first comma of a statement and what stands behind it. Without a
comma there is nothing in front. -/
inductive Divides (statement : Bytes) : Bytes → Bytes → Prop
  | bare (noComma : 0x2C ∉ statement) : Divides statement [] statement
  | comma {front rest : Bytes} (split : statement = front ++ 0x2C :: rest)
      (first : 0x2C ∉ front) : Divides statement front rest

/-- The label that stands in front, empty if there is only white space. -/
inductive LabelIs (front : Bytes) : Bytes → Prop
  | none (blank : AllBlank front) : LabelIs front []
  | word {label : Bytes} (single : fields front = [label]) : LabelIs front label

/-- The lines that are accepted, with their label and what they ask for. -/
inductive Shape (front rest : Bytes) : Bytes → Directive → Prop
  | nothing (blankFront : AllBlank front) (blankRest : AllBlank rest) :
      Shape front rest [] .nothing
  | origin {digits : Bytes} {address : Nat} (blankFront : AllBlank front)
      (words : fields rest = [originWord, digits]) (numeral : IsNumeral 16 digits address)
      (inside : address < memorySize) : Shape front rest [] (.origin address)
  | finish (blankFront : AllBlank front) (words : fields rest = [endWord]) :
      Shape front rest [] .finish
  | instruction {label first : Bytes} {arguments : List Bytes} (labelIs : LabelIs front label)
      (words : fields rest = first :: arguments) (notOrigin : first ≠ originWord)
      (notEnd : first ≠ endWord) : Shape front rest label .instruction

/-- All that can be wrong with a line, ranked by what is reported first. -/
inductive Fault (front rest : Bytes) : Nat → Error → Prop
  | labelInvalid {first second : Bytes} {more : List Bytes}
      (words : fields front = first :: second :: more) :
      Fault front rest 0 (.plain .labelInvalid)
  | labelWithoutInstruction (labelled : ¬ AllBlank front) (empty : AllBlank rest) :
      Fault front rest 1 (.plain .labelWithoutInstruction)
  | labelOnDirective {first : Bytes} {arguments : List Bytes} (labelled : ¬ AllBlank front)
      (words : fields rest = first :: arguments)
      (directive : first = originWord ∨ first = endWord) :
      Fault front rest 2 (.plain .labelOnDirective)
  | missingOrigin (words : fields rest = [originWord]) :
      Fault front rest 3 (.plain .missingOrigin)
  | originTokens {first second : Bytes} {more : List Bytes}
      (words : fields rest = originWord :: first :: second :: more) :
      Fault front rest 4 (.plain .extraTokens)
  | invalidOrigin {digits : Bytes} {more : List Bytes}
      (words : fields rest = originWord :: digits :: more)
      (noAddress : ∀ address < memorySize, ¬ IsNumeral 16 digits address) :
      Fault front rest 5 (.plain .invalidOrigin)
  | endTokens {first : Bytes} {more : List Bytes}
      (words : fields rest = endWord :: first :: more) :
      Fault front rest 6 (.plain .extraTokens)

/-! ### Cutting a line -/

theorem exists_statementOf (text : Bytes) : ∃ statement, StatementOf text statement := by
  induction text with
  | nil => exact ⟨[], .whole (by decide)⟩
  | cons first rest inductionHypothesis =>
      cases rest with
      | nil => exact ⟨[first], .whole fun comment => absurd comment.length_le (by simp)⟩
      | cons second tail =>
          by_cases isMark : first = 0x2F ∧ second = 0x2F
          · obtain ⟨rfl, rfl⟩ := isMark
            exact ⟨[], .before rfl (by decide)⟩
          · obtain ⟨statement, statementOf⟩ := inductionHypothesis
            cases statementOf with
            | whole noComment =>
                refine ⟨first :: second :: tail, .whole ?_⟩
                intro comment
                rcases List.infix_cons_iff.1 comment with starts | later
                · obtain ⟨isFirst, next⟩ := List.cons_prefix_cons.1 starts
                  exact isMark ⟨isFirst.symm, (List.cons_prefix_cons.1 next).1.symm⟩
                · exact noComment later
            | @before _ comment split noneBefore =>
                refine ⟨first :: statement, .before (by rw [split]; rfl) ?_⟩
                intro mark
                rcases List.infix_cons_iff.1 mark with starts | later
                · obtain ⟨isFirst, next⟩ := List.cons_prefix_cons.1 starts
                  -- the byte behind `first` is `second`, in the statement or in the mark
                  have following : statement ++ [0x2F] <+: second :: tail :=
                    ⟨0x2F :: comment, by rw [split]; simp⟩
                  have isSecond := (List.cons_prefix_cons.1 (next.trans following)).1
                  exact isMark ⟨isFirst.symm, isSecond.symm⟩
                · exact noneBefore later

theorem beforePair_append {mark : UInt8} {statement : Bytes}
    (first : ¬ [mark, mark] <:+: statement ++ [mark]) (comment : Bytes) :
    Bytes.beforePair mark (statement ++ mark :: mark :: comment) = statement := by
  induction statement with
  | nil => rw [List.nil_append, Bytes.beforePair_cons_cons, if_pos ⟨rfl, rfl⟩]
  | cons byte rest inductionHypothesis =>
      have later := inductionHypothesis fun pair => first (List.infix_cons pair)
      cases rest with
      | nil =>
          have notPair : ¬ (byte = mark ∧ mark = mark) := by
            rintro ⟨rfl, _⟩
            exact first List.infix_rfl
          rw [List.singleton_append, Bytes.beforePair_cons_cons, if_neg notPair]
          exact congrArg (byte :: ·) later
      | cons second tail =>
          have notPair : ¬ (byte = mark ∧ second = mark) := by
            rintro ⟨rfl, rfl⟩
            exact first ⟨[], tail ++ [second], rfl⟩
          rw [List.cons_append, List.cons_append, Bytes.beforePair_cons_cons, if_neg notPair]
          exact congrArg (byte :: ·) later

theorem StatementOf.eq_beforePair {text statement : Bytes}
    (statementOf : StatementOf text statement) : Bytes.beforePair 0x2F text = statement := by
  cases statementOf with
  | whole noComment => exact Bytes.beforePair_of_noPair noComment
  | before split first =>
      rw [split]
      exact beforePair_append first _

theorem exists_divides (statement : Bytes) : ∃ front rest, Divides statement front rest := by
  by_cases comma : 0x2C ∈ statement
  · obtain ⟨front, rest, split, first⟩ := List.eq_append_cons_of_mem comma
    exact ⟨front, rest, .comma split first⟩
  · exact ⟨[], statement, .bare comma⟩

/-- The parts of a line are what stands on the two sides of the comma, trimmed. -/
theorem split_of_divides {text statement front rest : Bytes}
    (statementOf : StatementOf text statement) (divides : Divides statement front rest) :
    split text = ⟨trim front, trim rest⟩ := by
  unfold split
  rw [statementOf.eq_beforePair]
  cases divides with
  | bare noComma =>
      simp only [Bytes.cutByte?_of_not_mem noComma]
      rfl
  | comma split first =>
      subst split
      simp only [Bytes.cutByte?_append first]

/-! ### The shape of a line -/

section Judgement

variable {front rest : Bytes}

theorem originAddress_eq_ok_iff {digits : Bytes} {address : Nat} :
    originAddress [digits] = .ok address ↔ IsNumeral 16 digits address ∧ address < memorySize := by
  have wide : memorySize < magnitudeLimit := by decide
  constructor
  · intro found
    have inside := originAddress_lt found
    refine ⟨?_, inside⟩
    rw [originAddress] at found
    split at found
    · next number read =>
        split at found
        · cases found
          exact isNumeral_of_readUnsigned (by decide) read
        · contradiction
    · contradiction
  · rintro ⟨numeral, inside⟩
    have read := (readUnsigned_eq_value_iff (by decide) (by decide) (by omega)).2 numeral
    simp only [originAddress, read, inside, ↓reduceIte]

theorem originAddress_single (digits : Bytes) :
    (∃ address, originAddress [digits] = .ok address) ∨
      originAddress [digits] = .error (.plain .invalidOrigin) := by
  rw [originAddress]
  split
  · next number _ =>
      by_cases inside : number < memorySize
      · exact .inl ⟨number, if_pos inside⟩
      · exact .inr (if_neg inside)
  · exact .inr rfl

theorem Fault.single (rank : Nat) (first second : Error) (isFirst : Fault front rest rank first)
    (isSecond : Fault front rest rank second) : first = second := by
  cases isFirst <;> cases isSecond <;> rfl

theorem LabelIs.trim_eq {label : Bytes} (labelIs : LabelIs front label) : trim front = label := by
  cases labelIs with
  | none blank => exact trim_eq_nil_iff.2 (fields_eq_nil_iff.2 blank)
  | word single => exact trim_of_single single

theorem Shape.labelIs {label : Bytes} {directive : Directive}
    (shape : Shape front rest label directive) : LabelIs front label := by
  cases shape with
  | nothing blankFront _ => exact .none blankFront
  | origin blankFront _ _ _ => exact .none blankFront
  | finish blankFront _ => exact .none blankFront
  | instruction labelIs _ _ _ => exact labelIs

theorem originWord_ne_endWord : originWord ≠ endWord := by decide

theorem directiveOf_of_shape {label : Bytes} {directive : Directive}
    (shape : Shape front rest label directive) :
    directiveOf ⟨trim front, trim rest⟩ = .ok directive := by
  have accepted : ¬ (trim front ≠ [] ∧ (fields (trim front)).length ≠ 1) := by
    cases shape.labelIs with
    | none blank => simp [trim_eq_nil_iff, fields_eq_nil_iff, blank]
    | word single => simp [fields_trim, single]
  have noLabel (blank : AllBlank front) : trim front = [] := (LabelIs.none blank).trim_eq
  rw [directiveOf, if_neg accepted]
  dsimp only
  rw [fields_trim]
  cases shape with
  | nothing blankFront blankRest => simp [fields_eq_nil_iff.2 blankRest, noLabel blankFront]
  | origin blankFront words numeral inside =>
      have found := originAddress_eq_ok_iff.2 ⟨numeral, inside⟩
      simp [words, noLabel blankFront, found, Except.map]
  | finish blankFront words =>
      simp [words, noLabel blankFront, originWord_ne_endWord.symm]
  | instruction labelIs words notOrigin notEnd => simp [words, notOrigin, notEnd]

theorem Shape.sound {label : Bytes} {directive : Directive}
    (shape : Shape front rest label directive) (rank : Nat) (cause : Error) :
    ¬ Fault front rest rank cause := by
  intro fault
  have distinct := originWord_ne_endWord
  cases shape with
  | nothing blankFront blankRest =>
      have noWords := fields_eq_nil_iff.2 blankRest
      have noLabel := fields_eq_nil_iff.2 blankFront
      cases fault <;> grind
  | origin blankFront words numeral inside =>
      have noLabel := fields_eq_nil_iff.2 blankFront
      cases fault <;> grind
  | finish blankFront words =>
      have noLabel := fields_eq_nil_iff.2 blankFront
      cases fault <;> grind
  | instruction labelIs words notOrigin notEnd =>
      cases labelIs <;> cases fault <;> grind [fields_eq_nil_iff]

/-- A line has a shape, or it is refused with the first fault. -/
def Judged (front rest : Bytes) : Prop :=
  (∃ label directive, Shape front rest label directive) ∨
    ∃ cause, directiveOf ⟨trim front, trim rest⟩ = .error cause ∧
      FirstOf (Fault front rest) cause

theorem judged_of_blank (blank : AllBlank front) : Judged front rest := by
  have noLabel := fields_eq_nil_iff.2 blank
  have noTrim := trim_eq_nil_iff.2 noLabel
  have distinct := originWord_ne_endWord
  cases words : fields rest with
  | nil => exact .inl ⟨_, _, .nothing blank (fields_eq_nil_iff.1 words)⟩
  | cons first arguments =>
      by_cases isOrigin : first = originWord
      · subst isOrigin
        rcases arguments with _ | ⟨digits, _ | ⟨second, more⟩⟩
        · refine .inr ⟨.plain .missingOrigin, ?_, 3, .missingOrigin words, ?_⟩
          · simp [directiveOf, noTrim, fields_trim, words, originAddress, Except.map]
          · intro other another fault
            cases fault <;> grind
        · rcases originAddress_single digits with ⟨address, found⟩ | refused
          · obtain ⟨numeral, inside⟩ := originAddress_eq_ok_iff.1 found
            exact .inl ⟨_, _, .origin blank words numeral inside⟩
          · have noAddress : ∀ address < memorySize, ¬ IsNumeral 16 digits address := by
              intro address inside numeral
              rw [originAddress_eq_ok_iff.2 ⟨numeral, inside⟩] at refused
              contradiction
            refine .inr ⟨.plain .invalidOrigin, ?_, 5, .invalidOrigin words noAddress, ?_⟩
            · simp [directiveOf, noTrim, fields_trim, words, refused, Except.map]
            · intro other another fault
              cases fault <;> grind
        · -- the word behind ORG may be no address either, which would be reported later
          refine .inr ⟨.plain .extraTokens, ?_, 4, .originTokens words, ?_⟩
          · simp [directiveOf, noTrim, fields_trim, words, originAddress, Except.map]
          · intro other another fault
            cases fault <;> grind
      · by_cases isEnd : first = endWord
        · subst isEnd
          cases arguments with
          | nil => exact .inl ⟨_, _, .finish blank words⟩
          | cons second more =>
              refine .inr ⟨.plain .extraTokens, ?_, 6, .endTokens words, ?_⟩
              · simp [directiveOf, noTrim, fields_trim, words, distinct.symm]
              · intro other another fault
                cases fault <;> grind
        · exact .inl ⟨_, _, .instruction (.none blank) words isOrigin isEnd⟩

theorem judged_of_word {label : Bytes} (single : fields front = [label]) :
    Judged front rest := by
  have labelled : ¬ AllBlank front := by simp [← fields_eq_nil_iff, single]
  have someTrim : trim front ≠ [] := by simp [trim_eq_nil_iff, single]
  cases words : fields rest with
  | nil =>
      have missing : Fault front rest 1 _ :=
        .labelWithoutInstruction labelled (fields_eq_nil_iff.1 words)
      refine .inr ⟨.plain .labelWithoutInstruction, ?_, 1, missing, ?_⟩
      · simp [directiveOf, fields_trim, single, words, someTrim]
      · intro other another fault
        cases fault <;> grind
  | cons first arguments =>
      by_cases directive : first = originWord ∨ first = endWord
      · have misplaced : Fault front rest 2 _ := .labelOnDirective labelled words directive
        refine .inr ⟨.plain .labelOnDirective, ?_, 2, misplaced, ?_⟩
        · rcases directive with rfl | rfl
          · simp [directiveOf, fields_trim, single, words, someTrim]
          · simp [directiveOf, fields_trim, single, words, someTrim, originWord_ne_endWord.symm]
        · intro other another fault
          cases fault <;> grind [fields_eq_nil_iff]
      · rw [not_or] at directive
        exact .inl ⟨_, _, .instruction (.word single) words directive.1 directive.2⟩

theorem judged_of_words {first second : Bytes} {more : List Bytes}
    (words : fields front = first :: second :: more) : Judged front rest := by
  have someTrim : trim front ≠ [] := by simp [trim_eq_nil_iff, words]
  refine .inr ⟨.plain .labelInvalid, ?_, 0, .labelInvalid words, fun other _ _ => other.zero_le⟩
  simp [directiveOf, someTrim, fields_trim, words]

theorem judged (front rest : Bytes) : Judged front rest := by
  rcases words : fields front with _ | ⟨first, _ | ⟨second, more⟩⟩
  · exact judged_of_blank (fields_eq_nil_iff.1 words)
  · exact judged_of_word words
  · exact judged_of_words words

end Judgement

/-- Every line is cut into its statement, and the statement into front and rest; the line is
accepted exactly if these have a shape, and otherwise refused with the first fault. -/
theorem parse_follows_grammar (text : Bytes) :
    (∃ statement front rest, StatementOf text statement ∧ Divides statement front rest) ∧
      ∀ statement front rest, StatementOf text statement → Divides statement front rest →
        (∀ line, parse text = .ok line ↔
          Shape front rest line.parts.label line.directive ∧ line.parts.body = trim rest) ∧
        ∀ cause, parse text = .error cause ↔ FirstOf (Fault front rest) cause := by
  constructor
  · obtain ⟨statement, statementOf⟩ := exists_statementOf text
    obtain ⟨front, rest, divides⟩ := exists_divides statement
    exact ⟨statement, front, rest, statementOf, divides⟩
  · intro statement front rest statementOf divides
    have parts := split_of_divides statementOf divides
    constructor
    · rintro ⟨⟨label, body⟩, directive⟩
      rw [parse_eq_ok_iff, parts]
      constructor
      · rintro ⟨same, accepted⟩
        obtain ⟨rfl, rfl⟩ := LineParts.mk.inj same
        refine ⟨?_, rfl⟩
        rcases judged front rest with ⟨label, found, shape⟩ | ⟨cause, refused, _⟩
        · rw [directiveOf_of_shape shape] at accepted
          cases accepted
          rw [shape.labelIs.trim_eq]
          exact shape
        · rw [refused] at accepted
          contradiction
      · rintro ⟨shape, rfl⟩
        exact ⟨by rw [shape.labelIs.trim_eq], directiveOf_of_shape shape⟩
    · intro cause
      rw [parse_eq_error_iff, parts]
      apply error_iff_firstOf Fault.single
      rcases judged front rest with ⟨label, found, shape⟩ | refused
      · exact .inl ⟨found, directiveOf_of_shape shape, shape.sound⟩
      · exact .inr refused

/-- A label before the first of two commas, with a third one in a comment. -/
theorem parse_follows_grammar_labelled :
    let text := Bytes.ofString " LOOP\t, ISZ P,Q / I ///, ORG"
    let front := Bytes.ofString " LOOP\t"
    let rest := Bytes.ofString " ISZ P,Q / I "
    let line : Line := ⟨⟨Bytes.ofString "LOOP", Bytes.ofString "ISZ P,Q / I"⟩, .instruction⟩
    StatementOf text (front ++ 0x2C :: rest) ∧ Divides (front ++ 0x2C :: rest) front rest ∧
      Shape front rest line.parts.label line.directive ∧ parse text = .ok line := by
  intro text front rest line
  have split : text = (front ++ 0x2C :: rest) ++ 0x2F :: 0x2F :: Bytes.ofString "/, ORG" := by
    decide
  have statementOf : StatementOf text (front ++ 0x2C :: rest) := .before split (by decide)
  have divides : Divides (front ++ 0x2C :: rest) front rest := .comma rfl (by decide)
  have words : fields rest = Bytes.ofString "ISZ" ::
      [Bytes.ofString "P,Q", Bytes.ofString "/", Bytes.ofString "I"] := by decide
  have shape : Shape front rest line.parts.label line.directive :=
    .instruction (.word (by decide)) words (by decide) (by decide)
  refine ⟨statementOf, divides, shape, ?_⟩
  exact (((parse_follows_grammar text).2 _ _ _ statementOf divides).1 line).2 ⟨shape, rfl⟩

end Line

end BasicComputer
