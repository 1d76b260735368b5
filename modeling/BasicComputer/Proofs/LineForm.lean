import BasicComputer.Assembly.Line
import BasicComputer.Proofs.Words

/-!
Contract: what a line that was read looks like.

Owns the parts of a line, the forms of the origin directive, where comments are
(`HasComment`), and how lines are read that are made of a label and a body without
comments. Does not own the bodies of instructions.
-/

namespace BasicComputer

open Text

namespace Bytes

theorem cutByte?_of_not_mem {mark : UInt8} {text : Bytes} (absent : mark ∉ text) :
    cutByte? mark text = none := by
  have afterAny : ∀ passed, cutByteFrom mark passed text = none := by
    induction text with
    | nil => exact fun _ => rfl
    | cons head tail inductionHypothesis =>
        intro passed
        obtain ⟨differs, tailAbsent⟩ := List.ne_and_not_mem_of_not_mem_cons absent
        rw [cutByteFrom, if_neg (Ne.symm differs)]
        exact inductionHypothesis tailAbsent (head :: passed)
  exact afterAny []

theorem eq_of_cutByte? {mark : UInt8} {text first rest : Bytes}
    (cut : cutByte? mark text = some (first, rest)) : text = first ++ mark :: rest := by
  suffices afterAny : ∀ passed, cutByteFrom mark passed text = some (first, rest) →
      passed.reverse ++ text = first ++ mark :: rest from afterAny [] cut
  clear cut
  induction text with
  | nil =>
      intro passed cut
      cases cut
  | cons head tail inductionHypothesis =>
      intro passed cut
      rw [cutByteFrom] at cut
      split at cut
      · next isMark =>
          cases cut
          rw [isMark]
      · have later := inductionHypothesis (head :: passed) cut
        rwa [List.reverse_cons, List.append_assoc, List.singleton_append] at later

theorem cutByte?_append {mark : UInt8} {first : Bytes} (absent : mark ∉ first) (rest : Bytes) :
    cutByte? mark (first ++ mark :: rest) = some (first, rest) := by
  suffices afterAny : ∀ passed, cutByteFrom mark passed (first ++ mark :: rest) =
      some (passed.reverse ++ first, rest) from afterAny []
  induction first with
  | nil =>
      intro passed
      rw [List.nil_append, cutByteFrom, if_pos rfl, List.append_nil]
  | cons head tail inductionHypothesis =>
      intro passed
      obtain ⟨differs, tailAbsent⟩ := List.ne_and_not_mem_of_not_mem_cons absent
      rw [List.cons_append, cutByteFrom, if_neg (Ne.symm differs),
        inductionHypothesis tailAbsent, List.reverse_cons, List.append_assoc,
        List.singleton_append]

/-- A text is cut at the first mark. -/
theorem not_mem_of_cutByte? {mark : UInt8} {text first rest : Bytes}
    (cut : cutByte? mark text = some (first, rest)) : mark ∉ first := by
  have member : mark ∈ text := by
    rw [eq_of_cutByte? cut]
    simp
  obtain ⟨before, after, rfl, absent⟩ := List.eq_append_cons_of_mem member
  rw [cutByte?_append absent] at cut
  cases cut
  exact absent

private theorem beforePairFrom_eq (mark : UInt8) (passed text : Bytes) :
    beforePairFrom mark passed text = passed.reverse ++ beforePair mark text := by
  suffices afterAny : ∀ before, beforePairFrom mark (before ++ passed) text =
      passed.reverse ++ beforePairFrom mark before text from afterAny []
  intro before
  fun_induction beforePairFrom mark before text with
  | case1 before => simp [beforePairFrom]
  | case2 before last => simp [beforePairFrom]
  | case3 before first second tail isPair => simp [beforePairFrom, isPair]
  | case4 before first second tail notPair inductionHypothesis =>
      rw [beforePairFrom, if_neg notPair]
      exact inductionHypothesis

theorem beforePair_cons_cons (mark first second : UInt8) (tail : Bytes) :
    beforePair mark (first :: second :: tail) =
      if first = mark ∧ second = mark then [] else first :: beforePair mark (second :: tail) := by
  rw [beforePair, beforePairFrom, beforePairFrom_eq]
  rfl

theorem beforePair_isPrefix (mark : UInt8) (text : Bytes) : beforePair mark text <+: text := by
  induction text with
  | nil => exact List.prefix_rfl
  | cons first rest inductionHypothesis =>
      cases rest with
      | nil => exact List.prefix_rfl
      | cons second tail =>
          rw [beforePair_cons_cons]
          split
          · exact List.nil_prefix
          · exact List.cons_prefix_cons.2 ⟨rfl, inductionHypothesis⟩

/-- There is no pair before the first one. -/
theorem noPair_beforePair (mark : UInt8) (text : Bytes) :
    ¬ [mark, mark] <:+: beforePair mark text := by
  induction text with
  | nil => exact fun pair => absurd pair.length_le (by simp [beforePair, beforePairFrom])
  | cons first rest inductionHypothesis =>
      cases rest with
      | nil => exact fun pair => absurd pair.length_le (by simp [beforePair, beforePairFrom])
      | cons second tail =>
          rw [beforePair_cons_cons]
          split
          · exact fun pair => absurd pair.length_le (by simp)
          · next notPair =>
              intro pair
              rcases List.infix_cons_iff.1 pair with starts | later
              · obtain ⟨isMark, next⟩ := List.cons_prefix_cons.1 starts
                -- what follows `first` begins like the text behind it
                have following := next.trans (beforePair_isPrefix mark (second :: tail))
                exact notPair ⟨isMark.symm, (List.cons_prefix_cons.1 following).1.symm⟩
              · exact inductionHypothesis later

theorem beforePair_of_noPair {mark : UInt8} {text : Bytes} (noPair : ¬ [mark, mark] <:+: text) :
    beforePair mark text = text := by
  induction text with
  | nil => rfl
  | cons first rest inductionHypothesis =>
      cases rest with
      | nil => rfl
      | cons second tail =>
          have notPair : ¬ (first = mark ∧ second = mark) := by
            rintro ⟨rfl, rfl⟩
            exact noPair ⟨[], tail, rfl⟩
          rw [beforePair_cons_cons, if_neg notPair,
            inductionHypothesis fun pair => noPair (List.infix_cons pair)]

/-- A pair of marks does not reach across a byte that is no mark. -/
theorem pair_infix_append {mark separator : UInt8} (differs : separator ≠ mark)
    {first rest : Bytes} (pair : [mark, mark] <:+: first ++ separator :: rest) :
    [mark, mark] <:+: first ∨ [mark, mark] <:+: rest := by
  induction first with
  | nil =>
      rcases List.infix_cons_iff.1 pair with starts | later
      · exact absurd (List.cons_prefix_cons.1 starts).1.symm differs
      · exact .inr later
  | cons byte tail inductionHypothesis =>
      rcases List.infix_cons_iff.1 pair with starts | later
      · obtain ⟨rfl, next⟩ := List.cons_prefix_cons.1 starts
        cases tail with
        | nil => exact absurd (List.cons_prefix_cons.1 next).1.symm differs
        | cons second more =>
            obtain ⟨rfl, _⟩ := List.cons_prefix_cons.1 next
            exact .inl ⟨[], more, rfl⟩
      · exact (inductionHypothesis later).imp_left List.infix_cons

end Bytes

namespace Line

/-- What a line asks for by its parts, if nothing is wrong with them. -/
def directiveOf (parts : LineParts) : Except Error Directive :=
  if parts.label ≠ [] ∧ (fields parts.label).length ≠ 1 then .error (.plain .labelInvalid)
  else
    match fields parts.body with
    | [] =>
        if parts.label = [] then .ok .nothing else .error (.plain .labelWithoutInstruction)
    | first :: arguments =>
        if first = originWord then
          if parts.label ≠ [] then .error (.plain .labelOnDirective)
          else (originAddress arguments).map .origin
        else if first = endWord then
          if parts.label ≠ [] then .error (.plain .labelOnDirective)
          else if arguments ≠ [] then .error (.plain .extraTokens)
          else .ok .finish
        else .ok .instruction

/-- A line is judged wrong where it asks for nothing, and otherwise asks for what it is judged
to ask for. -/
theorem judge_eq (parts : LineParts) :
    directiveOf parts =
      match judge parts with
      | (directive, none) => .ok directive
      | (_, some cause) => .error cause := by
  unfold directiveOf judge
  split
  · rfl
  · cases fields parts.body with
    | nil => by_cases unlabelled : parts.label = [] <;> simp [unlabelled]
    | cons first arguments =>
        dsimp only
        split
        · split
          · rfl
          · cases originAddress arguments <;> rfl
        · split
          · split
            · rfl
            · split <;> rfl
          · rfl

/-- Reading a line splits it and looks at its parts. -/
theorem parse_eq_map (text : Bytes) :
    parse text = (directiveOf (split text)).map fun directive => ⟨split text, directive⟩ := by
  rw [judge_eq, parse, read]
  rcases judge (split text) with ⟨directive, wrong⟩
  cases wrong <;> rfl

theorem parse_eq_ok_iff {text : Bytes} {parts : LineParts} {directive : Directive} :
    parse text = .ok ⟨parts, directive⟩ ↔
      split text = parts ∧ directiveOf (split text) = .ok directive := by
  rw [parse_eq_map]
  cases directiveOf (split text) with
  | error cause => simp [Except.map]
  | ok found => simp [Except.map]

theorem parse_eq_error_iff {text : Bytes} {cause : Error} :
    parse text = .error cause ↔ directiveOf (split text) = .error cause := by
  rw [parse_eq_map]
  cases directiveOf (split text) <;> simp [Except.map]

/-- The kind of a failure says all about a line that cannot be read. -/
theorem parse_error_plain {text : Bytes} {cause : Error} (refused : parse text = .error cause) :
    ∃ kind, cause = .plain kind := by
  rw [parse_eq_error_iff] at refused
  unfold directiveOf originAddress at refused
  grind [Except.map]

theorem originAddress_lt {arguments : List Bytes} {address : Nat}
    (found : originAddress arguments = .ok address) : address < memorySize := by
  unfold originAddress at found
  split at found
  · contradiction
  · split at found
    · next number _ =>
        by_cases inside : number < memorySize
        · rw [if_pos inside] at found
          cases found
          exact inside
        · rw [if_neg inside] at found
          contradiction
    · contradiction
  · contradiction

/-- An origin directive has no label, and its address is that of its arguments. -/
theorem directiveOf_origin {parts : LineParts} {address : Nat}
    (origin : directiveOf parts = .ok (.origin address)) :
    parts.label = [] ∧ ∃ arguments, fields parts.body = originWord :: arguments ∧
      originAddress arguments = .ok address := by
  unfold directiveOf at origin
  split at origin
  · contradiction
  · split at origin
    · split at origin <;> cases origin
    · next first arguments words =>
        split at origin
        · next isOrigin =>
            split at origin
            · contradiction
            · next noLabel =>
                refine ⟨Decidable.not_not.1 noLabel, arguments, isOrigin ▸ words, ?_⟩
                cases found : originAddress arguments with
                | error cause => simp [found, Except.map] at origin
                | ok number => simpa [found, Except.map] using origin
        · split at origin
          · split at origin
            · cases origin
            · split at origin <;> cases origin
          · cases origin

/-- An origin is an address. -/
theorem origin_lt {text : Bytes} {parts : LineParts} {address : Nat}
    (parsed : parse text = .ok ⟨parts, .origin address⟩) : address < memorySize := by
  obtain ⟨_, origin⟩ := parse_eq_ok_iff.1 parsed
  obtain ⟨_, arguments, _, found⟩ := directiveOf_origin origin
  exact originAddress_lt found

/-! ### Comments -/

/-- Whether a comment starts somewhere in a text. -/
def HasComment (text : Bytes) : Prop :=
  [0x2F, 0x2F] <:+: text

instance (text : Bytes) : Decidable (HasComment text) :=
  inferInstanceAs (Decidable (_ <:+: _))

theorem noComment_of_noSlash {text : Bytes} (noSlash : 0x2F ∉ text) : ¬ HasComment text :=
  fun comment => noSlash (comment.subset (by simp))

theorem HasComment.of_infix {part text : Bytes} (comment : HasComment part)
    (infixOf : part <:+: text) : HasComment text :=
  comment.trans infixOf

/-- Words joined by blanks make no comment. -/
theorem noComment_join {words : List Bytes} (noComment : ∀ word ∈ words, ¬ HasComment word) :
    ¬ HasComment (Bytes.join [0x20] words) := by
  induction words with
  | nil => decide
  | cons first more inductionHypothesis =>
      cases more with
      | nil =>
          rw [Bytes.join_singleton]
          exact noComment first List.mem_cons_self
      | cons second others =>
          rw [Bytes.join_cons_cons]
          intro comment
          rcases Bytes.pair_infix_append (by decide) comment with inFirst | inRest
          · exact noComment first List.mem_cons_self inFirst
          · exact inductionHypothesis
              (fun word member => noComment word (List.mem_cons_of_mem first member)) inRest

/-- The body of a line is a part of it without a comment. -/
theorem split_body (text : Bytes) :
    (split text).body <:+: text ∧ ¬ HasComment (split text).body := by
  have statement := Bytes.beforePair_isPrefix 0x2F text
  have noComment := Bytes.noPair_beforePair 0x2F text
  suffices part : (split text).body <:+: Bytes.beforePair 0x2F text from
    ⟨part.trans statement.isInfix, fun comment => noComment (comment.of_infix part)⟩
  cases cut : Bytes.cutByte? 0x2C (Bytes.beforePair 0x2F text) with
  | none =>
      simp only [split, cut]
      exact trim_isInfix _
  | some sides =>
      obtain ⟨label, body⟩ := sides
      have behind : body <:+: label ++ 0x2C :: body := ⟨label ++ [0x2C], [], by simp⟩
      rw [← Bytes.eq_of_cutByte? cut] at behind
      simp only [split, cut]
      exact (trim_isInfix body).trans behind

/-- The label of a line is a part of it without a comment, before the first comma. -/
theorem split_label (text : Bytes) :
    (split text).label <:+: text ∧ ¬ HasComment (split text).label ∧
      0x2C ∉ (split text).label ∧ trim (split text).label = (split text).label := by
  have statement := Bytes.beforePair_isPrefix 0x2F text
  have noComment := Bytes.noPair_beforePair 0x2F text
  cases cut : Bytes.cutByte? 0x2C (Bytes.beforePair 0x2F text) with
  | none =>
      simp only [split, cut]
      exact ⟨List.nil_infix, by decide, by simp, rfl⟩
  | some sides =>
      obtain ⟨label, body⟩ := sides
      have front : label <:+: label ++ 0x2C :: body := (List.prefix_append _ _).isInfix
      rw [← Bytes.eq_of_cutByte? cut] at front
      have part := (trim_isInfix label).trans front
      simp only [split, cut]
      refine ⟨part.trans statement.isInfix, fun comment => noComment (comment.of_infix part),
        ?_, trim_trim label⟩
      exact fun comma => Bytes.not_mem_of_cutByte? cut ((trim_isInfix label).subset comma)

/-- A label that is accepted is a single word. -/
theorem fields_label {text : Bytes} {parts : LineParts} {directive : Directive}
    (parsed : parse text = .ok ⟨parts, directive⟩) (labelled : parts.label ≠ []) :
    fields parts.label = [parts.label] := by
  obtain ⟨rfl, read⟩ := parse_eq_ok_iff.1 parsed
  have trimmed := (split_label text).2.2.2
  apply fields_of_trimmed trimmed
  unfold directiveOf at read
  split at read
  · contradiction
  · next accepted => simpa [labelled] using accepted

/-! ### Lines made of their parts -/

/-- A label and a body with a comma between them are found again. -/
theorem split_of_label {label body : Bytes} (labelNoComment : ¬ HasComment label)
    (noComma : 0x2C ∉ label) (noComment : ¬ HasComment body) :
    split (label ++ 0x2C :: body) = ⟨trim label, trim body⟩ := by
  have noCommentAround : ¬ HasComment (label ++ 0x2C :: body) := fun comment =>
    (Bytes.pair_infix_append (by decide) comment).elim labelNoComment noComment
  simp only [split, Bytes.beforePair_of_noPair noCommentAround, Bytes.cutByte?_append noComma]

theorem split_of_noLabel {text : Bytes} (noComment : ¬ HasComment text) (noComma : 0x2C ∉ text) :
    split text = ⟨[], trim text⟩ := by
  simp only [split, Bytes.beforePair_of_noPair noComment, Bytes.cutByte?_of_not_mem noComma]

/-- A comma in front of everything else stands for no label. -/
theorem split_of_emptyLabel {body : Bytes} (noComment : ¬ HasComment body) :
    split (0x2C :: body) = ⟨[], trim body⟩ := by
  have noCommentInNothing : ¬ HasComment [] := by decide
  exact split_of_label noCommentInNothing List.not_mem_nil noComment

theorem parse_origin {text digits : Bytes} {address : Nat}
    (noComment : ¬ HasComment text) (noComma : 0x2C ∉ text)
    (words : fields text = [originWord, digits])
    (number : readUnsigned 16 digits = .value address) (inside : address < memorySize) :
    parse text = .ok ⟨⟨[], trim text⟩, .origin address⟩ := by
  have parts := split_of_noLabel noComment noComma
  refine parse_eq_ok_iff.2 ⟨parts, ?_⟩
  rw [parts]
  simp [directiveOf, fields_trim, words, originAddress, number, inside, Except.map]

/-- A line without a label that starts with the word of no directive asks for a word. -/
theorem parse_instruction {text body first : Bytes} {arguments : List Bytes}
    (parts : split text = ⟨[], trim body⟩) (words : fields body = first :: arguments)
    (notOrigin : first ≠ originWord) (notEnd : first ≠ endWord) :
    parse text = .ok ⟨⟨[], trim body⟩, .instruction⟩ := by
  refine parse_eq_ok_iff.2 ⟨parts, ?_⟩
  rw [parts]
  simp [directiveOf, fields_trim, words, notOrigin, notEnd]

end Line

end BasicComputer
