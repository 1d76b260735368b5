import BasicComputer.Proofs.Meaning
import BasicComputer.Proofs.Rebuild
import BasicComputer.Proofs.Translation

/-!
Contract: the layout of a source does not matter.

Owns:
- when two lines say the same (`Line.SameWords`): their labels and the words of their
  bodies are equal, whatever white space and comments there are;
- when a source differs from another one in blank lines only (`Source.Reblanked`);
- that neither difference is noticed (`assembleText_layout`), except that blank lines
  count in the numbers of lines.

Does not own how runs are compared (`Proofs.Translation`).
-/

namespace BasicComputer

open Text

namespace Line

/-- Whether two lines have the same label and the same words behind it. -/
structure SameWords (first second : Bytes) : Prop where
  label : (split second).label = (split first).label
  words : fields (split second).body = fields (split first).body

instance (first second : Bytes) : Decidable (SameWords first second) :=
  decidable_of_iff ((split second).label = (split first).label ∧
      fields (split second).body = fields (split first).body)
    ⟨fun same => ⟨same.1, same.2⟩, fun same => ⟨same.label, same.words⟩⟩

/-- Whether a line asks for nothing. -/
def IsBlank (text : Bytes) : Prop :=
  directiveOf (split text) = .ok .nothing

instance (text : Bytes) : Decidable (IsBlank text) :=
  inferInstanceAs (Decidable (directiveOf (split text) = .ok .nothing))

theorem IsBlank.not_isEnd {text : Bytes} (blank : IsBlank text) : ¬ isEnd text = true := by
  unfold isEnd
  rw [parse_eq_ok_iff.2 ⟨rfl, blank⟩]
  simp

theorem directiveOf_congr {first second : LineParts} (label : second.label = first.label)
    (words : fields second.body = fields first.body) : directiveOf second = directiveOf first := by
  unfold directiveOf
  rw [label, words]

theorem SameWords.refl (text : Bytes) : SameWords text text :=
  ⟨rfl, rfl⟩

/-- Lines that say the same are related by the translation that changes nothing. -/
theorem SameWords.relates {first second : Bytes} (same : SameWords first second) :
    Translation.identity.Relates first second where
  label := same.label
  words := same.words
  directive := directiveOf_congr same.label same.words
  encode := by
    intro labels
    change Body.encode labels _ = _
    rw [Body.encode, Body.encode, same.words]
    cases Body.encodeWords labels (fields (split first).body) <;> rfl

end Line

namespace Translation

theorem RelatesEntry.content_eq {numbers : Nat → Nat → Prop} {first second : Entry}
    (related : identity.RelatesEntry numbers first second) : first.content = second.content := by
  unfold Entry.content
  rw [related.address, related.words, related.word]
  rfl

/-- What entries say if nothing but the numbers of their lines can differ. -/
theorem map_content_of_identity {numbers : Nat → Nat → Prop} {first second : List Entry}
    (related : List.Forall₂ (identity.RelatesEntry numbers) first second) :
    second.map Entry.content = first.map Entry.content := by
  have same : List.Forall₂ Eq (first.map Entry.content) (second.map Entry.content) := by
    rw [List.forall₂_map_left_iff, List.forall₂_map_right_iff]
    exact related.imp fun _ _ relatedEntry => relatedEntry.content_eq
  rw [List.forall₂_eq_eq_eq] at same
  exact same.symm

/-- Results that are related by the translation that changes nothing are one program,
failures of one cause, or one breakdown. -/
theorem RelatesResult.of_identity {first second : Attempt Failure Program}
    (related : identity.RelatesResult first second) :
    (∃ program, first = .ok program ∧ second = .ok program) ∨
      (∃ failure other, first = .error failure ∧ second = .error other ∧
        other.number = failure.number ∧ other.cause = failure.cause) ∨
      ∃ reason, first = .broken reason ∧ second = .broken reason := by
  cases related with
  | @ok program other memory labels entries =>
      left
      obtain ⟨_, _, _⟩ := program
      obtain ⟨_, _, _⟩ := other
      cases memory
      cases labels
      cases Array.toList_inj.1 (entries.trans (List.map_id _))
      exact ⟨_, rfl, rfl⟩
  | error number cause => exact .inr (.inl ⟨_, _, rfl, rfl, number, cause⟩)
  | broken reason => exact .inr (.inr ⟨reason, rfl, rfl⟩)

end Translation

namespace Source

/-- The lines of a text that are delivered, from all its lines. -/
def deliveredOf (raw : List Bytes) : List Bytes :=
  (raw.takeWhile isShort).map dropReturn

/-- Whether no line is too long, or an end directive stands before the first one that is. -/
def Reaches (raw : List Bytes) : Prop :=
  (∀ line ∈ raw, line.length < lineLimit) ∨ ∃ line ∈ deliveredOf raw, Line.isEnd line = true

/-- Lists of lines that differ in blank lines only. What is inserted must not be too long. -/
inductive Reblanked : List Bytes → List Bytes → Prop where
  | nil : Reblanked [] []
  | keep (line : Bytes) {first second : List Bytes} (later : Reblanked first second) :
      Reblanked (line :: first) (line :: second)
  | insert {line : Bytes} {first second : List Bytes} (blank : Line.IsBlank (dropReturn line))
      (short : line.length < lineLimit) (later : Reblanked first second) :
      Reblanked first (line :: second)
  | delete {line : Bytes} {first second : List Bytes} (blank : Line.IsBlank (dropReturn line))
      (later : Reblanked first second) : Reblanked (line :: first) second

theorem deliveredOf_cons {line : Bytes} (short : line.length < lineLimit) (raw : List Bytes) :
    deliveredOf (line :: raw) = dropReturn line :: deliveredOf raw := by
  have isShort : isShort line = true := decide_eq_true short
  unfold deliveredOf
  rw [List.takeWhile_cons_of_pos isShort, List.map_cons]

theorem reaches_cons_iff (line : Bytes) (raw : List Bytes) :
    Reaches (line :: raw) ↔
      line.length < lineLimit ∧ (Line.isEnd (dropReturn line) = true ∨ Reaches raw) := by
  by_cases short : line.length < lineLimit
  · unfold Reaches
    rw [deliveredOf_cons short]
    simp only [List.forall_mem_cons, List.exists_mem_cons_iff, short, true_and]
    exact or_left_comm
  · have nothing : deliveredOf (line :: raw) = [] := by
      unfold deliveredOf
      rw [List.takeWhile_cons_of_neg (by simpa [isShort] using short), List.map_nil]
    simp [Reaches, nothing, short]

end Source

namespace Assembler

open Source

theorem Progress.next_of_blank (progress : Progress) {text : Bytes} (blank : Line.IsBlank text) :
    (progress.next text).1.assembler = progress.assembler ∧
      (progress.next text).2 = .proceed := by
  have parsed : Line.parse text = .ok ⟨Line.split text, .nothing⟩ :=
    Line.parse_eq_ok_iff.2 ⟨rfl, blank⟩
  have stepped : progress.assembler.step (progress.number + 1) text =
      (progress.assembler, .proceed) := (Move.nothing parsed).step_eq
  exact ⟨congrArg Prod.fst stepped, congrArg Prod.snd stepped⟩

theorem Progress.over_cons_of_blank (progress : Progress) {text : Bytes}
    (blank : Line.IsBlank text) (rest : List Bytes) :
    progress.over (text :: rest) = (progress.next text).1.over rest := by
  apply over_cons_of_goesOn
  rw [(progress.next_of_blank blank).2]
  rfl

/-- Two runs over lines that differ in blank lines only, whatever the lines are numbered.
Where the first gets through, so does the second, to the same state but for the numbers. -/
theorem Progress.over_reblanked {raw other : List Bytes} (reblanked : Reblanked raw other)
    {first second : Progress}
    (related : Translation.identity.RelatesState (fun _ _ => True) first.assembler
      second.assembler)
    (reaches : Reaches raw)
    (fine : (first.over (deliveredOf raw)).2.isFine = true) :
    Reaches other ∧ (second.over (deliveredOf other)).2.isFine = true ∧
      Translation.identity.RelatesState (fun _ _ => True)
        (first.over (deliveredOf raw)).1.assembler
        (second.over (deliveredOf other)).1.assembler := by
  induction reblanked generalizing first second with
  | nil =>
      exact ⟨reaches, rfl, related⟩
  | keep line later inductionHypothesis =>
      obtain ⟨short, ahead⟩ := (reaches_cons_iff _ _).1 reaches
      have sameLine := (Line.SameWords.refl (dropReturn line)).relates
      obtain ⟨relatedNext, relatedVerdict⟩ := Translation.next_related sameLine related trivial
      rw [deliveredOf_cons short] at fine ⊢
      rw [deliveredOf_cons short, reaches_cons_iff]
      cases on : Progress.goesOn (first.next (dropReturn line)).2 with
      | true =>
          have notEnd : ¬ Line.isEnd (dropReturn line) = true := by
            intro isEnd
            rw [(first.next_finished_iff _).2 isEnd] at on
            contradiction
          have otherOn := relatedVerdict.goesOn.trans on
          rw [Progress.over_cons_of_goesOn on] at fine ⊢
          rw [Progress.over_cons_of_goesOn otherOn]
          obtain ⟨otherReaches, otherFine, relatedEnd⟩ :=
            inductionHypothesis relatedNext (ahead.resolve_left notEnd) fine
          exact ⟨⟨short, .inr otherReaches⟩, otherFine, relatedEnd⟩
      | false =>
          have otherStops := relatedVerdict.goesOn.trans on
          rw [Progress.over_cons_of_stops on] at fine ⊢
          rw [Progress.over_cons_of_stops otherStops]
          have isEnd := (first.next_finished_iff _).1 (eq_finished_of_stops on fine)
          exact ⟨⟨short, .inl isEnd⟩, relatedVerdict.isFine.trans fine, relatedNext⟩
  | insert blank short later inductionHypothesis =>
      rw [deliveredOf_cons short, second.over_cons_of_blank blank, reaches_cons_iff]
      obtain ⟨otherReaches, otherFine, relatedEnd⟩ :=
        inductionHypothesis (by rwa [(second.next_of_blank blank).1]) reaches fine
      exact ⟨⟨short, .inr otherReaches⟩, otherFine, relatedEnd⟩
  | delete blank later inductionHypothesis =>
      obtain ⟨short, ahead⟩ := (reaches_cons_iff _ _).1 reaches
      rw [deliveredOf_cons short, first.over_cons_of_blank blank] at fine ⊢
      exact inductionHypothesis (by rwa [(first.next_of_blank blank).1])
        (ahead.resolve_left blank.not_isEnd) fine

/-- Where a source assembles, so does one that differs in blank lines only, to a program
that differs in the numbers of lines only. -/
theorem assembleText_reblanked (assembler : Assembler) {first second : Bytes}
    (reblanked : Reblanked (rawLines first) (rawLines second)) {program : Program}
    (succeeded : (assembler.assembleText first).result = .ok program) :
    ∃ other, (assembler.assembleText second).result = .ok other ∧
      other.memory = program.memory ∧ other.labels = program.labels ∧
      other.contents = program.contents := by
  have start : Translation.identity.RelatesState (fun _ _ => True)
      assembler.begin.assembler assembler.begin.assembler := ⟨rfl, rfl, rfl, .nil⟩
  obtain ⟨fine, reaches⟩ := (Meaning.assembleText_ok_iff assembler first).1 ⟨program, succeeded⟩
  obtain ⟨otherReaches, otherFine, related⟩ :=
    Progress.over_reblanked reblanked start reaches fine
  obtain ⟨other, otherSucceeded⟩ :=
    (Meaning.assembleText_ok_iff assembler second).2 ⟨otherFine, otherReaches⟩
  have programIs := assemble_program succeeded
  have otherIs := assemble_program otherSucceeded
  rw [assemble_assembler, Source.texts_read] at programIs otherIs
  subst programIs otherIs
  exact ⟨_, otherSucceeded, related.memory, related.labels,
    Translation.map_content_of_identity related.entries⟩

/-- White space, comments and carriage returns are not noticed where every line keeps its
label and its words, and blank lines are noticed in the numbers of lines only. -/
theorem assembleText_layout (assembler : Assembler) (first second : Bytes) :
    ((∀ line ∈ rawLines first, line.length < lineLimit) →
        (∀ line ∈ rawLines second, line.length < lineLimit) →
        List.Forall₂ Line.SameWords (linesOf first) (linesOf second) →
        (∃ program, (assembler.assembleText first).result = .ok program ∧
            (assembler.assembleText second).result = .ok program) ∨
          (∃ failure other, (assembler.assembleText first).result = .error failure ∧
            (assembler.assembleText second).result = .error other ∧
            other.number = failure.number ∧ other.cause = failure.cause) ∨
          ∃ reason, (assembler.assembleText first).result = .broken reason ∧
            (assembler.assembleText second).result = .broken reason) ∧
      (Reblanked (rawLines first) (rawLines second) →
        ∀ program, (assembler.assembleText first).result = .ok program →
          ∃ other, (assembler.assembleText second).result = .ok other ∧
            other.memory = program.memory ∧ other.labels = program.labels ∧
            other.contents = program.contents) := by
  constructor
  · intro short otherShort sameWords
    have related := sameWords.imp fun _ _ same => same.relates
    exact (Translation.assembleText_related rfl short otherShort related).of_identity
  · intro reblanked program succeeded
    exact assembler.assembleText_reblanked reblanked succeeded

/-- A source, the same source with other white space, comments and line ends, and with
other blank lines. -/
theorem assembleText_layout_spaced :
    let assembler := ({} : Assembler).predefine (Bytes.ofString "P") 5
    let plain := Bytes.ofString "LDA P\n\nX, BUN X I\nEND\n"
    let spaced := Bytes.ofString "\tLDA  P// to, from\r\n//\r\n X ,BUN\u00a0X\tI //\r\n,END"
    let blanked := Bytes.ofString "// X, LDA\r\nLDA P\nX, BUN X I\n , \nEND\n\n"
    (List.Forall₂ Line.SameWords (linesOf plain) (linesOf spaced) ∧
        ∃ program, (assembler.assembleText plain).result = .ok program ∧
          (assembler.assembleText spaced).result = .ok program) ∧
      Reblanked (rawLines plain) (rawLines blanked) ∧
        ∃ program other, (assembler.assembleText plain).result = .ok program ∧
          (assembler.assembleText blanked).result = .ok other ∧
          other.memory = program.memory ∧ other.labels = program.labels ∧
          other.contents = program.contents := by
  intro assembler plain spaced blanked
  have sameWords : List.Forall₂ Line.SameWords (linesOf plain) (linesOf spaced) := by
    decide +kernel
  have reblanked : Reblanked (rawLines plain) (rawLines blanked) :=
    .insert (by decide) (by decide) (.keep _ (.delete (by decide) (.keep _
      (.insert (by decide) (by decide) (.keep _ (.insert (by decide) (by decide) .nil))))))
  have alike := (assembleText_layout assembler plain spaced).1 (by decide) (by decide) sameWords
  obtain ⟨other, differing⟩ := (assembleText_layout assembler plain blanked).2 reblanked _ rfl
  refine ⟨⟨sameWords, alike.resolve_right ?_⟩, reblanked, _, other, rfl, differing⟩
  rintro (⟨failure, _, failed, _⟩ | ⟨reason, broken, _⟩)
  · cases failed
  · cases broken

end Assembler

end BasicComputer
