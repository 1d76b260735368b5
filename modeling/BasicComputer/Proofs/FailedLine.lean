import BasicComputer.Proofs.Tracing

/-!
Contract: a failure blames the first bad line, and that line leaves only its label.

Owns:
- what there is to complain about a line, in the order in which it is reported
  (`complaints`), and that a line fails with the first complaint;
- what a failed line leaves (`LeavesLabel`);
- both for whole texts: the lines before the one that is blamed are assembled when they
  stand alone, the failure leaves their state and at most one label more, and a hook is told
  the failure once.

Lines that are too long are not looked at here; they end the reading, not the run. A line that
breaks down is no failure, and there is nothing to complain about its body.
-/

namespace BasicComputer.Assembler

/-- A label must not be bound before. -/
def labelComplaints (labels : Labels) (label : Bytes) : List Error :=
  if label ≠ [] ∧ (labels.find? label).isSome then [.plain .labelDuplicate] else []

/-- A word needs an address. -/
def spaceComplaints (cursor : Nat) : List Error :=
  if memorySize ≤ cursor then [.plain .programTooLarge] else []

/-- A body must have a word. -/
def bodyComplaints (labels : Labels) (body : Bytes) : List Error :=
  match Body.encode labels body with
  | .error cause => [cause]
  | _ => []

/-- All that is wrong with a line, in the order in which it is reported. The body of an
instruction line is looked at with the label of the line bound to the cursor. -/
def complaints (assembler : Assembler) (text : Bytes) : List Error :=
  match Line.parse text with
  | .error cause => [cause]
  | .ok ⟨parts, .instruction⟩ =>
      labelComplaints assembler.labels parts.label ++ spaceComplaints assembler.cursor ++
        bodyComplaints (assembler.labels.withLabel parts.label assembler.cursor) parts.body
  | .ok _ => []

/-- The label of an instruction line that has one which is not bound yet. -/
def newLabel? (labels : Labels) (text : Bytes) : Option Bytes :=
  match Line.parse text with
  | .ok ⟨parts, .instruction⟩ =>
      if parts.label ≠ [] ∧ labels.find? parts.label = none then some parts.label else none
  | _ => none

/-- A line has left nothing but its label, and the label only if it is new. -/
structure LeavesLabel (before after : Assembler) (text : Bytes) : Prop where
  entries : after.entries = before.entries
  cursor : after.cursor = before.cursor
  memory : after.memory = before.memory
  predefined : after.predefined = before.predefined
  labels : after.labels = (newLabel? before.labels text).elim before.labels
    fun label => before.labels.insert label (UInt16.ofNat before.cursor)

/-! ### One line -/

theorem labelComplaints_of_accepts {labels : Labels} {label : Bytes}
    (accepts : labels.Accepts label) : labelComplaints labels label = [] := by
  apply if_neg
  rintro ⟨nonempty, bound⟩
  rw [accepts nonempty] at bound
  contradiction

theorem labelComplaints_of_refused {labels : Labels} {label : Bytes}
    (refused : ¬ labels.Accepts label) :
    labelComplaints labels label = [.plain .labelDuplicate] := by
  apply if_pos
  unfold Labels.Accepts at refused
  cases found : labels.find? label <;> simp_all

/-- A line fails with the first complaint about it, and only if there is one. -/
theorem Move.failed_iff {assembler reached : Assembler} {number : Nat} {text : Bytes}
    {verdict : Verdict} (move : Move assembler number text reached verdict) (cause : Error) :
    verdict = .failed cause ↔ (complaints assembler text).head? = some cause := by
  unfold complaints
  cases move with
  | unreadable parsed => simp [parsed]
  | nothing parsed => simp [parsed]
  | origin parsed => simp [parsed]
  | finish parsed => simp [parsed]
  | duplicate parsed refused => simp [parsed, labelComplaints_of_refused refused]
  | full parsed accepts above =>
      simp [parsed, labelComplaints_of_accepts accepts, spaceComplaints, above]
  | unencodable parsed accepts fits refused =>
      simp [parsed, labelComplaints_of_accepts accepts, spaceComplaints,
        Nat.not_le.2 fits, bodyComplaints, refused]
  | broken parsed accepts fits breaks =>
      simp [parsed, labelComplaints_of_accepts accepts, spaceComplaints,
        Nat.not_le.2 fits, bodyComplaints, breaks]
  | emitted parsed accepts fits encoded =>
      simp [parsed, labelComplaints_of_accepts accepts, spaceComplaints,
        Nat.not_le.2 fits, bodyComplaints, encoded]

theorem newLabel?_of_accepts {labels : Labels} {text : Bytes} {parts : LineParts}
    (parsed : Line.parse text = .ok ⟨parts, .instruction⟩)
    (accepts : labels.Accepts parts.label) (address : Nat) :
    labels.withLabel parts.label address = (newLabel? labels text).elim labels
      fun label => labels.insert label (UInt16.ofNat address) := by
  unfold newLabel? Labels.withLabel
  by_cases empty : parts.label = []
  · simp [parsed, empty]
  · simp [parsed, empty, accepts empty]

/-- A line that fails leaves nothing but its label. -/
theorem Move.leavesLabel {assembler reached : Assembler} {number : Nat} {text : Bytes}
    {cause : Error} (move : Move assembler number text reached (.failed cause)) :
    LeavesLabel assembler reached text := by
  cases move with
  | unreadable parsed =>
      refine ⟨rfl, rfl, rfl, rfl, ?_⟩
      simp [newLabel?, parsed]
  | duplicate parsed refused =>
      refine ⟨rfl, rfl, rfl, rfl, ?_⟩
      have notNew : newLabel? assembler.labels text = none := by
        unfold newLabel?
        unfold Labels.Accepts at refused
        simp_all
      rw [notNew, Option.elim_none]
  | full parsed accepts above =>
      exact ⟨rfl, rfl, rfl, rfl, newLabel?_of_accepts parsed accepts assembler.cursor⟩
  | unencodable parsed accepts fits refused =>
      exact ⟨rfl, rfl, rfl, rfl, newLabel?_of_accepts parsed accepts assembler.cursor⟩

/-! ### Whole texts -/

theorem assembleText_firstLines (assembler : Assembler) {text : Bytes}
    (short : ∀ line ∈ Source.rawLines text, line.length < Source.lineLimit) (count : Nat) :
    assembler.assembleText (Source.firstLines count text) =
      Progress.settle .complete (assembler.begin.over ((Source.linesOf text).take count)) := by
  rw [assembleText_of_short, Source.linesOf_firstLines]
  rw [Source.rawLines_firstLines]
  exact fun line member => short line (List.mem_of_mem_take member)

/-- A text that fails is blamed on a line. The lines before it are no end directives and are
assembled when they stand alone, the cause is the first complaint about the line after
them, and what the failure leaves is their state, with the label of the line if it is new. -/
theorem assembleText_blames (assembler : Assembler) {text : Bytes}
    (short : ∀ line ∈ Source.rawLines text, line.length < Source.lineLimit) {failure : Failure}
    (failed : (assembler.assembleText text).result = .error failure) :
    ∃ count, failure.number = count + 1 ∧
      (Source.linesOf text)[count]? = some failure.line ∧
      Source.firstLines count text <+: text ∧
      Source.linesOf (Source.firstLines count text) = (Source.linesOf text).take count ∧
      (∀ line ∈ (Source.linesOf text).take count, Line.isEnd line = false) ∧
      ∃ passed, passed = (assembler.assembleText (Source.firstLines count text)).assembler ∧
        (assembler.assembleText (Source.firstLines count text)).result = .ok passed.program ∧
        (complaints passed failure.line).head? = some failure.cause ∧
        (UInt16.ofNat passed.cursor).toNat = passed.cursor ∧
        LeavesLabel passed (assembler.assembleText text).assembler failure.line := by
  rw [assembler.assembleText_of_short short] at failed ⊢
  obtain ⟨verdict, numberEq, lineEq⟩ := Progress.settle_failure failed
  have stopped : (assembler.begin.over (Source.linesOf text)).2 ≠ .proceed := by simp [verdict]
  obtain ⟨before, bad, stopsAt⟩ := Progress.exists_stopsAt stopped
  have passedRun := assembler.assembleText_firstLines short before.length
  rw [stopsAt.take, Progress.settle_of_fine (by rw [stopsAt.through]; rfl)] at passedRun
  have move := stopsAt.move verdict
  rw [stopsAt.number] at numberEq
  rw [stopsAt.line] at lineEq
  refine ⟨before.length, ?_, ?_, Source.firstLines_isPrefix _ text,
    Source.linesOf_firstLines _ text, ?_, _, rfl, ?_, ?_, ?_, ?_⟩
  · rw [numberEq]
    simp [begin]
  · rw [lineEq]
    exact stopsAt.getElem?
  · rw [stopsAt.take]
    exact Progress.over_proceed_noEnd stopsAt.through
  · rw [passedRun]
    rfl
  · rw [passedRun, lineEq]
    exact (move.failed_iff _).1 rfl
  · rw [passedRun]
    exact (consistent_over assembler before).cursor_exact
  · rw [passedRun, lineEq, Progress.settle_assembler]
    exact move.leavesLabel

/-- However a text is watched, a failure is blamed on a line: the lines before it are no end
directives and are assembled when they stand alone, the cause is the first complaint about the
line after them, and what the failure leaves is their state, with the label of the line if it is
new. The hook has then been told this failure and nothing else, and it has been told nothing
where the text is assembled or breaks down. -/
theorem assembleText_failure {State : Type} (tracing : Tracing State) (trail : Trail State)
    (assembler : Assembler) (text : Bytes)
    (short : ∀ line ∈ Source.rawLines text, line.length < Source.lineLimit) :
    let (after, run) := tracing.assemble trail assembler (Source.read text none)
    (∀ program, run.result = .ok program → after.kept = trail.kept) ∧
      (∀ reason, run.result = .broken reason → after.kept = trail.kept) ∧
      ∀ failure, run.result = .error failure →
        (∀ hook, tracing.report = some hook → after.kept = hook failure trail.kept) ∧
        ∃ count, failure.number = count + 1 ∧
          (Source.linesOf text)[count]? = some failure.line ∧
          Source.firstLines count text <+: text ∧
          Source.linesOf (Source.firstLines count text) = (Source.linesOf text).take count ∧
          (∀ line ∈ (Source.linesOf text).take count, Line.isEnd line = false) ∧
          ∃ passed, passed = (assembler.assembleText (Source.firstLines count text)).assembler ∧
            (assembler.assembleText (Source.firstLines count text)).result = .ok passed.program ∧
            (complaints passed failure.line).head? = some failure.cause ∧
            (UInt16.ofNat passed.cursor).toNat = passed.cursor ∧
            LeavesLabel passed run.assembler failure.line := by
  rw [tracing.assemble_eq]
  refine ⟨?_, ?_, ?_⟩
  · intro program succeeded
    exact tracing.kept_after_of_no_error (by simp [succeeded]) trail
  · intro reason broken
    exact tracing.kept_after_of_no_error (by simp [broken]) trail
  · intro failure failed
    refine ⟨?_, assembler.assembleText_blames short failed⟩
    intro hook hooked
    exact tracing.kept_after_of_error failed hooked trail

/-- A bad flag on the third line of a text, and a hook that collects what it is told: the label
of the line stays, the words and the cursor are those of the two lines before it, and the hook
is told once. Without the flag it is told nothing. -/
theorem assembleText_failure_flag :
    let text := Bytes.ofString "ORG 10\nCLA\nX, LDA X J\nEND\n"
    let fine := Bytes.ofString "ORG 10\nCLA\nX, LDA X\nEND\n"
    let failure : Failure := ⟨3, Bytes.ofString "X, LDA X J", .plain .invalidIndirectFlag⟩
    let collecting : Tracing (List Failure) := { report := some List.cons }
    let (after, run) := collecting.assemble { kept := [] } {} (Source.read text none)
    (∀ line ∈ Source.rawLines text, line.length < Source.lineLimit) ∧
      run.result = .error failure ∧ after.kept = [failure] ∧
      (∃ count, failure.number = count + 1 ∧
        LeavesLabel (assembleText {} (Source.firstLines count text)).assembler run.assembler
          failure.line) ∧
      (collecting.assemble { kept := [] } {} (Source.read fine none)).1.kept = [] := by
  intro text fine failure collecting
  have short : ∀ line ∈ Source.rawLines text, line.length < Source.lineLimit := by decide
  have shortToo : ∀ line ∈ Source.rawLines fine, line.length < Source.lineLimit := by decide
  obtain ⟨told, count, number, _, _, _, _, passed, rfl, _, _, _, leaves⟩ :=
    (assembleText_failure collecting { kept := [] } {} text short).2.2 failure rfl
  refine ⟨short, rfl, told _ rfl, ⟨count, number, leaves⟩, ?_⟩
  exact (assembleText_failure collecting { kept := [] } {} fine shortToo).1 _ rfl

end BasicComputer.Assembler
