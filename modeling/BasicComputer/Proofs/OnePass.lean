import BasicComputer.Proofs.Run

/-!
Contract: lines are never looked back at.

Owns what complete lines decide about every source that starts with them: a
failure or an end directive among them settles the whole run, and otherwise what
they emitted and bound stays as it is, whatever follows and however the input ends.
-/

namespace BasicComputer.Assembler

/-- A later state keeps every emitted word and every binding. -/
structure Extends (earlier later : Assembler) : Prop where
  entries : earlier.entries.toList <+: later.entries.toList
  labels : ∀ name address, earlier.labels.find? name = some address →
    later.labels.find? name = some address

theorem Extends.refl (assembler : Assembler) : assembler.Extends assembler :=
  ⟨List.prefix_rfl, fun _ _ bound => bound⟩

theorem Extends.trans {first second third : Assembler} (left : first.Extends second)
    (right : second.Extends third) : first.Extends third where
  entries := left.entries.trans right.entries
  labels := fun name address bound => right.labels name address (left.labels name address bound)

/-- A line takes nothing back. -/
theorem Move.extends {assembler reached : Assembler} {number : Nat} {text : Bytes}
    {verdict : Verdict} (move : Move assembler number text reached verdict) :
    assembler.Extends reached := by
  cases move with
  | unreadable parsed => exact .refl assembler
  | nothing parsed => exact .refl assembler
  | origin parsed => exact ⟨List.prefix_rfl, fun _ _ bound => bound⟩
  | finish parsed => exact .refl assembler
  | duplicate parsed refused => exact .refl assembler
  | full parsed accepts above =>
      exact ⟨List.prefix_rfl, fun _ _ bound => accepts.find?_withLabel _ bound⟩
  | unencodable parsed accepts fits refused =>
      exact ⟨List.prefix_rfl, fun _ _ bound => accepts.find?_withLabel _ bound⟩
  | broken parsed accepts fits breaks =>
      exact ⟨List.prefix_rfl, fun _ _ bound => accepts.find?_withLabel _ bound⟩
  | emitted parsed accepts fits encoded =>
      refine ⟨?_, fun _ _ bound => accepts.find?_withLabel _ bound⟩
      rw [Array.toList_push]
      exact List.prefix_append _ _

theorem Progress.over_extends (progress : Progress) (lines : List Bytes) :
    progress.assembler.Extends (progress.over lines).1.assembler :=
  Progress.over_induction (motive := fun reached => progress.assembler.Extends reached.assembler)
    (fun reached text kept => kept.trans (reached.next_move text).extends) (.refl _) lines

/-- Complete lines that are not too long are the lines that a run starts with. -/
theorem assembleText_of_lines (assembler : Assembler) {first : Bytes}
    (passed : ∀ failure second, Source.read (first ++ second) failure =
      ⟨Source.linesOf first ++ (Source.read second failure).lines,
        (Source.read second failure).tail, (Source.read second failure).ending⟩) :
    assembler.assembleText first =
      Progress.settle .complete (assembler.begin.over (Source.linesOf first)) := by
  have alone : Source.read first none = ⟨Source.linesOf first, none, .complete⟩ := by
    have whole := passed none []
    rwa [List.append_nil, show Source.read [] none = ⟨[], none, .complete⟩ from rfl,
      List.append_nil] at whole
  have complete : (Source.read first none).ending = .complete := by rw [alone]
  rw [assembleText, assemble_of_complete complete, alone, Source.texts, Option.toList_none,
    List.append_nil]

/-- What complete lines decide, for a run that they settle alone. -/
private theorem decided_of_eq {alone whole : Run} (hasEnd noEnd : Prop) (same : whole = alone) :
    (∀ fault, alone.result = .error fault → whole.result = .error fault) ∧
      (∀ reason, alone.result = .broken reason → whole.result = .broken reason) ∧
      (∀ program, alone.result = .ok program → hasEnd → whole.result = .ok program) ∧
      ∀ program later, alone.result = .ok program → noEnd → whole.result = .ok later →
        program.entries.toList <+: later.entries.toList ∧
          ∀ name address, program.labels.find? name = some address →
            later.labels.find? name = some address := by
  subst same
  refine ⟨fun _ failed => failed, fun _ broken => broken, fun _ succeeded _ => succeeded, ?_⟩
  intro program later succeeded _ succeededToo
  rw [succeeded] at succeededToo
  cases succeededToo
  exact ⟨List.prefix_rfl, fun _ _ bound => bound⟩

/-- Complete lines decide a source that starts with them: their failure is its
failure and their breakdown its breakdown, an end directive among them makes their program
its program, and otherwise their words and labels are the first ones of its program. -/
theorem assemble_append (assembler : Assembler) (first second : Bytes)
    (failure : Option Bytes) (ends : Source.EndsLine first) :
    (∀ fault, (assembler.assembleText first).result = .error fault →
        (assembler.assemble (Source.read (first ++ second) failure)).result = .error fault) ∧
      (∀ reason, (assembler.assembleText first).result = .broken reason →
        (assembler.assemble (Source.read (first ++ second) failure)).result = .broken reason) ∧
      (∀ program, (assembler.assembleText first).result = .ok program →
        (∃ line ∈ Source.linesOf first, Line.isEnd line = true) →
        (assembler.assemble (Source.read (first ++ second) failure)).result = .ok program) ∧
      ∀ program later, (assembler.assembleText first).result = .ok program →
        (∀ line ∈ Source.linesOf first, Line.isEnd line = false) →
        (assembler.assemble (Source.read (first ++ second) failure)).result = .ok later →
        program.entries.toList <+: later.entries.toList ∧
          ∀ name address, program.labels.find? name = some address →
            later.labels.find? name = some address := by
  rcases Source.read_append ends with ⟨lines, tooLong⟩ | passed
  · -- a line that is too long ends both sources at the same place
    apply decided_of_eq
    have alone := tooLong none []
    rw [List.append_nil] at alone
    rw [assembleText, alone, tooLong]
  · have alone := assembleText_of_lines assembler passed
    by_cases through : (assembler.begin.over (Source.linesOf first)).2 = .proceed
    · -- nothing has stopped the run, so there is no failure, breakdown or end directive
      rw [alone, Progress.settle_of_fine (by rw [through]; rfl)]
      refine ⟨fun _ failed => (by cases failed), fun _ broken => (by cases broken), ?_, ?_⟩
      · rintro _ _ ⟨line, member, isEnd⟩
        rw [Progress.over_proceed_noEnd through line member] at isEnd
        contradiction
      · intro program later succeeded _ succeededToo
        have kept := Progress.over_extends (assembler.begin.over (Source.linesOf first)).1
          ((Source.read second failure).lines ++ (Source.read second failure).tail.toList)
        rw [← Progress.over_append_of_proceed through, ← List.append_assoc] at kept
        cases succeeded
        rw [assemble_program succeededToo, assemble_assembler, passed]
        exact ⟨kept.entries, kept.labels⟩
    · apply decided_of_eq
      have whole := Progress.over_append_of_stopped through (Source.read second failure).lines
      rw [alone, passed, assemble_of_stopped (by rw [whole]; exact through), whole]

/-- Behind an end directive neither bad lines nor a failing input are noticed, behind a
bad line neither is, and behind other lines their words stay. -/
theorem assemble_append_settled :
    let finished := Bytes.ofString "X, BUN X\nEND\n"
    let failed := Bytes.ofString "CLA\nLDA X\n"
    let second := Bytes.ofString "X, X, X\n"
    let passed := Bytes.ofString "X, BUN X\n"
    let third := Bytes.ofString "ORG 0\nLDA X"
    (Source.EndsLine finished ∧ Source.EndsLine failed ∧ Source.EndsLine passed) ∧
      (∃ program, (assembleText {} finished).result = .ok program ∧
        (assemble {} (Source.read (finished ++ second) (some [0x3F]))).result = .ok program) ∧
      (∃ fault, (assembleText {} failed).result = .error fault ∧
        (assemble {} (Source.read (failed ++ second) (some [0x3F]))).result = .error fault) ∧
      ∃ program later, (assembleText {} passed).result = .ok program ∧
        (assemble {} (Source.read (passed ++ third) none)).result = .ok later ∧
        program.entries.toList <+: later.entries.toList := by
  intro finished failed second passed third
  have finishedEnds : Source.EndsLine finished := .inr (by decide)
  have failedEnds : Source.EndsLine failed := .inr (by decide)
  have passedEnds : Source.EndsLine passed := .inr (by decide)
  refine ⟨⟨finishedEnds, failedEnds, passedEnds⟩, ⟨_, rfl, ?_⟩, ⟨_, rfl, ?_⟩, _, _, rfl, rfl, ?_⟩
  · exact (assemble_append {} finished second (some [0x3F]) finishedEnds).2.2.1 _ rfl
      ⟨Bytes.ofString "END", by decide, by decide⟩
  · exact (assemble_append {} failed second (some [0x3F]) failedEnds).1 _ rfl
  · exact ((assemble_append {} passed third none passedEnds).2.2.2 _ _ rfl (by decide) rfl).1

end BasicComputer.Assembler
