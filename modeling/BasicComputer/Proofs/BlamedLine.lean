import BasicComputer.Proofs.FailedLine
import BasicComputer.Proofs.LineCauses

/-!
Contract: which line a failure is blamed on.

A failure carries the number of the last line that was read. That is the line to blame if
a line failed. A line that is too long is never read, so it is blamed on the line before
it, or on line 0 if there is none.

Owns:
- the two ways in which a text fails (`assembleText_failure_cases`), and which of them
  blame the right line.
-/

namespace BasicComputer

open Text

namespace Assembler

theorem Progress.over_ne_lineTooLong (progress : Progress) (lines : List Bytes) :
    (progress.over lines).2 ≠ .failed (.plain .lineTooLong) := by
  intro failed
  have stopped : (progress.over lines).2 ≠ .proceed := by simp [failed]
  obtain ⟨before, text, stopsAt⟩ := Progress.exists_stopsAt stopped
  exact (stopsAt.move failed).ne_lineTooLong rfl

/-! ### Blame -/

/-- The line that a failure names is to blame: the lines up to it fail with the same number
and the same cause. -/
def BlamesRightly (assembler : Assembler) (text : Bytes) (failure : Failure) : Prop :=
  1 ≤ failure.number ∧
    ∃ line, (assembler.assembleText (Source.firstLines failure.number text)).result =
      .error ⟨failure.number, line, failure.cause⟩

theorem assembleText_firstLines_of_delivered (assembler : Assembler) {text : Bytes} {count : Nat}
    (below : count ≤ (Source.delivered text).length) :
    assembler.assembleText (Source.firstLines count text) =
      Progress.settle .complete (assembler.begin.over ((Source.delivered text).take count)) := by
  obtain ⟨short, lines⟩ := Source.read_firstLines below
  rw [assembleText_of_short assembler short, lines]

/-- A text fails at a line that is read, or behind the last one, which is then followed by a
line that is too long. -/
theorem assembleText_failure_cases {assembler : Assembler} {text : Bytes} {failure : Failure}
    (failed : (assembler.assembleText text).result = .error failure) :
    (assembler.begin.over (Source.delivered text)).2 = .failed failure.cause ∨
      (assembler.begin.over (Source.delivered text)).2 = .proceed ∧
        failure.cause = .plain .lineTooLong ∧
        ¬ ∀ line ∈ Source.rawLines text, line.length < Source.lineLimit := by
  rw [assembleText, assemble_eq_settle, Source.texts_read] at failed
  obtain ⟨_, _, atLine | ⟨fine, atEnd⟩⟩ := Progress.settle_error failed
  · exact .inl atLine
  · right
    by_cases short : ∀ line ∈ Source.rawLines text, line.length < Source.lineLimit
    · have complete := (Source.read_ending_complete_iff text).2 short
      rw [noticedEnding, complete, ite_self] at atEnd
      cases atEnd
    · rw [noticedEnding, Source.read_of_long short] at atEnd
      split at atEnd
      · cases atEnd
      · next notFinished =>
          refine ⟨?_, (Option.some.inj atEnd).symm, short⟩
          rcases Progress.over_of_fine fine with through | finished
          · exact through
          · exact absurd finished notFinished

/-- A failure at a line that is read is that of the lines up to it. -/
theorem assembleText_of_failed {assembler : Assembler} {text : Bytes} {failure : Failure}
    (failed : (assembler.assembleText text).result = .error failure)
    (atLine : (assembler.begin.over (Source.delivered text)).2 = .failed failure.cause) :
    1 ≤ failure.number ∧ (Source.linesOf text)[failure.number - 1]? = some failure.line ∧
      (assembler.assembleText (Source.firstLines failure.number text)).result =
        .error failure := by
  rw [assembleText, assemble_eq_settle, Source.texts_read] at failed
  obtain ⟨number, line, _⟩ := Progress.settle_error failed
  have stopped : (assembler.begin.over (Source.delivered text)).2 ≠ .proceed := by simp [atLine]
  obtain ⟨before, bad, stopsAt⟩ := Progress.exists_stopsAt stopped
  have numberEq : failure.number = before.length + 1 := by
    rw [number, stopsAt.number]
    simp [begin]
  obtain ⟨within, _⟩ := List.getElem?_eq_some_iff.1 stopsAt.getElem?
  rw [Progress.settle_of_failed atLine] at failed
  refine ⟨by omega, ?_, ?_⟩
  · obtain ⟨others, whole⟩ := Source.delivered_isPrefix text
    rw [← whole, numberEq, Nat.add_sub_cancel, List.getElem?_append_left within, stopsAt.getElem?,
      line, stopsAt.line]
  · rw [numberEq, assembleText_firstLines_of_delivered assembler within, stopsAt.over_take_succ,
      Progress.settle_of_failed atLine]
    exact failed

/-- A failure behind the last line read is that of a line too long, and not of the lines
before it. -/
theorem assembleText_of_long {assembler : Assembler} {text : Bytes} {failure : Failure}
    (failed : (assembler.assembleText text).result = .error failure)
    (through : (assembler.begin.over (Source.delivered text)).2 = .proceed)
    (long : ¬ ∀ line ∈ Source.rawLines text, line.length < Source.lineLimit) :
    failure.number = (Source.delivered text).length ∧
      (∃ line, (Source.rawLines text)[failure.number]? = some line ∧
        Source.lineLimit ≤ line.length) ∧
      (∃ program, (assembler.assembleText (Source.firstLines failure.number text)).result =
        .ok program) ∧
      (assembler.assembleText (Source.firstLines (failure.number + 1) text)).result =
        .error failure := by
  have number : failure.number = (Source.delivered text).length := by
    rw [assembleText, assemble_eq_settle, Source.texts_read] at failed
    rw [(Progress.settle_error failed).1, Progress.over_number through]
    simp [begin]
  refine ⟨number, ?_, ?_, ?_⟩
  · obtain ⟨before, line, after, lines, tooLong, _, delivered⟩ := Source.exists_long_line long
    refine ⟨line, ?_, tooLong⟩
    rw [number, delivered, lines]
    simp
  · rw [assembleText_firstLines_of_delivered assembler (Nat.le_of_eq number), number,
      List.take_length, Progress.settle_of_fine (by rw [through]; rfl)]
    exact ⟨_, rfl⟩
  · rw [number, assembleText, Source.read_firstLines_of_long long]
    exact failed

/-- A failure blames the right line if and only if it is not that a line is too long. It is
then the failure of the lines up to that line, with the same text too. A line that is too
long is blamed on the line before it: the lines up to that one are assembled, and only with
the next line, which is the one too long, there is this failure. -/
theorem blamesRightly_iff (assembler : Assembler) (text : Bytes) (failure : Failure)
    (failed : (assembler.assembleText text).result = .error failure) :
    (assembler.BlamesRightly text failure ↔ failure.cause ≠ .plain .lineTooLong) ∧
      (failure.cause ≠ .plain .lineTooLong →
        (Source.linesOf text)[failure.number - 1]? = some failure.line ∧
        (assembler.assembleText (Source.firstLines failure.number text)).result =
          .error failure) ∧
      (failure.cause = .plain .lineTooLong →
        (∃ line, (Source.rawLines text)[failure.number]? = some line ∧
          Source.lineLimit ≤ line.length) ∧
        (∃ program, (assembler.assembleText (Source.firstLines failure.number text)).result =
          .ok program) ∧
        (assembler.assembleText (Source.firstLines (failure.number + 1) text)).result =
          .error failure) := by
  rcases assembleText_failure_cases failed with atLine | ⟨through, cause, long⟩
  · have notLong : failure.cause ≠ .plain .lineTooLong := by
      intro tooLong
      rw [tooLong] at atLine
      exact Progress.over_ne_lineTooLong _ _ atLine
    obtain ⟨positive, line, again⟩ := assembleText_of_failed failed atLine
    exact ⟨⟨fun _ => notLong, fun _ => ⟨positive, failure.line, again⟩⟩, fun _ => ⟨line, again⟩,
      fun tooLong => absurd tooLong notLong⟩
  · obtain ⟨_, line, ⟨program, succeeded⟩, again⟩ := assembleText_of_long failed through long
    refine ⟨⟨?_, fun notLong => absurd cause notLong⟩, fun notLong => absurd cause notLong,
      fun _ => ⟨line, ⟨program, succeeded⟩, again⟩⟩
    rintro ⟨_, line, alone⟩
    rw [succeeded] at alone
    cases alone

/-- A line of 65536 letters, which is too long. -/
def longLine : Bytes :=
  List.replicate 65536 0x41

theorem longLine_noFeed : 0x0A ∉ longLine :=
  fun feed => absurd (List.eq_of_mem_replicate feed) (by decide)

theorem longLine_long : Source.lineLimit ≤ longLine.length := by
  rw [longLine, List.length_replicate]
  decide

/-- A bad operand in front of a line that is too long. -/
theorem blamesRightly_iff_operand :
    let text := Program.rows [Bytes.ofString "CLA", Bytes.ofString "LDA Q"] ++ longLine
    let failure : Failure := ⟨2, Bytes.ofString "LDA Q", .labelMissing (Bytes.ofString "Q")⟩
    (assembleText {} text).result = .error failure ∧ BlamesRightly {} text failure := by
  intro text failure
  have failed : (assembleText {} text).result = .error failure := by
    rw [assembleText, Source.read_rows_of_long (by decide) longLine_noFeed longLine_long]
    rfl
  exact ⟨failed, (blamesRightly_iff {} text failure failed).1.2 (by decide)⟩

/-- A line that is too long is blamed on line 0 if it is the first one, and else on the line
before it, which is assembled when it stands alone. -/
theorem long_line_blamed_wrongly :
    let nowhere : Failure := ⟨0, [], .plain .lineTooLong⟩
    let text := Program.rows [Bytes.ofString "CLA"] ++ longLine
    let before : Failure := ⟨1, Bytes.ofString "CLA", .plain .lineTooLong⟩
    ((assembleText {} longLine).result = .error nowhere ∧ ¬ BlamesRightly {} longLine nowhere) ∧
      (assembleText {} text).result = .error before ∧ ¬ BlamesRightly {} text before := by
  intro nowhere text before
  refine ⟨⟨?_, ?_⟩, ?_, ?_⟩
  · rw [assembleText, show longLine = Program.rows [] ++ longLine from rfl,
      Source.read_rows_of_long (by decide) longLine_noFeed longLine_long]
    rfl
  · rintro ⟨positive, _⟩
    contradiction
  · rw [assembleText, Source.read_rows_of_long (by decide) longLine_noFeed longLine_long]
    rfl
  · rintro ⟨_, line, failed⟩
    have first : Source.firstLines 1 text = Program.rows [Bytes.ofString "CLA"] := rfl
    rw [first] at failed
    cases failed

end Assembler

end BasicComputer
