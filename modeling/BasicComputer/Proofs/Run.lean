import BasicComputer.Proofs.LineStep
import BasicComputer.Proofs.SourceLines

/-!
Contract: runs of the assembler over the lines of a source.

Owns how a run over two stretches of lines is composed, the line where a run stops
(`Progress.StopsAt`), and `assemble` as a run over all lines of its source. Does not own
what a line does (`Proofs.LineStep`).
-/

namespace BasicComputer

namespace Attempt

variable {Cause Other Value Result : Type}

/-- An attempt with its failure told in another way. -/
def mapError (change : Cause → Other) : Attempt Cause Value → Attempt Other Value
  | .ok value => .ok value
  | .error cause => .error (change cause)
  | .broken reason => .broken reason

theorem mapError_bind (change : Cause → Other) (attempt : Attempt Cause Value)
    (next : Value → Attempt Cause Result) :
    (attempt >>= next).mapError change =
      attempt.mapError change >>= fun value => (next value).mapError change := by
  cases attempt <;> rfl

theorem mapError_pure (change : Cause → Other) (value : Value) :
    (pure value : Attempt Cause Value).mapError change = pure value := rfl

end Attempt

/-- Whether a line is the end directive. -/
def Line.isEnd (text : Bytes) : Bool :=
  match Line.parse text with
  | .ok ⟨_, .finish⟩ => true
  | _ => false

/-- Whether a line has neither failed nor broken down. -/
def Verdict.isFine : Verdict → Bool
  | .failed _ => false
  | .broken _ => false
  | _ => true

namespace Assembler

namespace Progress

@[simp] theorem next_number (progress : Progress) (text : Bytes) :
    (progress.next text).1.number = progress.number + 1 := rfl

@[simp] theorem next_line (progress : Progress) (text : Bytes) :
    (progress.next text).1.line = text := rfl

theorem next_events_reverse (progress : Progress) (text : Bytes) :
    (progress.next text).1.events.reverse =
      progress.events.reverse ++
        eventsOf (progress.number + 1) text (progress.next text).2 := by
  have events : (progress.next text).1.events =
      (eventsOf (progress.number + 1) text (progress.next text).2).reverse ++
        progress.events := rfl
  rw [events, List.reverse_append, List.reverse_reverse]

/-- Reading a line is a move with the number of the line. -/
theorem next_move (progress : Progress) (text : Bytes) :
    Move progress.assembler (progress.number + 1) text (progress.next text).1.assembler
      (progress.next text).2 :=
  step_move progress.assembler (progress.number + 1) text

/-- Whether reading goes on after a line. -/
def goesOn : Verdict → Bool
  | .proceed => true
  | .emitted _ => true
  | _ => false

theorem isFine_of_goesOn {verdict : Verdict} (on : goesOn verdict = true) :
    verdict.isFine = true := by
  cases verdict with
  | failed | broken => contradiction
  | _ => rfl

/-- Reading that stops at a line that is fine has met the end directive. -/
theorem eq_finished_of_stops {verdict : Verdict} (stops : goesOn verdict = false)
    (fine : verdict.isFine = true) : verdict = .finished := by
  cases verdict with
  | finished => rfl
  | _ => contradiction

theorem next_of_origin (progress : Progress) {text : Bytes} {parts : LineParts} {address : Nat}
    (parsed : Line.parse text = .ok ⟨parts, .origin address⟩) :
    goesOn (progress.next text).2 = true ∧
      (progress.next text).1.assembler = { progress.assembler with cursor := address } := by
  have move := progress.next_move text
  generalize (progress.next text).1.assembler = reached at move ⊢
  generalize (progress.next text).2 = verdict at move ⊢
  cases move <;> simp_all [goesOn]

/-- A line without a label, whose body has a word under the labels bound so far, stores
the word. -/
theorem next_of_instruction (progress : Progress) {text body : Bytes} {word : Word}
    (parsed : Line.parse text = .ok ⟨⟨[], body⟩, .instruction⟩)
    (encoded : Body.encode progress.assembler.labels body = .ok word)
    (fits : progress.assembler.cursor < memorySize) :
    goesOn (progress.next text).2 = true ∧
      (progress.next text).1.assembler =
        { progress.assembler with
          entries := progress.assembler.entries.push
            ⟨progress.number + 1, UInt16.ofNat progress.assembler.cursor, Text.fields body, word⟩
          cursor := progress.assembler.cursor + 1
          memory := progress.assembler.memory.set progress.assembler.cursor word fits } := by
  have move := progress.next_move text
  have unlabelled : ∀ address, progress.assembler.labels.withLabel [] address =
      progress.assembler.labels := fun _ => if_pos rfl
  generalize (progress.next text).1.assembler = reached at move ⊢
  generalize (progress.next text).2 = verdict at move ⊢
  cases move with
  | unreadable read => rw [parsed] at read; cases read
  | nothing read => rw [parsed] at read; cases read
  | origin read => rw [parsed] at read; cases read
  | finish read => rw [parsed] at read; cases read
  | duplicate read refused =>
      rw [parsed] at read
      cases read
      exact absurd (fun labelled => absurd rfl labelled) refused
  | full read accepts above => exact absurd fits (Nat.not_lt.2 above)
  | unencodable read accepts fits refused =>
      rw [parsed] at read
      cases read
      rw [unlabelled, encoded] at refused
      cases refused
  | broken read accepts fits breaks =>
      rw [parsed] at read
      cases read
      rw [unlabelled, encoded] at breaks
      cases breaks
  | emitted read accepts fits found =>
      rw [parsed] at read
      cases read
      rw [unlabelled, encoded] at found
      cases found
      exact ⟨rfl, by rw [unlabelled]⟩

theorem over_cons_of_goesOn {progress : Progress} {text : Bytes}
    (on : goesOn (progress.next text).2 = true) (rest : List Bytes) :
    progress.over (text :: rest) = (progress.next text).1.over rest := by
  rw [Progress.over]
  rcases outcome : progress.next text with ⟨reached, verdict⟩
  rw [outcome] at on
  cases verdict with
  | proceed => rfl
  | emitted entry => rfl
  | _ => contradiction

theorem over_cons_of_stops {progress : Progress} {text : Bytes}
    (stops : goesOn (progress.next text).2 = false) (rest : List Bytes) :
    progress.over (text :: rest) = progress.next text := by
  rw [Progress.over]
  rcases outcome : progress.next text with ⟨reached, verdict⟩
  rw [outcome] at stops
  cases verdict with
  | proceed => contradiction
  | emitted entry => contradiction
  | _ => rfl

theorem over_singleton (progress : Progress) (text : Bytes) :
    (progress.over [text]).1 = (progress.next text).1 := by
  cases on : goesOn (progress.next text).2 with
  | true =>
      rw [over_cons_of_goesOn on]
      rfl
  | false => rw [over_cons_of_stops on]

/-- Induction on a run: what holds at the start and is kept by every one of its lines
holds after them. -/
theorem over_induction_of_mem {motive : Progress → Prop} {lines : List Bytes}
    (kept : ∀ progress, ∀ text ∈ lines, motive progress → motive (progress.next text).1)
    {progress : Progress} (start : motive progress) : motive (progress.over lines).1 := by
  induction lines generalizing progress with
  | nil => exact start
  | cons text rest inductionHypothesis =>
      have afterLine := kept progress text List.mem_cons_self start
      cases on : goesOn (progress.next text).2 with
      | true =>
          rw [over_cons_of_goesOn on]
          apply inductionHypothesis _ afterLine
          intro reached later member
          exact kept reached later (List.mem_cons_of_mem text member)
      | false =>
          rw [over_cons_of_stops on]
          exact afterLine

/-- What holds at the start and is kept by every line holds after any lines. -/
theorem over_induction {motive : Progress → Prop}
    (kept : ∀ progress text, motive progress → motive (progress.next text).1)
    {progress : Progress} (start : motive progress) (lines : List Bytes) :
    motive (progress.over lines).1 :=
  over_induction_of_mem (fun reached text _ => kept reached text) start

/-- A run has gone through all lines, met the end directive, failed, or broken down. -/
theorem over_verdict (progress : Progress) (lines : List Bytes) :
    (progress.over lines).2 = .proceed ∨ (progress.over lines).2 = .finished ∨
      (∃ cause, (progress.over lines).2 = .failed cause) ∨
      ∃ reason, (progress.over lines).2 = .broken reason := by
  induction lines generalizing progress with
  | nil => exact .inl rfl
  | cons text rest inductionHypothesis =>
      cases on : goesOn (progress.next text).2 with
      | true =>
          rw [over_cons_of_goesOn on]
          exact inductionHypothesis _
      | false =>
          rw [over_cons_of_stops on]
          cases verdict : (progress.next text).2 with
          | proceed => exact .inl rfl
          | emitted entry => simp [verdict, goesOn] at on
          | finished => exact .inr (.inl rfl)
          | failed cause => exact .inr (.inr (.inl ⟨cause, rfl⟩))
          | broken reason => exact .inr (.inr (.inr ⟨reason, rfl⟩))

/-- A run that is fine has gone through all lines or met the end directive. -/
theorem over_of_fine {progress : Progress} {lines : List Bytes}
    (fine : (progress.over lines).2.isFine = true) :
    (progress.over lines).2 = .proceed ∨ (progress.over lines).2 = .finished := by
  rcases progress.over_verdict lines with through | finished | ⟨_, failed⟩ | ⟨_, broken⟩
  · exact .inl through
  · exact .inr finished
  · simp [failed, Verdict.isFine] at fine
  · simp [broken, Verdict.isFine] at fine

/-- A run over two stretches of lines, the first of which it goes through. -/
theorem over_append_of_proceed {progress : Progress} {first : List Bytes}
    (through : (progress.over first).2 = .proceed) (second : List Bytes) :
    progress.over (first ++ second) = (progress.over first).1.over second := by
  induction first generalizing progress with
  | nil => rfl
  | cons text rest inductionHypothesis =>
      cases on : goesOn (progress.next text).2 with
      | true =>
          rw [over_cons_of_goesOn on] at through ⊢
          rw [List.cons_append, over_cons_of_goesOn on]
          exact inductionHypothesis through
      | false =>
          rw [over_cons_of_stops on] at through
          rw [through] at on
          contradiction

/-- A run that stops in a stretch of lines does not see what follows it. -/
theorem over_append_of_stopped {progress : Progress} {first : List Bytes}
    (stopped : (progress.over first).2 ≠ .proceed) (second : List Bytes) :
    progress.over (first ++ second) = progress.over first := by
  induction first generalizing progress with
  | nil => exact absurd rfl stopped
  | cons text rest inductionHypothesis =>
      cases on : goesOn (progress.next text).2 with
      | true =>
          rw [List.cons_append, over_cons_of_goesOn on, over_cons_of_goesOn on]
          rw [over_cons_of_goesOn on] at stopped
          exact inductionHypothesis stopped
      | false => rw [List.cons_append, over_cons_of_stops on, over_cons_of_stops on]

theorem over_number {progress : Progress} {lines : List Bytes}
    (through : (progress.over lines).2 = .proceed) :
    (progress.over lines).1.number = progress.number + lines.length := by
  induction lines generalizing progress with
  | nil => rfl
  | cons text rest inductionHypothesis =>
      cases on : goesOn (progress.next text).2 with
      | true =>
          rw [over_cons_of_goesOn on] at through ⊢
          rw [inductionHypothesis through, next_number, List.length_cons]
          omega
      | false =>
          rw [over_cons_of_stops on] at through
          rw [through] at on
          contradiction

/-- A run goes through some of its lines and stops at the next one. -/
structure StopsAt (progress : Progress) (lines before : List Bytes) (text : Bytes) : Prop where
  split : ∃ after, lines = before ++ text :: after
  through : (progress.over before).2 = .proceed
  stops : goesOn ((progress.over before).1.next text).2 = false

theorem exists_stopsAt {progress : Progress} {lines : List Bytes}
    (stopped : (progress.over lines).2 ≠ .proceed) :
    ∃ before text, progress.StopsAt lines before text := by
  induction lines generalizing progress with
  | nil => exact absurd rfl stopped
  | cons text rest inductionHypothesis =>
      cases on : goesOn (progress.next text).2 with
      | true =>
          rw [over_cons_of_goesOn on] at stopped
          obtain ⟨before, last, ⟨after, split⟩, through, stops⟩ := inductionHypothesis stopped
          rw [← over_cons_of_goesOn on] at through stops
          exact ⟨text :: before, last, ⟨after, by rw [split, List.cons_append]⟩, through, stops⟩
      | false => exact ⟨[], text, ⟨rest, rfl⟩, rfl, on⟩

namespace StopsAt

variable {progress : Progress} {lines before : List Bytes} {text : Bytes}
  (stopsAt : progress.StopsAt lines before text)

include stopsAt

theorem over_eq : progress.over lines = (progress.over before).1.next text := by
  obtain ⟨after, rfl⟩ := stopsAt.split
  rw [over_append_of_proceed stopsAt.through, over_cons_of_stops stopsAt.stops]

theorem number : (progress.over lines).1.number = progress.number + before.length + 1 := by
  rw [stopsAt.over_eq, next_number, over_number stopsAt.through]

theorem line : (progress.over lines).1.line = text := by
  rw [stopsAt.over_eq, next_line]

/-- The last move of the run. -/
theorem move {verdict : Verdict} (outcome : (progress.over lines).2 = verdict) :
    Move (progress.over before).1.assembler ((progress.over before).1.number + 1) text
      (progress.over lines).1.assembler verdict := by
  have move := (progress.over before).1.next_move text
  rwa [← stopsAt.over_eq, outcome] at move

theorem getElem? : lines[before.length]? = some text := by
  obtain ⟨after, rfl⟩ := stopsAt.split
  simp

theorem take : lines.take before.length = before := by
  obtain ⟨after, rfl⟩ := stopsAt.split
  rw [List.take_left]

theorem take_succ : lines.take (before.length + 1) = before ++ [text] := by
  rw [List.take_add_one, stopsAt.take, stopsAt.getElem?, Option.toList_some]

/-- What stands behind the line where a run stops is not looked at. -/
theorem over_take_succ : progress.over (lines.take (before.length + 1)) = progress.over lines := by
  rw [stopsAt.take_succ, over_append_of_proceed stopsAt.through,
    over_cons_of_stops stopsAt.stops, stopsAt.over_eq]

end StopsAt

theorem next_finished_iff (progress : Progress) (text : Bytes) :
    (progress.next text).2 = .finished ↔ Line.isEnd text = true := by
  have move := progress.next_move text
  generalize (progress.next text).1.assembler = reached at move
  generalize (progress.next text).2 = verdict at move ⊢
  unfold Line.isEnd
  cases move <;> simp_all

theorem isEnd_of_goesOn {progress : Progress} {text : Bytes}
    (on : goesOn (progress.next text).2 = true) : Line.isEnd text = false := by
  rw [← Bool.not_eq_true, ← progress.next_finished_iff text]
  intro finished
  simp [finished, goesOn] at on

/-- A run that goes through all lines has met no end directive. -/
theorem over_proceed_noEnd {progress : Progress} {lines : List Bytes}
    (through : (progress.over lines).2 = .proceed) : ∀ text ∈ lines, Line.isEnd text = false := by
  induction lines generalizing progress with
  | nil => simp
  | cons head rest inductionHypothesis =>
      cases on : goesOn (progress.next head).2 with
      | true =>
          rw [over_cons_of_goesOn on] at through
          intro text member
          rcases List.mem_cons.1 member with rfl | later
          · exact isEnd_of_goesOn on
          · exact inductionHypothesis through text later
      | false =>
          rw [over_cons_of_stops on] at through
          simp [through, goesOn] at on

/-- A run that ends at an end directive has met one. -/
theorem over_finished_end {progress : Progress} {lines : List Bytes}
    (finished : (progress.over lines).2 = .finished) :
    ∃ text ∈ lines, Line.isEnd text = true := by
  induction lines generalizing progress with
  | nil => cases finished
  | cons head rest inductionHypothesis =>
      cases on : goesOn (progress.next head).2 with
      | true =>
          rw [over_cons_of_goesOn on] at finished
          obtain ⟨text, member, isEnd⟩ := inductionHypothesis finished
          exact ⟨text, List.mem_cons_of_mem head member, isEnd⟩
      | false =>
          rw [over_cons_of_stops on] at finished
          exact ⟨head, List.mem_cons_self, (progress.next_finished_iff head).1 finished⟩

/-- A run that ends at an end directive has read the lines up to the first one. -/
theorem over_finished_number {progress : Progress} {lines : List Bytes}
    (finished : (progress.over lines).2 = .finished) :
    (progress.over lines).1.number = progress.number + lines.findIdx Line.isEnd + 1 := by
  induction lines generalizing progress with
  | nil => cases finished
  | cons text rest inductionHypothesis =>
      cases on : goesOn (progress.next text).2 with
      | true =>
          rw [over_cons_of_goesOn on] at finished ⊢
          rw [inductionHypothesis finished, next_number, List.findIdx_cons, isEnd_of_goesOn on]
          simp only [cond_false]
          omega
      | false =>
          rw [over_cons_of_stops on] at finished ⊢
          rw [next_number, List.findIdx_cons, (progress.next_finished_iff text).1 finished]
          rfl

/-- Where all lines are fine, reading stops at an end directive if and only if there is one. -/
theorem over_finished_iff {progress : Progress} {lines : List Bytes}
    (fine : (progress.over lines).2.isFine = true) :
    (progress.over lines).2 = .finished ↔ ∃ text ∈ lines, Line.isEnd text = true := by
  constructor
  · exact over_finished_end
  · rintro ⟨text, member, isEnd⟩
    rcases over_of_fine fine with through | finished
    · rw [over_proceed_noEnd through text member] at isEnd
      contradiction
    · exact finished

/-- The end of a run over all lines of an input that ends in some way. -/
def settle (ending : Ending) : Progress × Verdict → Run
  | (progress, .failed cause) => progress.fail cause
  | (progress, .broken reason) => progress.breakDown reason
  | (progress, _) => progress.conclude ending

theorem settle_of_fine {outcome : Progress × Verdict} (fine : outcome.2.isFine = true)
    (ending : Ending) : settle ending outcome = outcome.1.conclude ending := by
  obtain ⟨progress, verdict⟩ := outcome
  cases verdict with
  | failed | broken => contradiction
  | _ => rfl

/-- A run that is not fine ends at its last line, however the input does. -/
theorem settle_of_not_fine {outcome : Progress × Verdict} (bad : outcome.2.isFine = false)
    (ending : Ending) : settle ending outcome = settle .complete outcome := by
  obtain ⟨progress, verdict⟩ := outcome
  cases verdict with
  | failed | broken => rfl
  | _ => contradiction

theorem settle_of_failed {outcome : Progress × Verdict} {cause : Error}
    (failed : outcome.2 = .failed cause) (ending : Ending) :
    settle ending outcome = outcome.1.fail cause := by
  obtain ⟨progress, verdict⟩ := outcome
  cases failed
  rfl

@[simp] theorem settle_assembler (ending : Ending) (outcome : Progress × Verdict) :
    (settle ending outcome).assembler = outcome.1.assembler := by
  obtain ⟨progress, verdict⟩ := outcome
  cases verdict <;> cases ending <;> rfl

theorem settle_program {ending : Ending} {outcome : Progress × Verdict} {program : Program}
    (succeeded : (settle ending outcome).result = .ok program) :
    program = outcome.1.assembler.program := by
  obtain ⟨progress, verdict⟩ := outcome
  cases verdict <;> cases ending <;> cases succeeded <;> rfl

/-- However a source ends, the failure names the last line read. -/
theorem settle_error {ending : Ending} {outcome : Progress × Verdict}
    {failure : Failure} (failed : (settle ending outcome).result = .error failure) :
    failure.number = outcome.1.number ∧ failure.line = outcome.1.line ∧
      (outcome.2 = .failed failure.cause ∨
        (outcome.2.isFine = true ∧ endingCause? ending = some failure.cause)) := by
  obtain ⟨progress, verdict⟩ := outcome
  cases verdict <;> cases ending <;> cases failed <;> simp [endingCause?, Verdict.isFine]

theorem settle_failure {outcome : Progress × Verdict} {failure : Failure}
    (failed : (settle .complete outcome).result = .error failure) :
    outcome.2 = .failed failure.cause ∧ failure.number = outcome.1.number ∧
      failure.line = outcome.1.line := by
  obtain ⟨progress, verdict⟩ := outcome
  cases verdict <;> cases failed
  exact ⟨rfl, rfl, rfl⟩

/-- A run breaks down where one of its lines does, and nowhere else. -/
theorem settle_broken_iff {ending : Ending} {outcome : Progress × Verdict} {reason : Bytes} :
    (settle ending outcome).result = .broken reason ↔ outcome.2 = .broken reason := by
  obtain ⟨progress, verdict⟩ := outcome
  cases verdict <;> cases ending <;>
    simp [settle, conclude, endingCause?, succeed, fail, breakDown]

theorem settle_ok_iff (ending : Ending) (outcome : Progress × Verdict) :
    (∃ program, (settle ending outcome).result = .ok program) ↔
      outcome.2.isFine = true ∧ ending = .complete := by
  obtain ⟨progress, verdict⟩ := outcome
  cases verdict <;> cases ending <;>
    simp [settle, conclude, endingCause?, succeed, fail, breakDown, Verdict.isFine]

/-- A single line read as a run of its own ends the same way. -/
theorem settle_over_singleton (ending : Ending) (progress : Progress) (text : Bytes) :
    settle ending (progress.over [text]) = settle ending (progress.next text) := by
  cases on : goesOn (progress.next text).2 with
  | false => rw [over_cons_of_stops on]
  | true =>
      rw [over_cons_of_goesOn on, settle_of_fine (isFine_of_goesOn on)]
      rfl

end Progress

/-- The state before the first line of a source. -/
def begin (assembler : Assembler) : Progress :=
  { assembler := assembler.reset }

/-- How a source ends as far as a run notices: an end directive on a complete line
hides it, but not on an unfinished one. -/
def noticedEnding (assembler : Assembler) (source : Source) : Ending :=
  if (assembler.begin.over source.lines).2 = .finished then .complete else source.ending

/-- Assembling is a run over all lines, the unfinished one included. -/
theorem assemble_eq_settle (assembler : Assembler) (source : Source) :
    assembler.assemble source =
      Progress.settle (assembler.noticedEnding source) (assembler.begin.over source.texts) := by
  have verdicts := Progress.over_verdict assembler.begin source.lines
  rcases outcome : assembler.begin.over source.lines with ⟨progress, verdict⟩
  have start : Progress.over { assembler := assembler.reset } source.lines =
      (progress, verdict) := outcome
  rw [outcome] at verdicts
  unfold assemble noticedEnding Source.texts
  rcases verdicts with rfl | rfl | ⟨cause, rfl⟩ | ⟨reason, rfl⟩
  · rw [Progress.over_append_of_proceed (by rw [outcome]), outcome, if_neg (by simp)]
    simp only [start]
    cases source.tail with
    | none => rfl
    | some text =>
        rw [Option.toList_some, Progress.settle_over_singleton]
        rfl
  · rw [Progress.over_append_of_stopped (by simp [outcome]), outcome, if_pos rfl]
    simp only [start]
    rfl
  · rw [Progress.over_append_of_stopped (by simp [outcome]), outcome]
    simp only [start]
    rfl
  · rw [Progress.over_append_of_stopped (by simp [outcome]), outcome]
    simp only [start]
    rfl

/-- Without a failure of the input, only the lines decide. -/
theorem assemble_of_complete {assembler : Assembler} {source : Source}
    (complete : source.ending = .complete) :
    assembler.assemble source =
      Progress.settle .complete (assembler.begin.over source.texts) := by
  rw [assemble_eq_settle, noticedEnding, complete, ite_self]

theorem assembleText_of_short (assembler : Assembler) {text : Bytes}
    (short : ∀ line ∈ Source.rawLines text, line.length < Source.lineLimit) :
    assembler.assembleText text =
      Progress.settle .complete (assembler.begin.over (Source.linesOf text)) := by
  obtain ⟨texts, complete⟩ := Source.read_short short
  rw [assembleText, assemble_of_complete complete, texts]

/-- Rows of text are assembled line by line. -/
theorem assembleText_rows (assembler : Assembler) {lines : List Bytes}
    (noFeed : ∀ line ∈ lines, 0x0A ∉ line) (noReturn : ∀ line ∈ lines, 0x0D ∉ line)
    (short : ∀ line ∈ lines, line.length < Source.lineLimit) :
    assembler.assembleText (Program.rows lines) =
      Progress.settle .complete (assembler.begin.over lines) := by
  have shortLines : ∀ line ∈ Source.rawLines (Program.rows lines),
      line.length < Source.lineLimit := by
    rw [Source.rawLines_rows noFeed]
    exact short
  rw [assembleText_of_short assembler shortLines, Source.linesOf_rows noFeed noReturn]

/-- A run that stops at a complete line looks at nothing behind it. -/
theorem assemble_of_stopped {assembler : Assembler} {source : Source}
    (stopped : (assembler.begin.over source.lines).2 ≠ .proceed) :
    assembler.assemble source =
      Progress.settle .complete (assembler.begin.over source.lines) := by
  rw [assemble_eq_settle, Source.texts, Progress.over_append_of_stopped stopped, noticedEnding]
  cases fine : (assembler.begin.over source.lines).2.isFine with
  | false => exact Progress.settle_of_not_fine fine _
  | true =>
      rcases Progress.over_of_fine fine with through | finished
      · exact absurd through stopped
      · rw [if_pos finished]

/-- A source has a program if all lines are fine and nothing is wrong behind them, or
an end directive on a complete line hides what is. -/
theorem assemble_ok_iff (assembler : Assembler) (source : Source) :
    (∃ program, (assembler.assemble source).result = .ok program) ↔
      (assembler.begin.over source.texts).2.isFine = true ∧
        (source.ending = .complete ∨ (assembler.begin.over source.lines).2 = .finished) := by
  rw [assemble_eq_settle, Progress.settle_ok_iff, noticedEnding]
  split
  · next finished => simp [finished]
  · next notFinished => simp [notFinished]

/-- However a source ends, the assembler is left as its lines leave it. -/
theorem assemble_assembler (assembler : Assembler) (source : Source) :
    (assembler.assemble source).assembler = (assembler.begin.over source.texts).1.assembler := by
  rw [assemble_eq_settle, Progress.settle_assembler]

/-- A program that is returned is what the assembler holds in the end. -/
theorem assemble_program {assembler : Assembler} {source : Source} {program : Program}
    (succeeded : (assembler.assemble source).result = .ok program) :
    program = (assembler.assemble source).assembler.program := by
  rw [assemble_assembler]
  rw [assemble_eq_settle] at succeeded
  exact Progress.settle_program succeeded

end Assembler

end BasicComputer
