import BasicComputer.Assembly.Tracing
import BasicComputer.Proofs.Consistency
import Mathlib.Data.List.Infix
import Mathlib.Data.List.TakeDrop

/-!
Contract: watching an assembler changes nothing but what watching leaves behind.

Owns:
- a watched run as the run itself (`Tracing.assemble_eq`), line by line, what its hook has
  been told, and sessions of watched calls;
- the events of a run, read off its lines and its entries (`events_eq_account`), and
  what the log holds of them.
-/

namespace BasicComputer

open Text

/-! ### Watched runs -/

namespace Tracing

open Assembler (Progress Run)

variable {State : Type} (tracing : Tracing State)

/-- Logs events one after the other. -/
def noteAll (events : List Event) (trail : Trail State) : Trail State :=
  events.foldl (fun trail event => tracing.note event trail) trail

theorem noteAll_append (first second : List Event) (trail : Trail State) :
    tracing.noteAll (first ++ second) trail =
      tracing.noteAll second (tracing.noteAll first trail) :=
  List.foldl_append

theorem log_note (event : Event) (trail : Trail State) :
    (tracing.note event trail).log.toList =
      trail.log.toList ++ if tracing.verbose then [event.text] else [] := by
  unfold note
  split <;> simp

theorem log_noteAll (events : List Event) (trail : Trail State) :
    (tracing.noteAll events trail).log.toList =
      trail.log.toList ++ if tracing.verbose then events.map Event.text else [] := by
  induction events generalizing trail with
  | nil => simp [noteAll]
  | cons event rest inductionHypothesis =>
      have step : tracing.noteAll (event :: rest) trail =
        tracing.noteAll rest (tracing.note event trail) := rfl
      rw [step, inductionHypothesis, log_note, List.append_assoc]
      split <;> rfl

theorem kept_noteAll (events : List Event) (trail : Trail State) :
    (tracing.noteAll events trail).kept = trail.kept := by
  induction events generalizing trail with
  | nil => rfl
  | cons event rest inductionHypothesis =>
      have step : tracing.noteAll (event :: rest) trail =
        tracing.noteAll rest (tracing.note event trail) := rfl
      rw [step, inductionHypothesis, note]
      split <;> rfl

theorem log_tell (failure : Failure) (trail : Trail State) :
    (tracing.tell failure trail).log = trail.log := by
  unfold tell
  split <;> rfl

/-- A trail that holds the events of a run so far holds those of the next line after it. -/
theorem next_eq (start : Trail State) (progress : Progress) (text : Bytes) :
    tracing.next (tracing.noteAll progress.events.reverse start) progress text =
      (tracing.noteAll (progress.next text).1.events.reverse start, progress.next text) := by
  rw [Progress.next_events_reverse, noteAll_append, next]
  generalize tracing.noteAll progress.events.reverse start = trail
  rcases progress.next text with ⟨reached, verdict⟩
  cases verdict <;> rfl

/-- A watched run over lines is the run, and its trail holds the events of the run. -/
theorem overLines_eq (start : Trail State) (progress : Progress) (lines : List Bytes) :
    tracing.overLines (tracing.noteAll progress.events.reverse start) progress lines =
      (tracing.noteAll (progress.over lines).1.events.reverse start, progress.over lines) := by
  induction lines generalizing progress with
  | nil => rfl
  | cons text rest inductionHypothesis =>
      rw [overLines, next_eq, Progress.over]
      rcases outcome : progress.next text with ⟨reached, verdict⟩
      cases verdict with
      | proceed => exact inductionHypothesis reached
      | emitted entry => exact inductionHypothesis reached
      | finished => rfl
      | failed cause => rfl
      | broken reason => rfl

/-- What a run leaves in a trail. -/
def after (run : Run) (trail : Trail State) : Trail State :=
  (tracing.conclude (tracing.noteAll run.events trail) run).1

theorem conclude_eq (run : Run) (trail : Trail State) :
    tracing.conclude (tracing.noteAll run.events trail) run = (tracing.after run trail, run) := by
  unfold after conclude
  cases run.result <;> rfl

/-- The hook is told a failure once. -/
theorem kept_after_of_error {run : Run} {failure : Failure} (failed : run.result = .error failure)
    {hook : Failure → State → State} (hooked : tracing.report = some hook) (trail : Trail State) :
    (tracing.after run trail).kept = hook failure trail.kept := by
  unfold after conclude tell
  simp only [failed, hooked, kept_noteAll]

/-- Without a failure the hook is told nothing. -/
theorem kept_after_of_no_error {run : Run} (fine : ∀ failure, run.result ≠ .error failure)
    (trail : Trail State) : (tracing.after run trail).kept = trail.kept := by
  rw [← tracing.kept_noteAll run.events trail, after, conclude]
  cases result : run.result with
  | error failure => exact absurd result (fine failure)
  | ok program => rfl
  | broken reason => rfl

theorem conclude_ending (progress : Progress) (ending : Ending) (trail : Trail State) :
    tracing.conclude (tracing.noteAll progress.events.reverse trail) (progress.conclude ending) =
      (tracing.after (progress.conclude ending) trail, progress.conclude ending) := by
  have events : (progress.conclude ending).events = progress.events.reverse := by
    cases ending <;> rfl
  rw [← events, conclude_eq]

/-- A watched run is the run. -/
theorem assemble_eq (trail : Trail State) (assembler : Assembler) (source : Source) :
    tracing.assemble trail assembler source =
      (tracing.after (assembler.assemble source) trail, assembler.assemble source) := by
  have read := tracing.overLines_eq trail { assembler := assembler.reset } source.lines
  have verdicts := Progress.over_verdict { assembler := assembler.reset } source.lines
  rw [show tracing.noteAll [].reverse trail = trail from rfl] at read
  simp only [assemble, Assembler.assemble, read]
  generalize Progress.over { assembler := assembler.reset } source.lines = outcome at verdicts ⊢
  obtain ⟨progress, verdict⟩ := outcome
  rcases verdicts with rfl | rfl | ⟨cause, rfl⟩ | ⟨reason, rfl⟩
  · cases source.tail with
    | none => exact tracing.conclude_ending progress source.ending trail
    | some text =>
        simp only [next_eq]
        rcases progress.next text with ⟨reached, verdict⟩
        cases verdict with
        | failed cause => exact tracing.conclude_eq (reached.fail cause) trail
        | broken reason => exact tracing.conclude_eq (reached.breakDown reason) trail
        | proceed => exact tracing.conclude_ending reached source.ending trail
        | emitted entry => exact tracing.conclude_ending reached source.ending trail
        | finished => exact tracing.conclude_ending reached source.ending trail
  · exact tracing.conclude_eq progress.succeed trail
  · exact tracing.conclude_eq (progress.fail cause) trail
  · exact tracing.conclude_eq (progress.breakDown reason) trail

end Tracing

/-! ### Events -/

namespace Event

/-- The events of a line: the line, and the word of the entry that has its number. -/
def ofLine (entries : List Entry) (number : Nat) (text : Bytes) : List Event :=
  .line number text ::
    match entries.find? (·.lineNumber == number) with
    | some entry => [.word entry.address.toNat entry.word (Line.split text).body]
    | none => []

/-- The events of the lines of a source, which are counted from 1. -/
def account (entries : List Entry) (lines : List Bytes) : List Event :=
  (lines.zipIdx 1).flatMap fun (text, number) => ofLine entries number text

theorem account_append (entries : List Entry) (lines : List Bytes) (text : Bytes) :
    account entries (lines ++ [text]) =
      account entries lines ++ ofLine entries (lines.length + 1) text := by
  simp [account, List.zipIdx_append, Nat.add_comm]

theorem ofLine_append_of_ne {entries new : List Entry} {number : Nat}
    (others : ∀ entry ∈ new, entry.lineNumber ≠ number) (text : Bytes) :
    ofLine (entries ++ new) number text = ofLine entries number text := by
  have missing : new.find? (·.lineNumber == number) = none := by
    simpa using others
  rw [ofLine, ofLine, List.find?_append, missing, Option.or_none]

/-- Entries of later lines do not change what is told of the earlier ones. -/
theorem account_append_entries {entries new : List Entry} {lines : List Bytes}
    (later : ∀ entry ∈ new, lines.length < entry.lineNumber) :
    account (entries ++ new) lines = account entries lines := by
  apply List.flatMap_congr
  rintro ⟨text, number⟩ member
  have inside := List.snd_lt_of_mem_zipIdx member
  apply ofLine_append_of_ne
  intro entry isNew
  have behind := later entry isNew
  show entry.lineNumber ≠ number
  simp only at inside
  omega

end Event

namespace Assembler

/-- The entries after a line are those before it and at most one with its number. -/
theorem Move.entries_eq {assembler reached : Assembler} {number : Nat} {text : Bytes}
    {verdict : Verdict} (move : Move assembler number text reached verdict) :
    ∃ new, reached.entries.toList = assembler.entries.toList ++ new ∧
      ∀ entry ∈ new, entry.lineNumber = number := by
  cases move with
  | emitted parsed accepts fits encoded => exact ⟨[_], Array.toList_push, by simp⟩
  | _ => exact ⟨[], by simp, by simp⟩

/-- What is told about a line can be read off the entries after it. -/
theorem Move.eventsOf_eq {assembler reached : Assembler} {number : Nat} {text : Bytes}
    {verdict : Verdict} (move : Move assembler number text reached verdict)
    (older : ∀ entry ∈ assembler.entries.toList, entry.lineNumber < number) :
    eventsOf number text verdict = Event.ofLine reached.entries.toList number text := by
  have missing : assembler.entries.toList.find? (·.lineNumber == number) = none := by
    rw [List.find?_eq_none]
    intro entry member
    have before := older entry member
    simp only [beq_iff_eq]
    omega
  unfold Event.ofLine
  cases move with
  | emitted parsed accepts fits encoded =>
      show _ = _ :: match (assembler.entries.push _).toList.find? _ with | some _ => _ | none => _
      rw [Array.toList_push, List.find?_append, missing]
      simp [eventsOf, (Line.parse_eq_ok_iff.1 parsed).1]
  | _ => simp [missing, eventsOf]

/-- A run that has read some lines has told what these lines and its entries say. -/
structure Progress.Told (read : List Bytes) (progress : Progress) : Prop where
  number : progress.number = read.length
  events : progress.events.reverse = Event.account progress.assembler.entries.toList read

theorem Progress.Told.next {read : List Bytes} {progress : Progress} (told : progress.Told read)
    (sound : progress.Sound) (text : Bytes) : (progress.next text).1.Told (read ++ [text]) where
  number := by
    rw [next_number, told.number, List.length_append, List.length_singleton]
  events := by
    have move := progress.next_move text
    obtain ⟨new, entries, fromLine⟩ := move.entries_eq
    have events := move.eventsOf_eq fun entry member => Nat.lt_succ_of_le (sound.read entry member)
    have kept : Event.account (progress.next text).1.assembler.entries.toList read =
        Event.account progress.assembler.entries.toList read := by
      rw [entries]
      apply Event.account_append_entries
      intro entry isNew
      rw [fromLine entry isNew, told.number]
      exact Nat.lt_succ_self _
    rw [next_events_reverse, Event.account_append, kept, told.events, events, told.number]

theorem Progress.Told.overLines {read : List Bytes} {progress : Progress}
    (told : progress.Told read) (sound : progress.Sound) (lines : List Bytes) :
    ∃ count, (progress.over lines).1.Told (read ++ lines.take count) := by
  induction lines generalizing read progress with
  | nil => exact ⟨0, by simpa [Progress.over] using told⟩
  | cons text rest inductionHypothesis =>
      have afterLine := told.next sound text
      cases on : goesOn (progress.next text).2 with
      | true =>
          rw [over_cons_of_goesOn on]
          obtain ⟨count, toldRest⟩ := inductionHypothesis afterLine (sound.next text)
          exact ⟨count + 1, by simpa using toldRest⟩
      | false =>
          rw [over_cons_of_stops on]
          exact ⟨1, by simpa using afterLine⟩

/-- A run tells of the lines it has read, and of no others. -/
theorem told_begin_over (assembler : Assembler) (lines : List Bytes) :
    (assembler.begin.over lines).1.Told
      (lines.take (assembler.begin.over lines).1.number) := by
  have start : assembler.begin.Told [] := ⟨rfl, rfl⟩
  obtain ⟨count, told⟩ := start.overLines (Progress.sound_begin assembler) lines
  rw [List.nil_append] at told
  have number := told.number
  rw [List.length_take] at number
  rw [number, ← List.take_eq_take_min]
  exact told

/-- The shortest beginning of lines that breaks down for a reason. -/
def brokenPart (assembler : Assembler) (reason : Bytes) (lines : List Bytes) : List Bytes :=
  (lines.inits.find? fun part => (assembler.begin.over part).2 == .broken reason).getD lines

theorem brokenPart_eq {assembler : Assembler} {reason : Bytes} {lines : List Bytes}
    (broken : (assembler.begin.over lines).2 = .broken reason) :
    assembler.brokenPart reason lines =
      lines.take (assembler.begin.over lines).1.number := by
  have stopped : (assembler.begin.over lines).2 ≠ .proceed := by simp [broken]
  obtain ⟨before, text, stopsAt⟩ := Progress.exists_stopsAt stopped
  have breaks : (assembler.begin.over (before ++ [text])).2 = .broken reason := by
    rw [← stopsAt.take_succ, stopsAt.over_take_succ, broken]
  -- what is shorter is passed
  have passed : ∀ part ∈ before.inits,
      ¬ ((assembler.begin.over part).2 == .broken reason) = true := by
    intro part member
    obtain ⟨others, rfl⟩ := (List.mem_inits part before).1 member
    have through := stopsAt.through
    have partThrough : (assembler.begin.over part).2 = .proceed := by
      by_contra partStopped
      rw [Progress.over_append_of_stopped partStopped] at through
      exact partStopped through
    simp [partThrough]
  have found : lines.inits.find?
      (fun part => (assembler.begin.over part).2 == .broken reason) = some (before ++ [text]) := by
    obtain ⟨rest, rfl⟩ := stopsAt.split
    rw [List.inits_append, List.find?_append, List.find?_eq_none.2 passed]
    cases rest <;> simp [breaks]
  have number : (assembler.begin.over lines).1.number = before.length + 1 := by
    rw [stopsAt.number]
    simp [begin]
  rw [brokenPart, found, number, Option.getD_some, stopsAt.take_succ]

/-- The lines that a run has scanned: those up to the one that fails or breaks down, or up to
the first end directive. -/
def Run.scanned (run : Run) (assembler : Assembler) (lines : List Bytes) : List Bytes :=
  match run.result with
  | .error failure => lines.take failure.number
  | .broken reason => assembler.brokenPart reason lines
  | .ok _ => lines.take (lines.findIdx Line.isEnd + 1)

theorem assemble_scanned (assembler : Assembler) (source : Source) :
    (assembler.assemble source).scanned assembler source.texts =
      source.texts.take (assembler.begin.over source.texts).1.number := by
  rw [Run.scanned]
  cases result : (assembler.assemble source).result with
  | error failure =>
      rw [assemble_eq_settle] at result
      show source.texts.take failure.number = _
      rw [(Progress.settle_error result).1]
  | broken reason =>
      rw [assemble_eq_settle, Progress.settle_broken_iff] at result
      exact brokenPart_eq result
  | ok program =>
      have fine := ((assemble_ok_iff assembler source).1 ⟨program, result⟩).1
      show source.texts.take (source.texts.findIdx Line.isEnd + 1) = _
      rcases Progress.over_of_fine fine with through | finished
      · have noEnd : source.texts.findIdx Line.isEnd = source.texts.length := by
          rw [List.findIdx_eq_length]
          exact Progress.over_proceed_noEnd through
        rw [Progress.over_number through, noEnd, List.take_of_length_le (Nat.le_succ _),
          List.take_of_length_le (Nat.le_add_left _ _)]
      · rw [Progress.over_finished_number finished]
        simp [begin]

/-- The events of a run tell of the lines it has scanned, each with its entry. -/
theorem events_eq_account (assembler : Assembler) (source : Source) :
    (assembler.assemble source).events =
      Event.account (assembler.assemble source).assembler.entries.toList
        ((assembler.assemble source).scanned assembler source.texts) := by
  have told := told_begin_over assembler source.texts
  rw [assemble_scanned, assemble_assembler, ← told.events, assemble_eq_settle]
  generalize assembler.noticedEnding source = ending
  generalize assembler.begin.over source.texts = outcome
  obtain ⟨progress, verdict⟩ := outcome
  cases verdict <;> cases ending <;> rfl

end Assembler

/-! ### The log -/

theorem Event.text_eq_fullText_iff (event : Event) :
    event.text = event.fullText ↔ event.fullText.length ≤ recordLimit - event.stampSize :=
  List.take_eq_self_iff _

theorem Event.map_text_eq_iff (events : List Event) :
    events.map Event.text = events.map Event.fullText ↔
      ∀ event ∈ events, event.fullText.length ≤ recordLimit - event.stampSize := by
  rw [List.map_inj_left]
  simp only [text_eq_fullText_iff]

namespace Tracing

variable {State : Type} (tracing : Tracing State)

theorem log_after (run : Assembler.Run) (trail : Trail State) :
    (tracing.after run trail).log.toList =
      trail.log.toList ++ if tracing.verbose then run.events.map Event.text else [] := by
  rw [← log_noteAll]
  unfold after conclude
  cases run.result with
  | ok program => rfl
  | broken reason => rfl
  | error failure => rw [log_tell]

theorem log_of_verbose (verbose : tracing.verbose = true) (trail : Trail State)
    (assembler : Assembler) (source : Source) :
    (tracing.after (assembler.assemble source) trail).log.toList =
      trail.log.toList ++
        (Event.account (assembler.assemble source).assembler.entries.toList
          ((assembler.assemble source).scanned assembler source.texts)).map Event.text := by
  rw [← Assembler.events_eq_account, log_after, if_pos verbose]

/-! ### Sessions -/

/-- What a caller sees after a call: what the call has come to, if it returns anything, and
the state that is not hidden. -/
structure Sight where
  returned : Option (Attempt Error Program)
  cursor : Nat
  entries : Array Entry
  labels : Labels

/-- A watched call. -/
def perform (trail : Trail State) (assembler : Assembler) :
    Assembler.Request → Trail State × Assembler × Option (Attempt Error Program)
  | .predefine name address => (trail, assembler.predefine name address, none)
  | .assemble source =>
      let (trail, run) := tracing.assemble trail assembler source
      (trail, run.assembler, some (run.result.mapError Failure.error))

/-- What a caller sees in a session, each call of which may be watched in its own way. -/
def sights (trail : Trail State) (assembler : Assembler) :
    List (Tracing State × Assembler.Request) → List Sight
  | [] => []
  | (tracing, request) :: rest =>
      let (trail, assembler, returned) := tracing.perform trail assembler request
      ⟨returned, assembler.cursor, assembler.entries, assembler.labels⟩ ::
        sights trail assembler rest

theorem perform_eq {Other : Type} (other : Tracing Other) (trail : Trail State)
    (otherTrail : Trail Other) (assembler : Assembler) (request : Assembler.Request) :
    (tracing.perform trail assembler request).2 =
      (other.perform otherTrail assembler request).2 := by
  cases request with
  | predefine name address => rfl
  | assemble source => simp only [perform, assemble_eq]

/-- Sessions with the same calls look the same. -/
theorem sights_eq {First Second : Type} {first : List (Tracing First × Assembler.Request)}
    {second : List (Tracing Second × Assembler.Request)}
    (same : first.map Prod.snd = second.map Prod.snd) (firstTrail : Trail First)
    (secondTrail : Trail Second) (assembler : Assembler) :
    sights firstTrail assembler first = sights secondTrail assembler second := by
  induction first generalizing second firstTrail secondTrail assembler with
  | nil =>
      rw [List.map_nil, List.nil_eq, List.map_eq_nil_iff] at same
      rw [same, sights, sights]
  | cons call rest inductionHypothesis =>
      cases second with
      | nil => simp at same
      | cons other others =>
          obtain ⟨request, restSame⟩ := List.cons.inj same
          obtain ⟨tracing, request⟩ := call
          obtain ⟨otherTracing, _⟩ := other
          cases request
          have step := tracing.perform_eq otherTracing firstTrail secondTrail assembler request
          rw [sights, sights]
          simp only [step]
          rw [inductionHypothesis restSame]

/-- Watching does not interfere: sessions with the same calls look the same, however their
calls are watched. The log of a verbose call tells of the lines that the call has scanned,
each followed by the word of its entry, as far as a record of the log has room; it tells
all of them in full exactly if each of them fits a record. -/
theorem watching_shows_only_in_trail {First Second : Type}
    {first : List (Tracing First × Assembler.Request)}
    {second : List (Tracing Second × Assembler.Request)}
    (same : first.map Prod.snd = second.map Prod.snd) (firstTrail : Trail First)
    (secondTrail : Trail Second) (assembler : Assembler) :
    sights firstTrail assembler first = sights secondTrail assembler second ∧
      ∀ (tracing : Tracing First) (source : Source), tracing.verbose = true →
        let (trail, run) := tracing.assemble firstTrail assembler source
        let events :=
          Event.account run.assembler.entries.toList (run.scanned assembler source.texts)
        trail.log.toList = firstTrail.log.toList ++ events.map Event.text ∧
          (trail.log.toList = firstTrail.log.toList ++ events.map Event.fullText ↔
            ∀ event ∈ events, event.fullText.length ≤ recordLimit - event.stampSize) := by
  refine ⟨sights_eq same firstTrail secondTrail assembler, ?_⟩
  intro tracing source verbose
  have log := tracing.log_of_verbose verbose firstTrail assembler source
  rw [assemble_eq]
  refine ⟨log, ?_⟩
  rw [log, List.append_cancel_left_eq, Event.map_text_eq_iff]

/-- A loud session that counts its failures looks like a silent one. -/
theorem watching_shows_only_in_trail_loud :
    let failing := Source.read (Bytes.ofString "X, CLA\nX, CLA\nEND\n") none
    let loud : Tracing Nat := { verbose := true, report := some fun _ count => count + 1 }
    let silent : Tracing Unit := {}
    let requests : List Assembler.Request := [.predefine (Bytes.ofString "P") 5, .assemble failing]
    sights { kept := 0 } {} (requests.map (loud, ·)) =
        sights { kept := () } {} (requests.map (silent, ·)) ∧
      (loud.assemble { kept := 0 } {} failing).1.log.toList =
        [Bytes.ofString "1: X, CLA", Bytes.ofString "000: 7800 CLA",
          Bytes.ofString "2: X, CLA"] := by
  intro failing loud silent requests
  have same : (requests.map (loud, ·)).map Prod.snd = (requests.map (silent, ·)).map Prod.snd := rfl
  have watched := watching_shows_only_in_trail same { kept := 0 } { kept := () } {}
  refine ⟨watched.1, (watched.2 loud failing rfl).1.trans ?_⟩
  decide +kernel

/-- A comment that with its number is one byte longer than a record has room for. -/
def longComment : Bytes :=
  0x2F :: 0x2F :: List.replicate 14948 0x78

theorem length_longComment : longComment.length = 14950 := by
  rw [longComment, List.length_cons, List.length_cons, List.length_replicate]

theorem texts_longComment :
    (Source.read (Program.rows [longComment]) none).texts = [longComment] := by
  have others : ∀ byte ∈ longComment, byte = 0x2F ∨ byte = 0x78 := by
    intro byte member
    simp only [longComment, List.mem_cons, List.mem_replicate] at member
    tauto
  have noFeed : ∀ line ∈ [longComment], 0x0A ∉ line := by
    intro line member feed
    rw [List.mem_singleton.1 member] at feed
    exact absurd (others _ feed) (by decide)
  have noReturn : ∀ line ∈ [longComment], 0x0D ∉ line := by
    intro line member carriage
    rw [List.mem_singleton.1 member] at carriage
    exact absurd (others _ carriage) (by decide)
  have short : ∀ line ∈ Source.rawLines (Program.rows [longComment]),
      line.length < Source.lineLimit := by
    rw [Source.rawLines_rows noFeed]
    intro line member
    rw [List.mem_singleton.1 member, length_longComment]
    decide
  rw [(Source.read_short short).1, Source.linesOf_rows noFeed noReturn]

/-- A line that does not fit a record is not logged in full. -/
theorem long_line_cut_in_log :
    let source := Source.read (Program.rows [longComment]) none
    let loud : Tracing Unit := { verbose := true }
    let (trail, run) := loud.assemble { kept := () } {} source
    trail.log.toList ≠
      (Event.account run.assembler.entries.toList (run.scanned {} source.texts)).map
        Event.fullText := by
  intro source loud
  have scanned : (Assembler.assemble {} source).scanned {} source.texts = [longComment] := by
    rw [Assembler.assemble_scanned, texts_longComment, Assembler.Progress.over_singleton]
    rfl
  have log := loud.log_of_verbose rfl { kept := () } {} source
  rw [assemble_eq]
  show _ ≠ (Event.account _ ((Assembler.assemble {} source).scanned {} source.texts)).map _
  rw [log, scanned]
  intro full
  have fits := (Event.map_text_eq_iff _).1 full (.line 1 longComment)
    (by simp [Event.account, Event.ofLine])
  have size : (Event.line 1 longComment).fullText.length = 14953 := by
    show (decimal 1 ++ Bytes.ofString ": " ++ longComment).length = 14953
    rw [List.length_append, length_longComment,
      show (decimal 1 ++ Bytes.ofString ": ").length = 3 by decide +kernel]
  rw [size] at fits
  exact absurd fits (by decide)

end Tracing

end BasicComputer
