import BasicComputer.Proofs.LineForm
import BasicComputer.Proofs.Run
import Mathlib.Data.List.Forall2

/-!
Contract: two runs of the assembler side by side.

A `Translation` says what becomes of names, of the words of a body, of label tables and
of causes of failure. Where the lines of one source are the translated lines of another,
the two runs stay in step.

Owns:
- when a line is the translation of another one (`Translation.Relates`);
- what one line keeps between two states (`step_related`), however the lines are numbered;
- what whole runs (`over_related`) and texts (`assembleText_related`) keep.

Does not own any particular translation but the identity.
-/

namespace BasicComputer

open Text

/-- A way to say the same in other words, as far as label tables notice. -/
structure Translation where
  label : Bytes → Bytes
  words : List Bytes → List Bytes
  table : Labels → Labels
  cause : Error → Error
  table_withLabel : ∀ labels name address,
    table (labels.withLabel name address) = (table labels).withLabel (label name) address
  accepts_iff : ∀ labels name, (table labels).Accepts (label name) ↔ labels.Accepts name
  cause_plain : ∀ kind, cause (.plain kind) = .plain kind

namespace Translation

/-- The translation that leaves everything as it is. -/
def identity : Translation where
  label := id
  words := id
  table := id
  cause := id
  table_withLabel := fun _ _ _ => rfl
  accepts_iff := fun _ _ => .rfl
  cause_plain := fun _ => rfl

/-- Whether the second of two lines is the translation of the first. -/
structure Relates (translation : Translation) (first second : Bytes) : Prop where
  label : (Line.split second).label = translation.label (Line.split first).label
  words : fields (Line.split second).body = translation.words (fields (Line.split first).body)
  directive : Line.directiveOf (Line.split second) = Line.directiveOf (Line.split first)
  encode : ∀ labels, Body.encode (translation.table labels) (Line.split second).body =
    (Body.encode labels (Line.split first).body).mapError translation.cause

/-- Whether the second of two entries is the translation of the first, where the numbers
of their lines are related in some way. -/
structure RelatesEntry (translation : Translation) (numbers : Nat → Nat → Prop)
    (first second : Entry) : Prop where
  lineNumber : numbers first.lineNumber second.lineNumber
  address : second.address = first.address
  words : second.words = translation.words first.words
  word : second.word = first.word

/-- An entry with its words translated. -/
def entry (translation : Translation) (entry : Entry) : Entry :=
  { entry with words := translation.words entry.words }

/-- Whether the second of two states is the translation of the first. -/
structure RelatesState (translation : Translation) (numbers : Nat → Nat → Prop)
    (first second : Assembler) : Prop where
  labels : second.labels = translation.table first.labels
  cursor : second.cursor = first.cursor
  memory : second.memory = first.memory
  entries : List.Forall₂ (translation.RelatesEntry numbers)
    first.entries.toList second.entries.toList

/-- Whether the second of two verdicts is the translation of the first. -/
inductive RelatesVerdict (translation : Translation) : Verdict → Verdict → Prop where
  | proceed : RelatesVerdict translation .proceed .proceed
  | emitted (first second : Entry) :
      RelatesVerdict translation (.emitted first) (.emitted second)
  | finished : RelatesVerdict translation .finished .finished
  | failed (cause : Error) :
      RelatesVerdict translation (.failed cause) (.failed (translation.cause cause))
  | broken (reason : Bytes) : RelatesVerdict translation (.broken reason) (.broken reason)

variable {translation : Translation}

theorem RelatesVerdict.goesOn {first second : Verdict}
    (related : translation.RelatesVerdict first second) :
    Assembler.Progress.goesOn second = Assembler.Progress.goesOn first := by
  cases related <;> rfl

theorem RelatesVerdict.isFine {first second : Verdict}
    (related : translation.RelatesVerdict first second) : second.isFine = first.isFine := by
  cases related <;> rfl

theorem RelatesVerdict.failed_plain (kind : ErrorKind) :
    translation.RelatesVerdict (.failed (.plain kind)) (.failed (.plain kind)) := by
  have related : translation.RelatesVerdict (.failed (.plain kind))
      (.failed (translation.cause (.plain kind))) := .failed _
  rwa [translation.cause_plain] at related

namespace Relates

variable {first second : Bytes}

theorem parse_ok (related : translation.Relates first second) {parts : LineParts}
    {directive : Directive} (parsed : Line.parse first = .ok ⟨parts, directive⟩) :
    Line.parse second = .ok ⟨Line.split second, directive⟩ := by
  obtain ⟨_, found⟩ := Line.parse_eq_ok_iff.1 parsed
  exact Line.parse_eq_ok_iff.2 ⟨rfl, related.directive.trans found⟩

theorem parse_error (related : translation.Relates first second) {cause : Error}
    (parsed : Line.parse first = .error cause) :
    Line.parse second = .error (translation.cause cause) := by
  obtain ⟨kind, rfl⟩ := Line.parse_error_plain parsed
  have refused := Line.parse_eq_error_iff.1 parsed
  rw [translation.cause_plain]
  exact Line.parse_eq_error_iff.2 (related.directive.trans refused)

end Relates

namespace RelatesState

variable {numbers : Nat → Nat → Prop} {first second : Assembler}

/-- Binding the labels of two lines keeps two states related. -/
theorem withLabel (related : translation.RelatesState numbers first second) (label : Bytes) :
    translation.RelatesState numbers
      { first with labels := first.labels.withLabel label first.cursor }
      { second with labels := second.labels.withLabel (translation.label label) second.cursor }
      where
  labels := by
    change second.labels.withLabel _ second.cursor = _
    rw [translation.table_withLabel, related.labels, related.cursor]
  cursor := related.cursor
  memory := related.memory
  entries := related.entries

/-- Storing words that are translations of each other keeps two states related. -/
theorem emitted (related : translation.RelatesState numbers first second) {entry other : Entry}
    (relatedEntry : translation.RelatesEntry numbers entry other) (word : Word)
    (fits : first.cursor < memorySize) (fitsOther : second.cursor < memorySize) :
    translation.RelatesState numbers
      { first with
        entries := first.entries.push entry
        cursor := first.cursor + 1
        memory := first.memory.set first.cursor word fits }
      { second with
        entries := second.entries.push other
        cursor := second.cursor + 1
        memory := second.memory.set second.cursor word fitsOther } where
  labels := related.labels
  cursor := congrArg (· + 1) related.cursor
  memory := by
    obtain ⟨_, sameCursor, sameMemory, _⟩ := related
    simp only [sameCursor, sameMemory]
  entries := by
    rw [Array.toList_push, Array.toList_push]
    exact List.rel_append related.entries (.cons relatedEntry .nil)

end RelatesState

/-- A line and its translation do the same to states that are translations of each other. -/
theorem step_related {numbers : Nat → Nat → Prop} {first second : Assembler}
    {text other : Bytes} {number otherNumber : Nat} (relatedLine : translation.Relates text other)
    (related : translation.RelatesState numbers first second)
    (relatedNumber : numbers number otherNumber) :
    translation.RelatesState numbers (first.step number text).1
        (second.step otherNumber other).1 ∧
      translation.RelatesVerdict (first.step number text).2
        (second.step otherNumber other).2 := by
  have move := first.step_move number text
  have sameTable : ∀ label, second.labels.withLabel (translation.label label) second.cursor =
      translation.table (first.labels.withLabel label first.cursor) :=
    fun label => (related.withLabel label).labels
  have sameAccepts : ∀ {parts directive}, Line.parse text = .ok ⟨parts, directive⟩ →
      (second.labels.Accepts (Line.split other).label ↔ first.labels.Accepts parts.label) := by
    intro parts directive parsed
    obtain ⟨rfl, _⟩ := Line.parse_eq_ok_iff.1 parsed
    rw [related.labels, relatedLine.label, translation.accepts_iff]
  have sameEncode : ∀ {parts directive}, Line.parse text = .ok ⟨parts, directive⟩ →
      Body.encode (second.labels.withLabel (Line.split other).label second.cursor)
          (Line.split other).body =
        (Body.encode (first.labels.withLabel parts.label first.cursor) parts.body).mapError
          translation.cause := by
    intro parts directive parsed
    obtain ⟨rfl, _⟩ := Line.parse_eq_ok_iff.1 parsed
    rw [relatedLine.label, sameTable, relatedLine.encode]
  generalize (first.step number text).1 = reached at move ⊢
  generalize (first.step number text).2 = verdict at move ⊢
  cases move with
  | unreadable parsed =>
      rw [(Assembler.Move.unreadable (relatedLine.parse_error parsed)).step_eq]
      exact ⟨related, .failed _⟩
  | nothing parsed =>
      rw [(Assembler.Move.nothing (relatedLine.parse_ok parsed)).step_eq]
      exact ⟨related, .proceed⟩
  | origin parsed =>
      rw [(Assembler.Move.origin (relatedLine.parse_ok parsed)).step_eq]
      exact ⟨⟨related.labels, rfl, related.memory, related.entries⟩, .proceed⟩
  | finish parsed =>
      rw [(Assembler.Move.finish (relatedLine.parse_ok parsed)).step_eq]
      exact ⟨related, .finished⟩
  | duplicate parsed refused =>
      have alsoRefused := mt (sameAccepts parsed).1 refused
      rw [(Assembler.Move.duplicate (relatedLine.parse_ok parsed) alsoRefused).step_eq]
      exact ⟨related, .failed_plain _⟩
  | @full parts parsed accepts above =>
      have alsoAccepts := (sameAccepts parsed).2 accepts
      rw [(Assembler.Move.full (relatedLine.parse_ok parsed) alsoAccepts
        (by rw [related.cursor]; exact above)).step_eq]
      obtain ⟨rfl, _⟩ := Line.parse_eq_ok_iff.1 parsed
      rw [relatedLine.label]
      exact ⟨related.withLabel _, .failed_plain _⟩
  | @unencodable parts cause parsed accepts fits refused =>
      have alsoAccepts := (sameAccepts parsed).2 accepts
      have alsoRefused := (sameEncode parsed).trans (congrArg _ refused)
      rw [(Assembler.Move.unencodable (relatedLine.parse_ok parsed) alsoAccepts
        (by rw [related.cursor]; exact fits) alsoRefused).step_eq]
      obtain ⟨rfl, _⟩ := Line.parse_eq_ok_iff.1 parsed
      rw [relatedLine.label]
      exact ⟨related.withLabel _, .failed cause⟩
  | @broken parts reason parsed accepts fits breaks =>
      have alsoAccepts := (sameAccepts parsed).2 accepts
      have alsoBreaks := (sameEncode parsed).trans (congrArg _ breaks)
      rw [(Assembler.Move.broken (relatedLine.parse_ok parsed) alsoAccepts
        (by rw [related.cursor]; exact fits) alsoBreaks).step_eq]
      obtain ⟨rfl, _⟩ := Line.parse_eq_ok_iff.1 parsed
      rw [relatedLine.label]
      exact ⟨related.withLabel _, .broken reason⟩
  | @emitted parts word parsed accepts fits encoded =>
      have alsoAccepts := (sameAccepts parsed).2 accepts
      have alsoEncoded := (sameEncode parsed).trans (congrArg _ encoded)
      have alsoFits : second.cursor < memorySize := by rw [related.cursor]; exact fits
      rw [(Assembler.Move.emitted (relatedLine.parse_ok parsed) alsoAccepts alsoFits
        alsoEncoded).step_eq]
      obtain ⟨rfl, _⟩ := Line.parse_eq_ok_iff.1 parsed
      rw [relatedLine.label]
      refine ⟨(related.withLabel _).emitted ?_ word fits alsoFits, .emitted _ _⟩
      exact ⟨relatedNumber, congrArg UInt16.ofNat related.cursor, relatedLine.words, rfl⟩

/-! ### Runs -/

open Assembler

theorem next_related {numbers : Nat → Nat → Prop} {first second : Progress}
    {text other : Bytes} (relatedLine : translation.Relates text other)
    (related : translation.RelatesState numbers first.assembler second.assembler)
    (relatedNumber : numbers (first.number + 1) (second.number + 1)) :
    translation.RelatesState numbers (first.next text).1.assembler
        (second.next other).1.assembler ∧
      translation.RelatesVerdict (first.next text).2 (second.next other).2 :=
  step_related relatedLine related relatedNumber

/-- Two runs over as many lines, where each line of the second is the translation of the
line of the first in its place. -/
theorem over_related {first second : Progress} {lines others : List Bytes}
    (relatedLines : List.Forall₂ translation.Relates lines others)
    (related : translation.RelatesState Eq first.assembler second.assembler)
    (sameNumber : second.number = first.number) :
    translation.RelatesState Eq (first.over lines).1.assembler (second.over others).1.assembler ∧
      (second.over others).1.number = (first.over lines).1.number ∧
      translation.RelatesVerdict (first.over lines).2 (second.over others).2 := by
  induction relatedLines generalizing first second with
  | nil => exact ⟨related, sameNumber, .proceed⟩
  | @cons text other lines others relatedLine relatedLater inductionHypothesis =>
      have sameNext : (second.next other).1.number = (first.next text).1.number := by
        rw [Progress.next_number, Progress.next_number, sameNumber]
      obtain ⟨relatedNext, relatedVerdict⟩ := next_related relatedLine related sameNext.symm
      cases on : Progress.goesOn (first.next text).2 with
      | true =>
          have otherOn := relatedVerdict.goesOn.trans on
          rw [Progress.over_cons_of_goesOn on, Progress.over_cons_of_goesOn otherOn]
          exact inductionHypothesis relatedNext sameNext
      | false =>
          have otherStops := relatedVerdict.goesOn.trans on
          rw [Progress.over_cons_of_stops on, Progress.over_cons_of_stops otherStops]
          exact ⟨relatedNext, sameNext, relatedVerdict⟩

theorem RelatesEntry.entry_eq {first second : Entry}
    (related : translation.RelatesEntry Eq first second) : translation.entry first = second := by
  obtain ⟨lineNumber, address, words, word⟩ := related
  obtain ⟨_, _, _, _⟩ := second
  cases lineNumber
  cases address
  cases words
  cases word
  rfl

theorem eq_map_entry {first second : List Entry}
    (related : List.Forall₂ (translation.RelatesEntry Eq) first second) :
    second = first.map translation.entry := by
  have equal : List.Forall₂ Eq (first.map translation.entry) second :=
    List.forall₂_map_left_iff.2 (related.imp fun _ _ relatedEntry => relatedEntry.entry_eq)
  rw [List.forall₂_eq_eq_eq] at equal
  exact equal.symm

/-- Whether the second of two results is the translation of the first: both are programs,
both are failures at lines of one number, or both are breakdowns for one reason. -/
inductive RelatesResult (translation : Translation) :
    Attempt Failure Program → Attempt Failure Program → Prop where
  | ok {first second : Program} (memory : second.memory = first.memory)
      (labels : second.labels = translation.table first.labels)
      (entries : second.entries.toList = first.entries.toList.map translation.entry) :
      RelatesResult translation (.ok first) (.ok second)
  | error {first second : Failure} (number : second.number = first.number)
      (cause : second.cause = translation.cause first.cause) :
      RelatesResult translation (.error first) (.error second)
  | broken (reason : Bytes) : RelatesResult translation (.broken reason) (.broken reason)

/-- A source and its translation are assembled alike. -/
theorem assembleText_related {first second : Assembler} {text other : Bytes}
    (predefined : second.predefined = translation.table first.predefined)
    (short : ∀ line ∈ Source.rawLines text, line.length < Source.lineLimit)
    (otherShort : ∀ line ∈ Source.rawLines other, line.length < Source.lineLimit)
    (relatedLines : List.Forall₂ translation.Relates (Source.linesOf text)
      (Source.linesOf other)) :
    translation.RelatesResult (first.assembleText text).result
      (second.assembleText other).result := by
  have start : translation.RelatesState Eq first.begin.assembler second.begin.assembler :=
    ⟨predefined, rfl, rfl, .nil⟩
  obtain ⟨related, sameNumber, relatedVerdict⟩ := over_related relatedLines start rfl
  rw [assembleText_of_short first short, assembleText_of_short second otherShort]
  generalize first.begin.over (Source.linesOf text) = outcome at *
  generalize second.begin.over (Source.linesOf other) = otherOutcome at *
  obtain ⟨progress, verdict⟩ := outcome
  obtain ⟨otherProgress, otherVerdict⟩ := otherOutcome
  cases relatedVerdict with
  | proceed => exact .ok related.memory related.labels (eq_map_entry related.entries)
  | emitted => exact .ok related.memory related.labels (eq_map_entry related.entries)
  | finished => exact .ok related.memory related.labels (eq_map_entry related.entries)
  | failed cause => exact .error sameNumber rfl
  | broken reason => exact .broken reason

end Translation

end BasicComputer
