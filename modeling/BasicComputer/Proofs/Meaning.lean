import BasicComputer.Proofs.Consistency

/-!
Contract: what a source means, said without an assembler.

Owns:
- the lines that emit words, each with its number and its address (`placements`);
- the conditions under which a source has a program (`Accepted`), and the program
  that it has (`Means`);
- that the single pass agrees with both.

`Emits` stands between them: it goes through the placements with the labels bound so
far, as the pass does, but knows neither lines nor memory.
-/

namespace BasicComputer.Meaning

open Text

/-- A line that emits a word, at its place. -/
structure Placement where
  number : Nat
  address : Nat
  parts : LineParts
deriving DecidableEq, Repr

/-- The lines that count: those before the first end directive. -/
def statements (lines : List Bytes) : List Bytes :=
  lines.takeWhile fun text => !Line.isEnd text

/-- The lines that emit words, where the first line has a number and the cursor
stands at an address. An origin sets the cursor; a word takes it and moves it on. -/
def placementsFrom (number cursor : Nat) : List Bytes → List Placement
  | [] => []
  | text :: rest =>
      match Line.parse text with
      | .ok ⟨parts, .instruction⟩ =>
          ⟨number, cursor, parts⟩ :: placementsFrom (number + 1) (cursor + 1) rest
      | .ok ⟨_, .origin address⟩ => placementsFrom (number + 1) address rest
      | _ => placementsFrom (number + 1) cursor rest

def placements (lines : List Bytes) : List Placement :=
  placementsFrom 1 0 lines

/-- The labels that lines define. -/
def definedLabels (placed : List Placement) : List Bytes :=
  (placed.map fun placement => placement.parts.label).filter fun label => label ≠ []

/-- A table together with the labels of lines, bound to the addresses of the lines. -/
def scope (labels : Labels) (placed : List Placement) : Labels :=
  placed.foldl (fun labels placement =>
    labels.withLabel placement.parts.label placement.address) labels

/-- The conditions under which lines have a program. -/
structure Accepted (predefined : Labels) (lines : List Bytes) : Prop where
  readable : ∀ text ∈ lines, ∃ line, Line.parse text = .ok line
  fits : ∀ placement ∈ placements lines, placement.address < memorySize
  distinct : (definedLabels (placements lines)).Nodup
  fresh : ∀ label ∈ definedLabels (placements lines), predefined.find? label = none
  /-- A body is encoded under the labels of its own line and of earlier ones. -/
  encodes : ∀ index placement, (placements lines)[index]? = some placement →
    ∃ word, Body.encode (scope predefined ((placements lines).take (index + 1)))
      placement.parts.body = .ok word

/-- The program of placements. -/
structure Means (predefined : Labels) (placed : List Placement) (program : Program) : Prop where
  count : program.entries.size = placed.length
  entry : ∀ index placement, placed[index]? = some placement →
    ∃ word, Body.encode (scope predefined (placed.take (index + 1)))
        placement.parts.body = .ok word ∧
      program.entries[index]? =
        some ⟨placement.number, UInt16.ofNat placement.address, fields placement.parts.body, word⟩
  labels : program.labels = scope predefined placed
  bindings : ∀ name address, program.labels.find? name = some address ↔
    predefined.find? name = some address ∨
      ∃ placement ∈ placed, name ≠ [] ∧ placement.parts.label = name ∧
        UInt16.ofNat placement.address = address
  memory : program.memory.Records program.entries.toList

/-! ### The pass over placements -/

/-- Going through placements with the labels bound so far gives entries. -/
inductive Emits : Labels → List Placement → List Entry → Prop where
  | nil (labels : Labels) : Emits labels [] []
  | cons {labels : Labels} {placement : Placement} {word : Word} {placed : List Placement}
      {entries : List Entry}
      (accepts : labels.Accepts placement.parts.label)
      (fits : placement.address < memorySize)
      (encoded : Body.encode (labels.withLabel placement.parts.label placement.address)
        placement.parts.body = .ok word)
      (later : Emits (labels.withLabel placement.parts.label placement.address) placed entries) :
      Emits labels (placement :: placed)
        (⟨placement.number, UInt16.ofNat placement.address, fields placement.parts.body, word⟩ ::
          entries)

theorem definedLabels_cons (placement : Placement) (placed : List Placement) :
    definedLabels (placement :: placed) =
      if placement.parts.label = [] then definedLabels placed
      else placement.parts.label :: definedLabels placed := by
  by_cases empty : placement.parts.label = [] <;> simp [definedLabels, empty]

/-- The labels ahead are fresh after a line if and only if they were fresh before it
and differ from its own label. -/
theorem fresh_cons_iff (labels : Labels) (placement : Placement) (placed : List Placement) :
    (labels.Accepts placement.parts.label ∧ (definedLabels placed).Nodup ∧
        ∀ label ∈ definedLabels placed,
          (labels.withLabel placement.parts.label placement.address).find? label = none) ↔
      (definedLabels (placement :: placed)).Nodup ∧
        ∀ label ∈ definedLabels (placement :: placed), labels.find? label = none := by
  rw [definedLabels_cons]
  by_cases empty : placement.parts.label = []
  · simp [empty, Labels.Accepts, Labels.withLabel]
  · simp only [empty, Labels.Accepts, Labels.find?_withLabel, ne_eq, not_false_eq_true,
      true_and, forall_const, ↓reduceIte, List.nodup_cons, List.mem_cons, forall_eq_or_imp]
    constructor
    · rintro ⟨free, nodup, fresh⟩
      have differs : placement.parts.label ∉ definedLabels placed := by
        intro member
        have unbound := fresh _ member
        simp at unbound
      refine ⟨⟨differs, nodup⟩, free, ?_⟩
      intro label member
      have other : label ≠ placement.parts.label := by
        rintro rfl
        exact differs member
      have unbound := fresh label member
      rwa [if_neg other] at unbound
    · rintro ⟨⟨differs, nodup⟩, free, fresh⟩
      refine ⟨free, nodup, ?_⟩
      intro label member
      have other : label ≠ placement.parts.label := by
        rintro rfl
        exact differs member
      rw [if_neg other]
      exact fresh label member

/-- The pass succeeds if and only if every address fits, the labels are distinct and
fresh, and every body is encoded under the labels up to its own. -/
theorem exists_emits_iff (labels : Labels) (placed : List Placement) :
    (∃ entries, Emits labels placed entries) ↔
      (∀ placement ∈ placed, placement.address < memorySize) ∧
        ((definedLabels placed).Nodup ∧
          ∀ label ∈ definedLabels placed, labels.find? label = none) ∧
        ∀ index placement, placed[index]? = some placement →
          ∃ word, Body.encode (scope labels (placed.take (index + 1))) placement.parts.body =
            .ok word := by
  induction placed generalizing labels with
  | nil =>
      constructor
      · intro _
        simp [definedLabels]
      · intro _
        exact ⟨[], .nil labels⟩
  | cons placement placed inductionHypothesis =>
      rw [← fresh_cons_iff]
      constructor
      · rintro ⟨_, emits⟩
        cases emits with
        | cons accepts fits encoded later =>
            obtain ⟨laterFits, ⟨nodup, fresh⟩, laterEncodes⟩ :=
              (inductionHypothesis _).1 ⟨_, later⟩
            refine ⟨by simpa [fits] using laterFits, ⟨accepts, nodup, fresh⟩, ?_⟩
            intro index other found
            cases index with
            | zero =>
                cases found
                exact ⟨_, encoded⟩
            | succ index => exact laterEncodes index other found
      · rintro ⟨fits, ⟨accepts, nodup, fresh⟩, encodes⟩
        obtain ⟨word, encoded⟩ := encodes 0 placement rfl
        obtain ⟨entries, later⟩ := (inductionHypothesis _).2
          ⟨fun other member => fits other (List.mem_cons_of_mem placement member),
            ⟨nodup, fresh⟩, fun index other found => encodes (index + 1) other found⟩
        exact ⟨_, .cons accepts (fits placement List.mem_cons_self) encoded later⟩

/-- There is one entry for each placement, in order. -/
theorem Emits.entry {labels : Labels} {placed : List Placement} {entries : List Entry}
    (emits : Emits labels placed entries) :
    entries.length = placed.length ∧
      ∀ index placement, placed[index]? = some placement →
        ∃ word, Body.encode (scope labels (placed.take (index + 1))) placement.parts.body =
            .ok word ∧
          entries[index]? = some ⟨placement.number, UInt16.ofNat placement.address,
            fields placement.parts.body, word⟩ := by
  induction emits with
  | nil labels => simp
  | @cons labels head word placed entries accepts fits encoded later inductionHypothesis =>
      refine ⟨by simp [inductionHypothesis.1], ?_⟩
      intro index placement found
      cases index with
      | zero =>
          cases found
          exact ⟨word, encoded, rfl⟩
      | succ index => exact inductionHypothesis.2 index placement found

/-- Nothing is bound but what was bound before and the labels of the lines. -/
theorem Emits.find?_scope {labels : Labels} {placed : List Placement} {entries : List Entry}
    (emits : Emits labels placed entries) (name : Bytes) (address : Word) :
    (scope labels placed).find? name = some address ↔
      labels.find? name = some address ∨
        ∃ placement ∈ placed, name ≠ [] ∧ placement.parts.label = name ∧
          UInt16.ofNat placement.address = address := by
  induction emits with
  | nil labels => simp [scope]
  | @cons labels head word placed entries accepts fits encoded later inductionHypothesis =>
      have one : (labels.withLabel head.parts.label head.address).find? name = some address ↔
          labels.find? name = some address ∨
            (name ≠ [] ∧ head.parts.label = name ∧ UInt16.ofNat head.address = address) := by
        rw [Labels.find?_withLabel]
        by_cases own : head.parts.label ≠ [] ∧ name = head.parts.label
        · obtain ⟨nonempty, rfl⟩ := own
          simp [nonempty, accepts nonempty]
        · rw [if_neg own]
          constructor
          · exact .inl
          · rintro (bound | ⟨nonempty, rfl, _⟩)
            · exact bound
            · exact absurd ⟨nonempty, rfl⟩ own
      change (scope (labels.withLabel head.parts.label head.address) placed).find? name = _ ↔ _
      rw [inductionHypothesis, one]
      simp only [List.mem_cons, exists_eq_or_imp, or_assoc]

/-! ### The pass over lines -/

open Assembler

/-- The placements of lines from the next line of a run on. -/
abbrev ahead (progress : Progress) (lines : List Bytes) : List Placement :=
  placementsFrom (progress.number + 1) progress.assembler.cursor lines

/-- A run through all lines has gone through their placements. -/
theorem over_emits {progress : Progress} {lines : List Bytes}
    (through : (progress.over lines).2 = .proceed) :
    (∀ text ∈ lines, ∃ line, Line.parse text = .ok line) ∧
      ∃ entries, Emits progress.assembler.labels (ahead progress lines) entries ∧
        (progress.over lines).1.assembler.entries.toList =
          progress.assembler.entries.toList ++ entries ∧
        (progress.over lines).1.assembler.labels =
          scope progress.assembler.labels (ahead progress lines) := by
  induction lines generalizing progress with
  | nil => exact ⟨by simp, [], .nil _, by simp [Progress.over], rfl⟩
  | cons text rest inductionHypothesis =>
      cases on : Progress.goesOn (progress.next text).2 with
      | false =>
          rw [Progress.over_cons_of_stops on] at through
          simp [through, Progress.goesOn] at on
      | true =>
          rw [Progress.over_cons_of_goesOn on] at through ⊢
          obtain ⟨readable, entries, emits, entriesEq, labelsEq⟩ := inductionHypothesis through
          have move := progress.next_move text
          unfold ahead at emits labelsEq ⊢
          rw [Progress.next_number] at emits labelsEq
          rw [entriesEq, labelsEq]
          generalize (progress.next text).1.assembler = reached at move emits ⊢
          generalize (progress.next text).2 = verdict at move on
          cases move with
          | unreadable parsed => simp [Progress.goesOn] at on
          | finish parsed => simp [Progress.goesOn] at on
          | duplicate parsed refused => simp [Progress.goesOn] at on
          | full parsed accepts above => simp [Progress.goesOn] at on
          | unencodable parsed accepts fits refused => simp [Progress.goesOn] at on
          | broken parsed accepts fits breaks => simp [Progress.goesOn] at on
          | nothing parsed =>
              simp only [placementsFrom, parsed]
              exact ⟨by simpa [parsed] using readable, entries, emits, rfl, trivial⟩
          | origin parsed =>
              simp only [placementsFrom, parsed]
              exact ⟨by simpa [parsed] using readable, entries, emits, rfl, trivial⟩
          | emitted parsed accepts fits encoded =>
              simp only [placementsFrom, parsed]
              refine ⟨by simpa [parsed] using readable, _,
                .cons accepts fits encoded emits, ?_, rfl⟩
              simp

/-- A line whose placement is accepted is passed, and the others lie ahead. -/
theorem next_of_emits {progress : Progress} {text : Bytes} {rest : List Bytes}
    {entries : List Entry} (readable : ∃ line, Line.parse text = .ok line)
    (notEnd : Line.isEnd text = false)
    (emits : Emits progress.assembler.labels (ahead progress (text :: rest)) entries) :
    Progress.goesOn (progress.next text).2 = true ∧
      ∃ later, Emits (progress.next text).1.assembler.labels
        (ahead (progress.next text).1 rest) later := by
  have move := progress.next_move text
  unfold ahead at emits ⊢
  rw [Progress.next_number]
  generalize (progress.next text).1.assembler = reached at move ⊢
  generalize (progress.next text).2 = verdict at move ⊢
  obtain ⟨line, read⟩ := readable
  cases move with
  | unreadable parsed => simp [parsed] at read
  | finish parsed => simp [Line.isEnd, parsed] at notEnd
  | nothing parsed =>
      simp only [placementsFrom, parsed] at emits
      exact ⟨rfl, entries, emits⟩
  | origin parsed =>
      simp only [placementsFrom, parsed] at emits
      exact ⟨rfl, entries, emits⟩
  | duplicate parsed refused =>
      simp only [placementsFrom, parsed] at emits
      cases emits with
      | cons accepts fits encoded later => exact absurd accepts refused
  | full parsed accepts above =>
      simp only [placementsFrom, parsed] at emits
      cases emits with
      | cons accepts fits encoded later => exact absurd fits (Nat.not_lt.2 above)
  | unencodable parsed accepts fits refused =>
      simp only [placementsFrom, parsed] at emits
      cases emits with
      | cons accepts fits encoded later => simp [encoded] at refused
  | broken parsed accepts fits breaks =>
      simp only [placementsFrom, parsed] at emits
      cases emits with
      | cons accepts fits encoded later => simp [encoded] at breaks
  | emitted parsed accepts fits encoded =>
      simp only [placementsFrom, parsed] at emits
      cases emits with
      | cons accepts fits encoded later => exact ⟨rfl, _, later⟩

/-- Lines whose placements are accepted are passed. -/
theorem over_of_emits {progress : Progress} {lines : List Bytes} {entries : List Entry}
    (readable : ∀ text ∈ lines, ∃ line, Line.parse text = .ok line)
    (noEnd : ∀ text ∈ lines, Line.isEnd text = false)
    (emits : Emits progress.assembler.labels (ahead progress lines) entries) :
    (progress.over lines).2 = .proceed := by
  induction lines generalizing progress entries with
  | nil => rfl
  | cons text rest inductionHypothesis =>
      obtain ⟨on, later, emitsLater⟩ := next_of_emits (readable text List.mem_cons_self)
        (noEnd text List.mem_cons_self) emits
      rw [Progress.over_cons_of_goesOn on]
      exact inductionHypothesis
        (fun other member => readable other (List.mem_cons_of_mem text member))
        (fun other member => noEnd other (List.mem_cons_of_mem text member)) emitsLater

/-! ### The whole source -/

theorem mem_statements_noEnd {lines : List Bytes} {text : Bytes}
    (member : text ∈ statements lines) : Line.isEnd text = false := by
  have holds := List.mem_takeWhile_imp member
  simpa using holds

/-- The lines behind the statements are none, or start with an end directive. -/
theorem statements_append (lines : List Bytes) :
    ∃ rest, lines = statements lines ++ rest ∧
      (rest = [] ∨ ∃ ending others, rest = ending :: others ∧ Line.isEnd ending = true) := by
  refine ⟨_, (List.takeWhile_append_dropWhile).symm, ?_⟩
  cases rest : lines.dropWhile fun text => !Line.isEnd text with
  | nil => exact .inl rfl
  | cons ending others =>
      have stops := List.head?_dropWhile_not (fun text => !Line.isEnd text) lines
      rw [rest] at stops
      exact .inr ⟨ending, others, rfl, by simpa using stops⟩

/-- Only the statements of a source decide whether it is accepted, and what it gives. -/
theorem over_statements (progress : Progress) (lines : List Bytes) :
    ((progress.over lines).2.isFine = true ↔
        (progress.over (statements lines)).2 = .proceed) ∧
      ((progress.over (statements lines)).2 = .proceed →
        (progress.over lines).1.assembler = (progress.over (statements lines)).1.assembler) := by
  obtain ⟨rest, split, shape⟩ := statements_append lines
  by_cases through : (progress.over (statements lines)).2 = .proceed
  · have whole := Progress.over_append_of_proceed through rest
    rw [← split] at whole
    rw [whole]
    generalize (progress.over (statements lines)).1 = reached
    rcases shape with rfl | ⟨ending, others, rfl, isEnd⟩
    · exact ⟨by simp [Progress.over, through, Verdict.isFine], fun _ => rfl⟩
    · have finished := (reached.next_finished_iff ending).2 isEnd
      have stops : Progress.goesOn (reached.next ending).2 = false := by rw [finished]; rfl
      rw [Progress.over_cons_of_stops stops]
      refine ⟨by simp [finished, through, Verdict.isFine], fun _ => ?_⟩
      have move := reached.next_move ending
      rw [finished] at move
      generalize (reached.next ending).1.assembler = last at move ⊢
      cases move with
      | finish parsed => rfl
  · have whole := Progress.over_append_of_stopped through rest
    rw [← split] at whole
    rw [whole]
    refine ⟨⟨fun fine => ?_, fun contrary => absurd contrary through⟩,
      fun contrary => absurd contrary through⟩
    rcases Progress.over_of_fine fine with on | finished
    · exact on
    · obtain ⟨text, member, isEnd⟩ := Progress.over_finished_end finished
      rw [mem_statements_noEnd member] at isEnd
      contradiction

/-- Statements are passed if and only if they have a program. -/
theorem begin_over_proceed_iff (assembler : Assembler) {lines : List Bytes}
    (noEnd : ∀ text ∈ lines, Line.isEnd text = false) :
    (assembler.begin.over lines).2 = .proceed ↔ Accepted assembler.predefined lines := by
  constructor
  · intro through
    obtain ⟨readable, entries, emits, _, _⟩ := over_emits through
    obtain ⟨fits, ⟨distinct, fresh⟩, encodes⟩ := (exists_emits_iff _ _).1 ⟨entries, emits⟩
    exact ⟨readable, fits, distinct, fresh, encodes⟩
  · intro accepted
    obtain ⟨entries, emits⟩ := (exists_emits_iff assembler.predefined (placements lines)).2
      ⟨accepted.fits, ⟨accepted.distinct, accepted.fresh⟩, accepted.encodes⟩
    exact over_of_emits accepted.readable noEnd emits

/-- The state after statements that are passed is what they mean. -/
theorem means_of_proceed {assembler : Assembler} {lines : List Bytes}
    (through : (assembler.begin.over lines).2 = .proceed) :
    Means assembler.predefined (placements lines)
      (assembler.begin.over lines).1.assembler.program := by
  obtain ⟨_, entries, emits, entriesEq, labelsEq⟩ := over_emits through
  have same : (assembler.begin.over lines).1.assembler.entries.toList = entries := by
    rw [entriesEq]
    rfl
  have scopeEq : (assembler.begin.over lines).1.assembler.labels =
      scope assembler.predefined (placements lines) := labelsEq
  obtain ⟨count, entry⟩ := emits.entry
  exact {
    count := by
      change (assembler.begin.over lines).1.assembler.entries.size = _
      rw [← Array.length_toList, same, count]
      rfl
    entry := by
      intro index placement found
      obtain ⟨word, encoded, atIndex⟩ := entry index placement found
      refine ⟨word, encoded, ?_⟩
      change (assembler.begin.over lines).1.assembler.entries[index]? = _
      rw [← Array.getElem?_toList, same, atIndex]
    labels := scopeEq
    bindings := by
      intro name address
      change (assembler.begin.over lines).1.assembler.labels.find? name = _ ↔ _
      rw [scopeEq]
      exact emits.find?_scope name address
    memory := (consistent_over assembler lines).records }

/-- A text is assembled if its lines are fine, and if all of them are short enough
or an end directive stands before the first one that is not. -/
theorem assembleText_ok_iff (assembler : Assembler) (text : Bytes) :
    (∃ program, (assembler.assembleText text).result = .ok program) ↔
      (assembler.begin.over (Source.delivered text)).2.isFine = true ∧
        ((∀ line ∈ Source.rawLines text, line.length < Source.lineLimit) ∨
          ∃ line ∈ Source.delivered text, Line.isEnd line = true) := by
  rw [assembleText, assemble_ok_iff, Source.texts_read, Source.read_ending_complete_iff]
  apply and_congr_right
  intro fine
  by_cases short : ∀ line ∈ Source.rawLines text, line.length < Source.lineLimit
  · exact ⟨fun _ => .inl short, fun _ => .inl short⟩
  · rw [Source.lines_read_of_long short, Progress.over_finished_iff fine]

/-- The single pass accepts exactly the sources that have a program, and gives it. Only
lines that are too long can come between, if no end directive stands before them. -/
theorem assembleText_meaning (assembler : Assembler) (text : Bytes) :
    ((∀ line ∈ Source.rawLines text, line.length < Source.lineLimit) →
        Source.delivered text = Source.linesOf text) ∧
      ((∃ program, (assembler.assembleText text).result = .ok program) ↔
        Accepted assembler.predefined (statements (Source.delivered text)) ∧
          ((∀ line ∈ Source.rawLines text, line.length < Source.lineLimit) ∨
            ∃ line ∈ Source.delivered text, Line.isEnd line = true)) ∧
      ∀ program, (assembler.assembleText text).result = .ok program →
        Means assembler.predefined (placements (statements (Source.delivered text))) program := by
  obtain ⟨decided, kept⟩ := over_statements assembler.begin (Source.delivered text)
  refine ⟨Source.delivered_of_short, ?_, ?_⟩
  · rw [assembleText_ok_iff, decided,
      begin_over_proceed_iff assembler fun _ member => mem_statements_noEnd member]
  · intro program succeeded
    have through := decided.1 ((assembleText_ok_iff assembler text).1 ⟨program, succeeded⟩).1
    rw [assemble_program succeeded, assemble_assembler, Source.texts_read, kept through]
    exact means_of_proceed through

/-- A label is used on its own line and after it, a predefined one before; what stands
behind the end directive does not count. -/
theorem assembleText_meaning_references :
    let assembler := ({} : Assembler).predefine (Bytes.ofString "P") 5
    let text := Bytes.ofString "LDA P\nX, BUN X I\nORG 0\nHEX X\nBSA X\nEND\nY, Y\n"
    (∀ line ∈ Source.rawLines text, line.length < Source.lineLimit) ∧
      Source.delivered text = Source.linesOf text ∧
      Accepted assembler.predefined (statements (Source.delivered text)) ∧
      ∃ program, (assembler.assembleText text).result = .ok program ∧
        Means assembler.predefined (placements (statements (Source.delivered text))) program := by
  intro assembler text
  have short : ∀ line ∈ Source.rawLines text, line.length < Source.lineLimit := by decide
  obtain ⟨lines, accepts, means⟩ := assembleText_meaning assembler text
  exact ⟨short, lines short, (accepts.1 ⟨_, rfl⟩).1, _, rfl, means _ rfl⟩

end BasicComputer.Meaning
