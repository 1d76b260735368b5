import BasicComputer.Proofs.Consistency
import BasicComputer.Proofs.OnePass
import BasicComputer.Proofs.Operands
import BasicComputer.Proofs.Reassembly

/-!
Contract: a program can be assembled again from its entries.

`Program.rebuildSource` has an origin line and a line of words for each entry. The
entries were emitted one after the other under a table of labels that was still
growing; the lines are read under the final table.

Owns:
- where entries come from (`Entry.EmittedUnder`), after a line and after a run;
- that memory is what the entries store, in their order (`Memory.Records.eq_storeAll`);
- the run over the lines of entries (`over_entryLines`).
-/

namespace BasicComputer

open Text

namespace Entry

/-- What an entry says, the number of its line left out. -/
def content (entry : Entry) : Word × List Bytes × Word :=
  (entry.address, entry.words, entry.word)

/-- The line that has the words of an entry. -/
def wordsLine (entry : Entry) : Bytes :=
  Bytes.join [0x20] entry.words

/-- The lines that emit an entry again. -/
def sourceLines (entry : Entry) : List Bytes :=
  [originLine (upperHex 3 entry.address.toNat), entry.wordsLine]

/-- The word that an entry stores, at its address. -/
def cell (entry : Entry) : Nat × Word :=
  (entry.address.toNat, entry.word)

/-- What an entry says is enough to know what it stores. -/
theorem map_cell (entries : List Entry) :
    entries.map cell =
      (entries.map content).map fun content => (content.1.toNat, content.2.2) := by
  rw [List.map_map]
  rfl

end Entry

namespace Program

/-- What the entries of a program say, in source order. -/
def contents (program : Program) : List (Word × List Bytes × Word) :=
  program.entries.toList.map Entry.content

/-- The source made of the entries of a program. -/
def rebuildSource (program : Program) : Bytes :=
  rows (program.entries.toList.flatMap Entry.sourceLines)

end Program

/-! ### What entries store -/

namespace Memory

/-- Entries leave no choice about the memory that records them. -/
theorem Records.unique {left right : Memory} {entries : List Entry}
    (leftRecords : left.Records entries) (rightRecords : right.Records entries) :
    left = right := by
  apply Vector.ext
  intro address inside
  by_cases occurs : ∃ entry ∈ entries, entry.address.toNat = address
  · obtain ⟨entry, last⟩ := Entry.exists_lastAt occurs
    rw [leftRecords.last address inside entry last, rightRecords.last address inside entry last]
  · have none : ∀ entry ∈ entries, entry.address.toNat ≠ address :=
      fun entry member same => occurs ⟨entry, member, same⟩
    rw [leftRecords.untouched address inside none, rightRecords.untouched address inside none]

/-- Storing the words of further entries keeps memory and entries in step. -/
theorem Records.storeAll {memory : Memory} {before after : List Entry}
    (records : memory.Records before)
    (inside : ∀ entry ∈ after, entry.address.toNat < memorySize) :
    Memory.Records (memory.storeAll (after.map Entry.cell)) (before ++ after) := by
  induction after generalizing memory before with
  | nil =>
      rw [List.append_nil]
      exact records
  | cons entry rest inductionHypothesis =>
      have stored := records.store (inside entry List.mem_cons_self) rfl
      have later := inductionHypothesis stored fun other member =>
        inside other (List.mem_cons_of_mem entry member)
      rw [List.append_assoc, List.singleton_append, set_eq_setIfInBounds] at later
      exact later

/-- Memory is what its entries store in empty memory, one after the other. -/
theorem Records.eq_storeAll {memory : Memory} {entries : List Entry}
    (records : memory.Records entries)
    (inside : ∀ entry ∈ entries, entry.address.toNat < memorySize) :
    memory = zero.storeAll (entries.map Entry.cell) :=
  records.unique (zero_records.storeAll inside)

end Memory

/-! ### Where entries come from -/

/-- The words of an entry are those of a line that was read. -/
def Entry.OfLine (entry : Entry) : Prop :=
  ∃ text : Bytes, text.length < Source.lineLimit ∧ entry.words = fields (Line.split text).body

/-- An entry comes from a line, and its word is that of its words under labels that had
been bound by then. -/
structure Entry.EmittedUnder (labels : Labels) (entry : Entry) : Prop where
  line : entry.OfLine
  encoded : ∃ earlier : Labels, earlier.Within labels ∧
    Body.encodeWords earlier entry.words = .ok entry.word

namespace Entry.EmittedUnder

theorem mono {labels larger : Labels} {entry : Entry} (emitted : entry.EmittedUnder labels)
    (within : labels.Within larger) : entry.EmittedUnder larger where
  line := emitted.line
  encoded := by
    obtain ⟨earlier, earlierWithin, encoded⟩ := emitted.encoded
    exact ⟨earlier, earlierWithin.trans within, encoded⟩

end Entry.EmittedUnder

namespace Assembler

/-- A line keeps where the entries come from. -/
theorem Move.emittedUnder {assembler reached : Assembler} {number : Nat} {text : Bytes}
    {verdict : Verdict} (move : Move assembler number text reached verdict)
    (short : text.length < Source.lineLimit)
    (emitted : ∀ entry ∈ assembler.entries.toList, entry.EmittedUnder assembler.labels) :
    ∀ entry ∈ reached.entries.toList, entry.EmittedUnder reached.labels := by
  have within : assembler.labels.Within reached.labels := move.extends.labels
  have older : ∀ entry ∈ assembler.entries.toList, entry.EmittedUnder reached.labels :=
    fun entry member => (emitted entry member).mono within
  cases move with
  | unreadable parsed => exact older
  | nothing parsed => exact older
  | origin parsed => exact older
  | finish parsed => exact older
  | duplicate parsed refused => exact older
  | full parsed accepts above => exact older
  | unencodable parsed accepts fits refused => exact older
  | broken parsed accepts fits breaks => exact older
  | emitted parsed accepts fits encoded =>
      intro entry member
      rw [Array.toList_push] at member
      rcases List.mem_append.1 member with old | new
      · exact older entry old
      · obtain ⟨split, _⟩ := Line.parse_eq_ok_iff.1 parsed
        rw [List.mem_singleton.1 new]
        exact ⟨⟨text, short, by rw [split]⟩, _, .refl _, encoded⟩

theorem over_emittedUnder (assembler : Assembler) {lines : List Bytes}
    (short : ∀ line ∈ lines, line.length < Source.lineLimit) :
    ∀ entry ∈ (assembler.begin.over lines).1.assembler.entries.toList,
      entry.EmittedUnder (assembler.begin.over lines).1.assembler.labels :=
  Progress.over_induction_of_mem
    (motive := fun reached => ∀ entry ∈ reached.assembler.entries.toList,
      entry.EmittedUnder reached.assembler.labels)
    (fun reached text member kept => (reached.next_move text).emittedUnder (short text member) kept)
    (fun _ member => absurd member List.not_mem_nil)

end Assembler

/-! ### Lines of entries -/

/-- An entry that its lines emit again, under labels that do not change any more. -/
structure Entry.Rebuildable (labels : Labels) (entry : Entry) : Prop where
  inside : entry.address.toNat < memorySize
  line : entry.OfLine
  noComma : ∀ word ∈ entry.words, 0x2C ∉ word
  encoded : Body.encodeWords labels entry.words = .ok entry.word

/-- Without an expression and a comma in its words, an entry can be rebuilt under the
final labels: a label that was bound when it was emitted has kept its address. -/
theorem Entry.EmittedUnder.rebuildable {labels : Labels} {entry : Entry}
    (emitted : entry.EmittedUnder labels) (inside : entry.address.toNat < memorySize)
    (noExpression : ∀ operand ∈ entry.words.tail, Body.expressionText? operand = none)
    (noComma : ∀ word ∈ entry.words, 0x2C ∉ word) : entry.Rebuildable labels where
  inside := inside
  line := emitted.line
  noComma := noComma
  encoded := by
    obtain ⟨earlier, within, encoded⟩ := emitted.encoded
    have plain : ∀ operand ∈ entry.words.tail.head?, Body.expressionText? operand = none :=
      fun operand first => noExpression operand (List.mem_of_head? first)
    rcases Body.encodeWords_within within plain with same | ⟨name, missing⟩
    · rw [same, encoded]
    · rw [missing] at encoded
      cases encoded

namespace Entry.Rebuildable

variable {labels : Labels} {entry : Entry}

theorem fields_wordsLine (rebuildable : entry.Rebuildable labels) :
    fields entry.wordsLine = entry.words := by
  obtain ⟨text, _, words⟩ := rebuildable.line
  apply fields_join
  intro word member
  rw [words] at member
  exact (word_of_mem_fields member).2.2

theorem mem_wordsLine (rebuildable : entry.Rebuildable labels) {byte : UInt8}
    (member : byte ∈ entry.wordsLine) :
    byte = 0x20 ∨ (isBlankByte byte = false ∧ byte ≠ 0x2C) := by
  obtain ⟨text, _, words⟩ := rebuildable.line
  rcases Bytes.mem_join member with separator | ⟨word, among, inWord⟩
  · exact .inl (List.mem_singleton.1 separator)
  · refine .inr ⟨?_, ?_⟩
    · rw [words] at among
      exact not_isBlankByte_of_mem_fields among inWord
    · rintro rfl
      exact rebuildable.noComma word among inWord

theorem length_wordsLine (rebuildable : entry.Rebuildable labels) :
    entry.wordsLine.length < Source.lineLimit := by
  obtain ⟨text, short, words⟩ := rebuildable.line
  calc entry.wordsLine.length
      = (Bytes.join [0x20] (fields (Line.split text).body)).length := by rw [wordsLine, words]
    _ ≤ (Line.split text).body.length := length_join_fields_le _
    _ ≤ text.length := (Line.split_body text).1.length_le
    _ < Source.lineLimit := short

theorem noComment_wordsLine (rebuildable : entry.Rebuildable labels) :
    ¬ Line.HasComment entry.wordsLine := by
  obtain ⟨text, _, words⟩ := rebuildable.line
  apply Line.noComment_join
  intro word member comment
  rw [words] at member
  exact (Line.split_body text).2 (comment.of_infix (word_of_mem_fields member).1)

theorem encode_wordsLine (rebuildable : entry.Rebuildable labels) :
    Body.encode labels entry.wordsLine = .ok entry.word := by
  rw [Body.encode, rebuildable.fields_wordsLine]
  exact rebuildable.encoded

theorem parse_wordsLine (rebuildable : entry.Rebuildable labels) :
    Line.parse entry.wordsLine = .ok ⟨⟨[], trim entry.wordsLine⟩, .instruction⟩ := by
  apply Body.parse_of_encode rebuildable.encode_wordsLine
  apply Line.split_of_noLabel rebuildable.noComment_wordsLine
  intro comma
  rcases rebuildable.mem_wordsLine comma with blank | ⟨_, differs⟩
  · cases blank
  · exact differs rfl

/-- The lines of an entry can stand in rows of text. -/
theorem mem_sourceLines (rebuildable : entry.Rebuildable labels) {line : Bytes}
    (member : line ∈ entry.sourceLines) :
    0x0A ∉ line ∧ 0x0D ∉ line ∧ line.length < Source.lineLimit := by
  have isOneOf : line = originLine (upperHex 3 entry.address.toNat) ∨ line = entry.wordsLine := by
    simpa [sourceLines] using member
  rcases isOneOf with rfl | rfl
  · refine ⟨fun feed => ?_, fun carriageReturn => ?_, ?_⟩
    · exact absurd (mem_originLine feed) (by decide)
    · exact absurd (mem_originLine carriageReturn) (by decide)
    · rw [length_originLine rebuildable.inside]
      decide
  · refine ⟨fun feed => ?_, fun carriageReturn => ?_, rebuildable.length_wordsLine⟩
    · exact absurd (rebuildable.mem_wordsLine feed) (by decide)
    · exact absurd (rebuildable.mem_wordsLine carriageReturn) (by decide)

end Entry.Rebuildable

/-! ### The run -/

namespace Assembler

/-- The two lines of an entry emit it again and bind nothing. -/
theorem over_sourceLines {labels : Labels} {entry : Entry}
    (rebuildable : entry.Rebuildable labels) {progress : Progress}
    (bound : progress.assembler.labels = labels) :
    (progress.over entry.sourceLines).2 = .proceed ∧
      (progress.over entry.sourceLines).1.assembler.labels = labels ∧
      (progress.over entry.sourceLines).1.assembler.entries.toList.map Entry.content =
        progress.assembler.entries.toList.map Entry.content ++ [entry.content] := by
  obtain ⟨originOn, moved⟩ := progress.next_of_origin (parse_originLine rebuildable.inside)
  rw [Entry.sourceLines, Progress.over_cons_of_goesOn originOn]
  generalize (progress.next (originLine (upperHex 3 entry.address.toNat))).1 = placed at moved ⊢
  have kept : placed.assembler.labels = labels := by rw [moved, bound]
  have entries : placed.assembler.entries = progress.assembler.entries := by rw [moved]
  have cursor : placed.assembler.cursor = entry.address.toNat := by rw [moved]
  have encoded : Body.encode placed.assembler.labels (trim entry.wordsLine) = .ok entry.word := by
    rw [kept, Body.encode_trim]
    exact rebuildable.encode_wordsLine
  obtain ⟨wordsOn, stored⟩ := placed.next_of_instruction rebuildable.parse_wordsLine encoded
    (by rw [cursor]; exact rebuildable.inside)
  rw [Progress.over_cons_of_goesOn wordsOn, Progress.over, stored]
  refine ⟨rfl, kept, ?_⟩
  rw [Array.toList_push, List.map_append, entries, cursor, fields_trim,
    rebuildable.fields_wordsLine, UInt16.ofNat_toNat]
  rfl

/-- The lines of entries emit them again, in their order. -/
theorem over_entryLines {labels : Labels} {entries : List Entry}
    (rebuildable : ∀ entry ∈ entries, entry.Rebuildable labels) {progress : Progress}
    (bound : progress.assembler.labels = labels) :
    (progress.over (entries.flatMap Entry.sourceLines)).2 = .proceed ∧
      (progress.over (entries.flatMap Entry.sourceLines)).1.assembler.labels = labels ∧
      (progress.over (entries.flatMap Entry.sourceLines)).1.assembler.entries.toList.map
          Entry.content =
        progress.assembler.entries.toList.map Entry.content ++ entries.map Entry.content := by
  induction entries generalizing progress with
  | nil => exact ⟨rfl, bound, (List.append_nil _).symm⟩
  | cons entry rest inductionHypothesis =>
      obtain ⟨through, kept, first⟩ :=
        over_sourceLines (rebuildable entry List.mem_cons_self) bound
      obtain ⟨restThrough, restKept, others⟩ := inductionHypothesis
        (fun other member => rebuildable other (List.mem_cons_of_mem entry member)) kept
      rw [List.flatMap_cons, Progress.over_append_of_proceed through]
      refine ⟨restThrough, restKept, ?_⟩
      rw [others, first, List.append_assoc, List.map_cons, List.singleton_append]

/-- Memory is what the entries of a consistent assembler store. -/
theorem Consistent.memory_eq {assembler : Assembler} (consistent : assembler.Consistent) :
    assembler.memory = Memory.zero.storeAll (assembler.entries.toList.map Entry.cell) :=
  consistent.records.eq_storeAll consistent.address_lt

/-- Rows of the lines of entries are assembled to a program with these entries. -/
theorem assembleText_entryLines {labels : Labels} {entries : List Entry}
    (rebuildable : ∀ entry ∈ entries, entry.Rebuildable labels) {rebuilder : Assembler}
    (predefined : rebuilder.predefined = labels) :
    ∃ rebuilt, (rebuilder.assembleText
        (Program.rows (entries.flatMap Entry.sourceLines))).result = .ok rebuilt ∧
      rebuilt.contents = entries.map Entry.content ∧
      rebuilt.memory = Memory.zero.storeAll (entries.map Entry.cell) ∧
      rebuilt.labels = labels := by
  have lineForm : ∀ line ∈ entries.flatMap Entry.sourceLines,
      0x0A ∉ line ∧ 0x0D ∉ line ∧ line.length < Source.lineLimit := by
    intro line member
    obtain ⟨entry, listed, inEntry⟩ := List.mem_flatMap.1 member
    exact (rebuildable entry listed).mem_sourceLines inEntry
  have run := assembleText_rows rebuilder (fun line member => (lineForm line member).1)
    (fun line member => (lineForm line member).2.1) (fun line member => (lineForm line member).2.2)
  obtain ⟨through, kept, contents⟩ :=
    over_entryLines rebuildable (show rebuilder.begin.assembler.labels = labels from predefined)
  have memory := (consistent_over rebuilder (entries.flatMap Entry.sourceLines)).memory_eq
  rw [Progress.settle_of_fine (by rw [through]; rfl)] at run
  rw [run]
  refine ⟨_, rfl, contents, ?_, kept⟩
  rw [Entry.map_cell, contents] at memory
  rw [Entry.map_cell]
  exact memory

/-- Assembling the source made of the entries of a program, with the labels of the
program predefined, gives the program again, but for the numbers of lines. -/
theorem assembleText_rebuildSource (assembler rebuilder : Assembler) (text : Bytes)
    (failure : Option Bytes) (program : Program)
    (succeeded : (assembler.assemble (Source.read text failure)).result = .ok program)
    (noExpression : ∀ entry ∈ program.entries.toList, ∀ operand ∈ entry.words.tail,
      Body.expressionText? operand = none)
    (noComma : ∀ entry ∈ program.entries.toList, ∀ word ∈ entry.words, 0x2C ∉ word)
    (predefined : rebuilder.predefined = program.labels) :
    ∃ rebuilt, (rebuilder.assembleText program.rebuildSource).result = .ok rebuilt ∧
      rebuilt.contents = program.contents ∧ rebuilt.memory = program.memory ∧
      rebuilt.labels = program.labels := by
  have whole := assemble_program succeeded
  rw [assemble_assembler] at whole
  have consistent := consistent_over assembler (Source.read text failure).texts
  have emitted := assembler.over_emittedUnder fun line (member : line ∈
    (Source.read text failure).texts) => Source.length_of_mem_texts member
  generalize (assembler.begin.over (Source.read text failure).texts).1.assembler = reached
    at whole consistent emitted
  subst whole
  have rebuildable : ∀ entry ∈ reached.entries.toList, entry.Rebuildable reached.labels :=
    fun entry member => (emitted entry member).rebuildable (consistent.address_lt entry member)
      (noExpression entry member) (noComma entry member)
  obtain ⟨rebuilt, again, contents, memory, labels⟩ :=
    assembleText_entryLines rebuildable predefined
  exact ⟨rebuilt, again, contents, memory.trans consistent.memory_eq.symm, labels⟩

/-- A word that overwrites another one, an indirect reference to a predefined label and
one to a label of the source, with a comment. -/
theorem assembleText_rebuildSource_overwritten :
    let assembler := ({} : Assembler).predefine (Bytes.ofString "P") 7
    let rebuilder := (({} : Assembler).predefine (Bytes.ofString "X") 0).predefine
      (Bytes.ofString "P") 7
    let text := Bytes.ofString "X, LDA P I // load\n DEC -2\nORG 0\n BUN  X\n"
    ∃ program rebuilt,
      (assembler.assemble (Source.read text none)).result = .ok program ∧
      program.contents =
        [(0, [Bytes.ofString "LDA", Bytes.ofString "P", Bytes.ofString "I"], 0xA007),
          (1, [Bytes.ofString "DEC", Bytes.ofString "-2"], 0xFFFE),
          (0, [Bytes.ofString "BUN", Bytes.ofString "X"], 0x4000)] ∧
      rebuilder.predefined = program.labels ∧
      (rebuilder.assembleText program.rebuildSource).result = .ok rebuilt ∧
      rebuilt.contents = program.contents ∧ rebuilt.memory = program.memory ∧
      rebuilt.labels = program.labels := by
  intro assembler rebuilder text
  obtain ⟨rebuilt, again⟩ := assembleText_rebuildSource assembler rebuilder text none _ rfl
    (by decide +kernel) (by decide +kernel) rfl
  exact ⟨_, rebuilt, rfl, by decide +kernel, rfl, again⟩

end Assembler

end BasicComputer
