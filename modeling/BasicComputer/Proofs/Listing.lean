import BasicComputer.Proofs.InstructionText
import BasicComputer.Proofs.LabelOrder
import BasicComputer.Proofs.Run

/-!
Contract: a listing tells all entries and all labels of a program.

The columns of a listing are as wide as they have to be, so they are told apart by the
white space between them and not by their position. `Listing.read?` reads a listing back
that way.

Owns:
- that nothing in a column holds white space (`Program.Unbroken`), which every line keeps;
- what is read from a row of either list, and from the whole text.
-/

namespace BasicComputer

open Text

/-- What a listing tells. -/
structure Listing where
  entries : List Entry
  /-- The labels in the order of their rows, if there is a list of labels. -/
  labels : Option (List (Bytes × Word))
deriving DecidableEq, Repr

namespace Listing

/-- The entry of a row: address, word and line number, then the words of the body. -/
def readEntry? (row : Bytes) : Option Entry :=
  match fields row with
  | address :: word :: number :: words => do
      let address ← hexWord? address
      let word ← hexWord? word
      let number ← numeral? 10 number
      return ⟨number, address, words, word⟩
  | _ => none

/-- The label of a row: name and address. -/
def readLabel? (row : Bytes) : Option (Bytes × Word) :=
  match fields row with
  | [name, address] => (hexWord? address).map fun address => (name, address)
  | _ => none

/-- The list of labels among the rows from the first empty one on. -/
def readLabels? : List Bytes → Option (Option (List (Bytes × Word)))
  | [] => some none
  | _ :: title :: rows =>
      if title = Program.labelsTitle then (rows.mapM readLabel?).map some else none
  | _ => none

/-- What is read from a listing: its title is passed over, and the first empty row ends
the entries. -/
def read? (text : Bytes) : Option Listing :=
  match Source.rawLines text with
  | [] => none
  | _ :: rows => do
      let entries ← (rows.takeWhile (· ≠ [])).mapM readEntry?
      let labels ← readLabels? (rows.dropWhile (· ≠ []))
      return ⟨entries, labels⟩

end Listing

/-! ### What stands in the columns -/

/-- No white space stands in the words of an entry and in the name of a label. -/
structure Program.Unbroken (program : Program) : Prop where
  words : ∀ entry ∈ program.entries.toList, ∀ word ∈ entry.words, fields word = [word]
  names : ∀ name address, program.labels.find? name = some address → fields name = [name]

namespace Assembler

theorem names_withLabel {labels : Labels}
    (names : ∀ name address, labels.find? name = some address → fields name = [name])
    {text : Bytes} {parts : LineParts} {directive : Directive}
    (parsed : Line.parse text = .ok ⟨parts, directive⟩) (cursor : Nat) :
    ∀ name address, (labels.withLabel parts.label cursor).find? name = some address →
      fields name = [name] := by
  intro name address bound
  rw [Labels.find?_withLabel] at bound
  split at bound
  · next own =>
      obtain ⟨labelled, rfl⟩ := own
      exact Line.fields_label parsed labelled
  · exact names name address bound

theorem Move.unbroken {assembler reached : Assembler} {number : Nat} {text : Bytes}
    {verdict : Verdict} (move : Move assembler number text reached verdict)
    (unbroken : assembler.program.Unbroken) : reached.program.Unbroken := by
  obtain ⟨words, names⟩ := unbroken
  cases move with
  | unreadable parsed => exact ⟨words, names⟩
  | nothing parsed => exact ⟨words, names⟩
  | origin parsed => exact ⟨words, names⟩
  | finish parsed => exact ⟨words, names⟩
  | duplicate parsed refused => exact ⟨words, names⟩
  | full parsed accepts above => exact ⟨words, names_withLabel names parsed _⟩
  | unencodable parsed accepts fits refused => exact ⟨words, names_withLabel names parsed _⟩
  | broken parsed accepts fits breaks => exact ⟨words, names_withLabel names parsed _⟩
  | emitted parsed accepts fits encoded =>
      refine ⟨?_, names_withLabel names parsed _⟩
      intro entry member word among
      change entry ∈ (assembler.entries.push _).toList at member
      rw [Array.toList_push, List.mem_append, List.mem_singleton] at member
      rcases member with old | rfl
      · exact words entry old word among
      · exact (word_of_mem_fields among).2.2

theorem unbroken_over {assembler : Assembler}
    (predefined : ∀ name address, assembler.predefined.find? name = some address →
      name ≠ [] ∧ NoBlank name) (lines : List Bytes) :
    (assembler.begin.over lines).1.assembler.program.Unbroken := by
  apply Progress.over_induction (motive := fun reached => reached.assembler.program.Unbroken)
  · intro progress text unbroken
    exact (progress.next_move text).unbroken unbroken
  · refine ⟨fun _ member => absurd member List.not_mem_nil, ?_⟩
    intro name address bound
    obtain ⟨nonempty, noBlank⟩ := predefined name address bound
    exact noBlank.fields nonempty

end Assembler

/-! ### Rows -/

namespace Program

theorem fields_entryRow {entry : Entry} (words : ∀ word ∈ entry.words, fields word = [word]) :
    fields (entryRow entry) =
      upperHex 3 entry.address.toNat :: upperHex 4 entry.word.toNat ::
        decimal entry.lineNumber :: entry.words := by
  have number : fields (padLeft 0x20 5 (decimal entry.lineNumber)) =
      [decimal entry.lineNumber] := by
    rw [padLeft, fields_spaces_append, (Line.isWord_decimal _).fields]
  have gap : ∀ first rest : Bytes,
      fields (first ++ (Bytes.ofString "  " ++ rest)) = fields first ++ fields rest := by
    intro first rest
    rw [show Bytes.ofString "  " ++ rest = 0x20 :: (List.replicate 1 0x20 ++ rest) from rfl,
      fields_append_blank rfl, fields_spaces_append]
  unfold entryRow
  simp only [List.append_assoc, gap]
  rw [(Line.isWord_upperHex _ _).fields, (Line.isWord_upperHex _ _).fields, number,
    fields_join words]
  rfl

theorem readEntry?_entryRow {entry : Entry}
    (words : ∀ word ∈ entry.words, fields word = [word]) :
    Listing.readEntry? (entryRow entry) = some entry := by
  simp [Listing.readEntry?, fields_entryRow words, hexWord?_upperHex, numeral?_decimal]

theorem fields_labelRow {binding : Bytes × Word} (name : fields binding.1 = [binding.1]) :
    fields (labelRow binding) = [binding.1, upperHex 3 binding.2.toNat] := by
  rw [labelRow, fields_append_blank rfl, padRight, fields_append_spaces, name,
    (Line.isWord_upperHex _ _).fields, List.singleton_append]

theorem readLabel?_labelRow {binding : Bytes × Word} (name : fields binding.1 = [binding.1]) :
    Listing.readLabel? (labelRow binding) = some binding := by
  simp [Listing.readLabel?, fields_labelRow name, hexWord?_upperHex]

/-- Blanks are the only white space in a row. -/
theorem mem_entryRow {entry : Entry} (words : ∀ word ∈ entry.words, fields word = [word])
    {byte : UInt8} (member : byte ∈ entryRow entry) : byte = 0x20 ∨ isBlankByte byte = false := by
  have gap : ∀ byte ∈ Bytes.ofString "  ", byte = 0x20 := by
    rw [show Bytes.ofString "  " = List.replicate 2 0x20 from rfl]
    exact fun byte inGap => List.eq_of_mem_replicate inGap
  have wordByte : ∀ {word : Bytes}, Line.IsWord word → byte ∈ word → isBlankByte byte = false :=
    fun isWord inWord => (isWord.bytes byte inWord).1.2
  unfold entryRow at member
  simp only [List.mem_append] at member
  rcases member with (((((inAddress | inGap) | inWord) | inGap) | inNumber) | inGap) | inWords
  · exact .inr (wordByte (Line.isWord_upperHex _ _) inAddress)
  · exact .inl (gap byte inGap)
  · exact .inr (wordByte (Line.isWord_upperHex _ _) inWord)
  · exact .inl (gap byte inGap)
  · rcases List.mem_append.1 inNumber with padding | digit
    · exact .inl (List.eq_of_mem_replicate padding)
    · exact .inr (wordByte (Line.isWord_decimal _) digit)
  · exact .inl (gap byte inGap)
  · rcases Bytes.mem_join inWords with separator | ⟨word, among, inWord⟩
    · exact .inl (List.mem_singleton.1 separator)
    · exact .inr (not_isBlankByte_of_mem_fields (words word among ▸ List.mem_singleton_self word)
        inWord)

theorem mem_labelRow {binding : Bytes × Word} (name : fields binding.1 = [binding.1])
    {byte : UInt8} (member : byte ∈ labelRow binding) :
    byte = 0x20 ∨ isBlankByte byte = false := by
  unfold labelRow padRight at member
  simp only [List.mem_append, List.mem_cons] at member
  rcases member with (inName | padding) | rfl | inAddress
  · exact .inr (not_isBlankByte_of_mem_fields (name ▸ List.mem_singleton_self _) inName)
  · exact .inl (List.eq_of_mem_replicate padding)
  · exact .inl rfl
  · exact .inr ((Line.isWord_upperHex _ _).bytes byte inAddress).1.2

theorem space_mem_entryRow (entry : Entry) : 0x20 ∈ entryRow entry := by
  have gap : 0x20 ∈ Bytes.ofString "  " := by decide
  simp [entryRow, gap]

/-! ### The whole listing -/

theorem Unbroken.shown {program : Program} (unbroken : program.Unbroken) :
    ∀ binding ∈ program.labels.shown, fields binding.1 = [binding.1] := by
  rintro ⟨name, address⟩ listed
  exact unbroken.names name address ((program.labels.mem_shown_iff name address).1 listed)

theorem mem_labelRows {labels : Labels} {row : Bytes} (member : row ∈ labelRows labels) :
    row = [] ∨ row = labelsTitle ∨ ∃ binding ∈ labels.shown, row = labelRow binding := by
  unfold labelRows at member
  split at member
  · cases member
  · simpa [eq_comm] using member

theorem rawLines_listing {program : Program} (unbroken : program.Unbroken) :
    Source.rawLines program.listing = program.listingRows := by
  have noFeed : ∀ {row : Bytes}, (∀ byte ∈ row, byte = 0x20 ∨ isBlankByte byte = false) →
      0x0A ∉ row := by
    intro row bytes feed
    exact absurd (bytes _ feed) (by decide)
  apply Source.rawLines_rows
  intro row member
  simp only [listingRows, List.mem_append, List.mem_cons, List.mem_map] at member
  rcases member with (rfl | ⟨entry, listed, rfl⟩) | inLabels
  · decide
  · exact noFeed fun byte => mem_entryRow (unbroken.words entry listed)
  · rcases mem_labelRows inLabels with rfl | rfl | ⟨binding, listed, rfl⟩
    · exact List.not_mem_nil
    · decide
    · exact noFeed fun byte => mem_labelRow (unbroken.shown binding listed)

theorem readLabels?_labelRows {program : Program} (unbroken : program.Unbroken) :
    Listing.readLabels? (labelRows program.labels) =
      some (if program.labels.isEmpty then none else some program.labels.shown) := by
  unfold labelRows
  split
  · rfl
  · have rows := mapM_map_of_inverse fun binding listed =>
      readLabel?_labelRow (unbroken.shown binding listed)
    simp [Listing.readLabels?, rows]

/-- What is read from the listing of a program. -/
theorem read?_listing {program : Program} (unbroken : program.Unbroken) :
    Listing.read? program.listing =
      some ⟨program.entries.toList,
        if program.labels.isEmpty then none else some program.labels.shown⟩ := by
  have filled : ∀ row ∈ program.entries.toList.map entryRow, decide (row ≠ []) = true := by
    intro row member
    obtain ⟨entry, _, rfl⟩ := List.mem_map.1 member
    exact decide_eq_true (List.ne_nil_of_mem (space_mem_entryRow entry))
  -- the list of labels starts with an empty row, if there is one
  have gap : (labelRows program.labels).takeWhile (· ≠ []) = [] ∧
      (labelRows program.labels).dropWhile (· ≠ []) = labelRows program.labels := by
    unfold labelRows
    split <;> simp
  have entries := mapM_map_of_inverse fun entry listed =>
    readEntry?_entryRow (unbroken.words entry listed)
  unfold Listing.read?
  rw [rawLines_listing unbroken, listingRows, List.cons_append]
  simp only [List.takeWhile_append_of_pos filled, List.dropWhile_append_of_pos filled, gap,
    List.append_nil, entries, readLabels?_labelRows unbroken]
  rfl

theorem labelsTitle_mem_listing_iff {program : Program} (unbroken : program.Unbroken) :
    labelsTitle ∈ Source.rawLines program.listing ↔ program.labels.isEmpty = false := by
  have noSpace : 0x20 ∉ labelsTitle := by decide
  rw [rawLines_listing unbroken, listingRows, List.cons_append, List.mem_cons, List.mem_append]
  constructor
  · rintro (isTitle | inEntries | inLabels)
    · exact absurd isTitle (by decide)
    · obtain ⟨entry, _, same⟩ := List.mem_map.1 inEntries
      exact absurd (space_mem_entryRow entry) (same ▸ noSpace)
    · unfold labelRows at inLabels
      split at inLabels
      · cases inLabels
      · next filled => simpa using filled
  · intro filled
    right; right
    simp [labelRows, filled]

end Program

/-- A listing loses nothing: reading it gives every entry in order, and every label with its
address in the order of the names. The list of labels is missing only if there are no
labels. -/
theorem Assembler.listing_reads_back (assembler : Assembler) (source : Source)
    (program : Program)
    (predefined : ∀ name address, assembler.predefined.find? name = some address →
      name ≠ [] ∧ NoBlank name)
    (succeeded : (assembler.assemble source).result = .ok program) :
    ∃ listing, Listing.read? program.listing = some listing ∧
      listing.entries = program.entries.toList ∧
      listing.labels.getD [] =
        program.labels.names.map (fun name => (name, (program.labels.find? name).getD 0)) ∧
      (listing.labels = none ↔ ∀ name, program.labels.find? name = none) ∧
      (Program.labelsTitle ∉ Source.rawLines program.listing ↔
        ∀ name, program.labels.find? name = none) := by
  have unbroken : program.Unbroken := by
    rw [assemble_program succeeded, assemble_assembler]
    exact unbroken_over predefined source.texts
  have empty := program.labels.isEmpty_iff_find?
  refine ⟨_, Program.read?_listing unbroken, rfl, ?_, ?_, ?_⟩
  · rw [← Labels.shown_eq_map_names]
    split
    · next isEmpty =>
        have nothing : program.labels.entries = [] := List.isEmpty_iff.1 isEmpty
        rw [Labels.shown, nothing, List.mergeSort_nil]
        rfl
    · rfl
  · rw [← empty]
    split <;> simp [*]
  · rw [Program.labelsTitle_mem_listing_iff unbroken, ← empty, Bool.not_eq_false]

/-- A name that is wider than its column, with an address of four digits, and a name of
two bytes that is one character. -/
theorem Assembler.listing_reads_back_wide :
    let assembler := ({} : Assembler).predefine (Bytes.ofString "OVERFLOWING") 0xF00D
    let source := Source.read (Bytes.ofString "Δ, DEC OVERFLOWING // literal\n BUN  Δ I") none
    (∀ name address, assembler.predefined.find? name = some address →
        name ≠ [] ∧ NoBlank name) ∧
      ∃ program listing, (assembler.assemble source).result = .ok program ∧
        Listing.read? program.listing = some listing ∧
        listing.entries =
          [⟨1, 0, [Bytes.ofString "DEC", Bytes.ofString "OVERFLOWING"], 0xF00D⟩,
            ⟨2, 1, [Bytes.ofString "BUN", Bytes.ofString "Δ", Bytes.ofString "I"], 0xC000⟩] ∧
        listing.labels ≠ none := by
  intro assembler source
  have predefined : ∀ name address, assembler.predefined.find? name = some address →
      name ≠ [] ∧ NoBlank name := by
    intro name address bound
    change (Labels.empty.insert _ _).find? name = some address at bound
    rw [Labels.find?_insert] at bound
    split at bound
    · next own =>
        rw [own]
        decide
    · cases bound
  obtain ⟨listing, read, entries, _, missing, _⟩ :=
    listing_reads_back assembler source _ predefined rfl
  refine ⟨predefined, _, listing, rfl, read, entries, ?_⟩
  intro none
  have unbound := missing.1 none (Bytes.ofString "OVERFLOWING")
  exact absurd unbound (by decide +kernel)

end BasicComputer
