import BasicComputer.Command.Disassemble
import BasicComputer.Proofs.Image
import BasicComputer.Proofs.InstructionText
import BasicComputer.Proofs.Run
import Mathlib.Data.List.Basic

/-!
Contract: what was disassembled can be assembled again.

A disassembly has a row `AAA: WWWW  TEXT` for each word that is not zero.
`reassembly` makes the lines `ORG AAA` and `TEXT` of each row, and assembling them
stores the same words at the same addresses.

Owns the run over these lines (`over_cellLines`). Does not own the text of a single
instruction (`Proofs.InstructionText`).
-/

namespace BasicComputer

open Text

/-- The line that moves the cursor to an address in hex. -/
def originLine (digits : Bytes) : Bytes :=
  Bytes.ofString "ORG " ++ digits

/-- The source that a disassembly is turned into: the columns of an address become
an origin directive, and the text of the instruction a line of its own. -/
def reassembly (output : Bytes) : Bytes :=
  Program.rows ((Source.linesOf output).flatMap fun row => [originLine (row.take 3), row.drop 11])

/-- The lines that store words at addresses. -/
def cellLines (cells : List (Nat × Word)) : List Bytes :=
  cells.flatMap fun cell => [originLine (upperHex 3 cell.1), (Memory.shownAs cell.2).text]

/-! ### Lines -/

theorem originLine_eq_join (digits : Bytes) :
    originLine digits = Bytes.join [0x20] [Line.originWord, digits] := by
  rw [Bytes.join_cons_cons, Bytes.join_singleton, ← List.append_assoc]
  rfl

theorem isWord_originLine (width number : Nat) :
    ∀ word ∈ [Line.originWord, upperHex width number], Line.IsWord word := by
  have directive : Line.IsWord Line.originWord := Line.isWord_of_all (by decide) (by decide)
  have digits := Line.isWord_upperHex width number
  simp [directive, digits]

theorem mem_originLine {width number : Nat} {byte : UInt8}
    (member : byte ∈ originLine (upperHex width number)) :
    Line.IsTextByte byte := by
  rw [originLine_eq_join] at member
  exact Line.mem_joined (isWord_originLine width number) member

theorem length_originLine {address : Nat} (inside : address < memorySize) :
    (originLine (upperHex 3 address)).length = 7 := by
  have width : (upperHex 3 address).length = 3 := upperHex_length (by decide) inside
  rw [originLine, List.length_append, width]
  decide

theorem parse_originLine {address : Nat} (inside : address < memorySize) :
    Line.parse (originLine (upperHex 3 address)) =
      .ok ⟨⟨[], trim (originLine (upperHex 3 address))⟩, .origin address⟩ := by
  have small : address < magnitudeLimit := Nat.lt_trans inside (by decide)
  have words : fields (originLine (upperHex 3 address)) =
      [Line.originWord, upperHex 3 address] := by
    rw [originLine_eq_join]
    exact Line.fields_joined (isWord_originLine 3 address)
  apply Line.parse_origin _ _ words (readUnsigned_upperHex small) inside
  · apply Line.noComment_of_noSlash
    intro slash
    exact absurd (mem_originLine slash) (by decide)
  · intro comma
    exact absurd (mem_originLine comma) (by decide)

theorem mem_disassemblyRow {address : Nat} {word : Word} {byte : UInt8}
    (member : byte ∈ Memory.disassemblyRow address word) : Line.IsTextByte byte := by
  have colon : (Bytes.ofString ": ").all fun byte => Line.IsTextByte byte := by decide
  have gap : (Bytes.ofString "  ").all fun byte => Line.IsTextByte byte := by decide
  unfold Memory.disassemblyRow Memory.hexRow at member
  simp only [List.mem_append] at member
  rcases member with (((inAddress | inColon) | inWord) | inGap) | inText
  · exact .inr ((Line.isWord_upperHex 3 address).bytes byte inAddress)
  · exact of_decide_eq_true (List.all_eq_true.1 colon byte inColon)
  · exact .inr ((Line.isWord_upperHex 4 word.toNat).bytes byte inWord)
  · exact of_decide_eq_true (List.all_eq_true.1 gap byte inGap)
  · exact Instruction.mem_text inText

/-- The address and the text of a row stand in fixed columns. -/
theorem columns_disassemblyRow {address : Nat} (inside : address < memorySize) (word : Word) :
    (Memory.disassemblyRow address word).take 3 = upperHex 3 address ∧
      (Memory.disassemblyRow address word).drop 11 = (Memory.shownAs word).text := by
  have addressWidth : (upperHex 3 address).length = 3 := upperHex_length (by decide) inside
  have wordWidth : (upperHex 4 word.toNat).length = 4 := upperHex_length (by decide) word.toNat_lt
  constructor
  · unfold Memory.disassemblyRow Memory.hexRow
    rw [List.append_assoc, List.append_assoc, List.append_assoc, List.take_left' addressWidth]
  · have head : (Memory.hexRow address word ++ Bytes.ofString "  ").length = 11 := by
      unfold Memory.hexRow
      rw [List.length_append, List.length_append, List.length_append, addressWidth, wordWidth]
      decide
    rw [Memory.disassemblyRow, List.drop_left' head]

theorem mem_cellLines {cells : List (Nat × Word)} {line : Bytes} (member : line ∈ cellLines cells) :
    ∃ cell ∈ cells, line = originLine (upperHex 3 cell.1) ∨
      line = (Memory.shownAs cell.2).text := by
  obtain ⟨cell, listed, inCell⟩ := List.mem_flatMap.1 member
  refine ⟨cell, listed, ?_⟩
  simpa using inCell

theorem mem_of_mem_cellLines {cells : List (Nat × Word)} {line : Bytes} {byte : UInt8}
    (member : line ∈ cellLines cells) (inLine : byte ∈ line) :
    Line.IsTextByte byte := by
  obtain ⟨cell, _, rfl | rfl⟩ := mem_cellLines member
  · exact mem_originLine inLine
  · exact Instruction.mem_text inLine

theorem length_of_mem_cellLines {cells : List (Nat × Word)}
    (inside : ∀ cell ∈ cells, cell.1 < memorySize) {line : Bytes}
    (member : line ∈ cellLines cells) : line.length ≤ 10 := by
  obtain ⟨cell, listed, rfl | rfl⟩ := mem_cellLines member
  · rw [length_originLine (inside cell listed)]
    decide
  · exact (Memory.shownAs cell.2).text_length_le

/-- The rows of a disassembly become lines that store its words. -/
theorem reassembly_disassembly (memory : Memory) :
    reassembly (Program.rows memory.disassembly) = Program.rows (cellLines memory.used) := by
  have rowBytes : ∀ row ∈ memory.disassembly, ∀ byte ∈ row,
      Line.IsTextByte byte := by
    intro row member byte inRow
    obtain ⟨cell, _, rfl⟩ := List.mem_map.1 member
    exact mem_disassemblyRow inRow
  have rows : Source.linesOf (Program.rows memory.disassembly) = memory.disassembly := by
    apply Source.linesOf_rows
    · intro row member feed
      exact absurd (rowBytes row member _ feed) (by decide)
    · intro row member carriageReturn
      exact absurd (rowBytes row member _ carriageReturn) (by decide)
  rw [reassembly, rows, Memory.disassembly, List.flatMap_map, cellLines]
  congr 1
  apply List.flatMap_congr
  rintro ⟨address, word⟩ listed
  obtain ⟨inside, _⟩ := (Memory.mem_used_iff memory address word).1 listed
  obtain ⟨digits, text⟩ := columns_disassemblyRow inside word
  rw [digits, text]

/-! ### The run -/

namespace Assembler

/-- The lines of words store them all, whatever labels are bound. -/
theorem over_cellLines {cells : List (Nat × Word)} (inside : ∀ cell ∈ cells, cell.1 < memorySize)
    (progress : Progress) :
    (progress.over (cellLines cells)).2 = .proceed ∧
      (progress.over (cellLines cells)).1.assembler.memory =
        progress.assembler.memory.storeAll cells := by
  induction cells generalizing progress with
  | nil => exact ⟨rfl, rfl⟩
  | cons cell rest inductionHypothesis =>
      obtain ⟨address, word⟩ := cell
      have addressInside : address < memorySize := inside (address, word) List.mem_cons_self
      have lines : cellLines ((address, word) :: rest) =
          originLine (upperHex 3 address) :: (Memory.shownAs word).text :: cellLines rest := by
        simp [cellLines]
      -- first the origin moves the cursor, then the text stores the word there
      obtain ⟨originOn, moved⟩ := progress.next_of_origin (parse_originLine addressInside)
      have fits : (progress.next (originLine (upperHex 3 address))).1.assembler.cursor <
          memorySize := by
        rw [moved]
        exact addressInside
      have encoded : ∀ labels, Body.encode labels (trim (Memory.shownAs word).text) = .ok word := by
        intro labels
        rw [Body.encode_trim]
        exact Instruction.encode_text (Memory.encode_shownAs word) labels
      obtain ⟨wordOn, stored⟩ := Progress.next_of_instruction _ (Memory.shownAs word).parse_text
        (encoded _) fits
      obtain ⟨through, rest⟩ := inductionHypothesis
        (fun other member => inside other (List.mem_cons_of_mem _ member))
        ((progress.next (originLine (upperHex 3 address))).1.next (Memory.shownAs word).text).1
      rw [lines, Progress.over_cons_of_goesOn originOn, Progress.over_cons_of_goesOn wordOn]
      refine ⟨through, ?_⟩
      rw [rest, stored, Memory.set_eq_setIfInBounds, moved, Memory.storeAll_cons]

/-- Rows of lines of words are assembled to memory that holds the words. -/
theorem assembleText_cellLines {cells : List (Nat × Word)}
    (inside : ∀ cell ∈ cells, cell.1 < memorySize) (assembler : Assembler) :
    ∃ program, (assembler.assembleText (Program.rows (cellLines cells))).result = .ok program ∧
      program.memory = Memory.zero.storeAll cells := by
  have noFeed : ∀ line ∈ cellLines cells, 0x0A ∉ line := by
    intro line member feed
    exact absurd (mem_of_mem_cellLines member feed) (by decide)
  have noReturn : ∀ line ∈ cellLines cells, 0x0D ∉ line := by
    intro line member carriageReturn
    exact absurd (mem_of_mem_cellLines member carriageReturn) (by decide)
  have short : ∀ line ∈ cellLines cells, line.length < Source.lineLimit := by
    intro line member
    exact Nat.lt_of_le_of_lt (length_of_mem_cellLines inside member) (by decide)
  obtain ⟨through, stored⟩ := over_cellLines inside assembler.begin
  have fine : (assembler.begin.over (cellLines cells)).2.isFine = true := by
    rw [through]
    rfl
  refine ⟨(assembler.begin.over (cellLines cells)).1.assembler.program, ?_, stored⟩
  rw [assembleText_rows assembler noFeed noReturn short, Progress.settle_of_fine fine]
  rfl

end Assembler

/-- Disassembling an image prints a row for each word that is not zero, by ascending
address, and assembling the rows again gives the memory of the image, whatever labels
are predefined. -/
theorem disassembly_reassembles (files : FileSystem) (path : Bytes) (opened : Opened)
    (found : files.open? path = .ok opened) (size : opened.content.length = imageSize) :
    ∃ (memory : Memory) (cells : List (Nat × Word)) (output : Bytes),
      (∀ failure, Memory.read opened.content failure = .ok memory) ∧
      memory.binary = opened.content ∧
      (cells.Pairwise fun left right => left.1 < right.1) ∧
      (∀ address word, (address, word) ∈ cells ↔
        ∃ inside : address < memorySize, memory[address] = word ∧ word ≠ 0) ∧
      output = Program.rows (cells.map fun cell =>
        upperHex 3 cell.1 ++ Bytes.ofString ": " ++ upperHex 4 cell.2.toNat ++
          Bytes.ofString "  " ++ (Memory.shownAs cell.2).text) ∧
      (disassemblePlan path).run files = (files, { output := output }) ∧
      ∀ assembler : Assembler, ∃ program,
        (assembler.assembleText (reassembly output)).result = .ok program ∧
          program.memory = memory := by
  obtain ⟨memory, read, binary⟩ := Memory.read_of_size size
  have run : (disassemblePlan path).run files =
      (files, { output := Program.rows memory.disassembly }) := by
    rw [disassemblePlan, Plan.run, found]
    dsimp only
    rw [disassembleOpened, read]
    rfl
  refine ⟨memory, memory.used, Program.rows memory.disassembly, read, binary,
    memory.used_ascending, memory.mem_used_iff, rfl, run, ?_⟩
  intro assembler
  have inside : ∀ cell ∈ memory.used, cell.1 < memorySize := by
    rintro ⟨address, word⟩ listed
    exact ((memory.mem_used_iff address word).1 listed).1
  obtain ⟨program, succeeded, stored⟩ := assembler.assembleText_cellLines inside
  refine ⟨program, ?_, ?_⟩
  · rw [reassembly_disassembly, succeeded]
  · rw [stored, Memory.zero_storeAll_used]

/-- An instruction, an indirect reference and a word that is no instruction. -/
theorem disassembly_reassembles_mixed :
    let image : Bytes := [0x78, 0x00, 0xA1, 0x23, 0xFF, 0xFF] ++ List.replicate 8186 0
    let files : FileSystem := { nodes := [([Bytes.ofString "image"], .file image)] }
    files.open? (Bytes.ofString "image") = .ok { content := image } ∧
      image.length = imageSize ∧
      ∃ (memory : Memory) (output : Bytes) (program : Program),
        memory.binary = image ∧
        (disassemblePlan (Bytes.ofString "image")).run files = (files, { output := output }) ∧
        (({} : Assembler).assembleText (reassembly output)).result = .ok program ∧
        program.memory = memory := by
  intro image files
  have found : files.open? (Bytes.ofString "image") = .ok { content := image } := rfl
  have size : image.length = imageSize := by
    change ([0x78, 0x00, 0xA1, 0x23, 0xFF, 0xFF] ++ List.replicate 8186 0 : Bytes).length = _
    rw [List.length_append, List.length_replicate]
    rfl
  obtain ⟨memory, _, output, _, binary, _, _, _, run, again⟩ :=
    disassembly_reassembles files (Bytes.ofString "image") { content := image } found size
  obtain ⟨program, succeeded, same⟩ := again {}
  exact ⟨found, size, memory, output, program, binary, run, succeeded, same⟩

end BasicComputer
