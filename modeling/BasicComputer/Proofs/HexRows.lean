import BasicComputer.Proofs.Reassembly

/-!
Contract: the rows of a program in hex.

A hex row is `AAA: WWWW`, and a row of the disassembly is such a row with the text of the
instruction behind it. Hex rows are written from memory, disassemblies from the image that
was read back; both go through the same words in the same order.

Owns the columns of a hex row and how rows are read back (`Memory.readHexRow?`).
-/

namespace BasicComputer

open Text

namespace Memory

/-- The address and the word of a row `AAA: WWWW`. -/
def readHexRow? (row : Bytes) : Option (Nat × Word) :=
  if row.length = 9 ∧ (row.drop 3).take 2 = Bytes.ofString ": " then do
    let address ← numeral? 16 (row.take 3)
    let word ← hexWord? (row.drop 5)
    return (address, word)
  else none

theorem inside_of_mem_used {memory : Memory} {cell : Nat × Word} (listed : cell ∈ memory.used) :
    cell.1 < memorySize :=
  ((memory.mem_used_iff cell.1 cell.2).1 listed).1

theorem length_hexRow {address : Nat} (inside : address < memorySize) (word : Word) :
    (hexRow address word).length = 9 := by
  have addressWidth : (upperHex 3 address).length = 3 := upperHex_length (by decide) inside
  have wordWidth : (upperHex 4 word.toNat).length = 4 := upperHex_length (by decide) word.toNat_lt
  have colonWidth : (Bytes.ofString ": ").length = 2 := by decide
  simp only [hexRow, List.length_append, addressWidth, wordWidth, colonWidth]

theorem take_disassemblyRow {address : Nat} (inside : address < memorySize) (word : Word) :
    (disassemblyRow address word).take 9 = hexRow address word := by
  rw [disassemblyRow, List.append_assoc, List.take_left' (length_hexRow inside word)]

theorem readHexRow?_hexRow {address : Nat} (inside : address < memorySize) (word : Word) :
    readHexRow? (hexRow address word) = some (address, word) := by
  have addressWidth : (upperHex 3 address).length = 3 := upperHex_length (by decide) inside
  have colonWidth : (Bytes.ofString ": ").length = 2 := by decide
  have first : (hexRow address word).take 3 = upperHex 3 address := by
    rw [hexRow, List.append_assoc, List.take_left' addressWidth]
  have behind : (hexRow address word).drop 3 = Bytes.ofString ": " ++ upperHex 4 word.toNat := by
    rw [hexRow, List.append_assoc, List.drop_left' addressWidth]
  have last : (hexRow address word).drop 5 = upperHex 4 word.toNat := by
    rw [show 5 = 3 + 2 from rfl, ← List.drop_drop, behind, List.drop_left' colonWidth]
  have colon : ((hexRow address word).drop 3).take 2 = Bytes.ofString ": " := by
    rw [behind, List.take_left' colonWidth]
  rw [readHexRow?, if_pos ⟨length_hexRow inside word, colon⟩, first, last, numeral?_upperHex,
    hexWord?_upperHex]
  rfl

theorem rawLines_disassembly (memory : Memory) :
    Source.rawLines (Program.rows memory.disassembly) = memory.disassembly := by
  apply Source.rawLines_rows
  intro row member feed
  obtain ⟨cell, _, rfl⟩ := List.mem_map.1 member
  exact absurd (mem_disassemblyRow feed) (by decide)

end Memory

namespace Program

theorem rawLines_hex (program : Program) : Source.rawLines program.hex = program.hexRows := by
  apply Source.rawLines_rows
  intro row member feed
  obtain ⟨cell, _, rfl⟩ := List.mem_map.1 member
  -- a hex row is the beginning of a row of the disassembly
  have inRow : 0x0A ∈ Memory.disassemblyRow cell.1 cell.2 := by
    simp [Memory.disassemblyRow, feed]
  exact absurd (mem_disassemblyRow inRow) (by decide)

theorem hexRows_eq_take (program : Program) :
    program.hexRows = program.memory.disassembly.map (·.take 9) := by
  rw [hexRows, Memory.disassembly, List.map_map]
  apply List.map_congr_left
  intro cell listed
  exact (Memory.take_disassemblyRow (Memory.inside_of_mem_used listed) cell.2).symm

theorem mapM_readHexRow? (program : Program) :
    program.hexRows.mapM Memory.readHexRow? = some program.memory.used :=
  mapM_map_of_inverse fun cell listed =>
    Memory.readHexRow?_hexRow (Memory.inside_of_mem_used listed) cell.2

/-- The rows of a program in hex are the first nine characters of the rows that its image
is disassembled to, one for one, and storing what they say gives the memory of the
program. -/
theorem hex_agrees_with_disassembly (program : Program) :
    (∀ (files : FileSystem) (path : Bytes) (opened : Opened),
        files.open? path = .ok opened → opened.content = program.binary →
        ∃ output, (disassemblePlan path).run files = (files, { output := output }) ∧
          (∀ row ∈ Source.rawLines output, ∀ byte ∈ row, byte < 0x80) ∧
          Source.rawLines program.hex = (Source.rawLines output).map (·.take 9)) ∧
      ∃ cells, (Source.rawLines program.hex).mapM Memory.readHexRow? = some cells ∧
        Memory.zero.storeAll cells = program.memory := by
  constructor
  · intro files path opened found holds
    have run : (disassemblePlan path).run files =
        (files, { output := rows program.memory.disassembly }) := by
      rw [disassemblePlan, Plan.run, found]
      dsimp only
      rw [disassembleOpened, holds, binary, Memory.read_binary]
      rfl
    refine ⟨_, run, ?_, ?_⟩
    · intro row member byte inRow
      rw [Memory.rawLines_disassembly] at member
      obtain ⟨cell, _, rfl⟩ := List.mem_map.1 member
      rcases mem_disassemblyRow inRow with rfl | isWordByte
      · decide
      · exact isWordByte.1.1
    · rw [rawLines_hex, Memory.rawLines_disassembly, hexRows_eq_take]
  · refine ⟨program.memory.used, ?_, program.memory.zero_storeAll_used⟩
    rw [rawLines_hex, mapM_readHexRow?]

/-- A word at the last address, and one that is no instruction. -/
theorem hex_agrees_with_disassembly_last :
    let program : Program :=
      ⟨(Memory.zero.set 0xFFF 0x7800 (by decide)).set 0x00A 0xFFFF (by decide), .empty, #[]⟩
    let files : FileSystem := { nodes := [([Bytes.ofString "image"], .file program.binary)] }
    files.open? (Bytes.ofString "image") = .ok { content := program.binary } ∧
      ∃ output, (disassemblePlan (Bytes.ofString "image")).run files =
          (files, { output := output }) ∧
        Source.rawLines program.hex = (Source.rawLines output).map (·.take 9) ∧
        ∃ cells, (Source.rawLines program.hex).mapM Memory.readHexRow? = some cells ∧
          Memory.zero.storeAll cells = program.memory := by
  intro program files
  have found : files.open? (Bytes.ofString "image") = .ok { content := program.binary } := rfl
  obtain ⟨agrees, stored⟩ := hex_agrees_with_disassembly program
  obtain ⟨output, run, _, rows⟩ := agrees files (Bytes.ofString "image") _ found rfl
  exact ⟨found, output, run, rows, stored⟩

end Program

end BasicComputer
