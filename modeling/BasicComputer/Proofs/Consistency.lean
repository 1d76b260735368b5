import BasicComputer.Proofs.Image
import BasicComputer.Proofs.LineForm
import BasicComputer.Proofs.Run

/-!
Contract: memory and the list of emitted words tell the same story.

Owns:
- the invariant of an assembler (`Consistent`), kept by every line and every call;
- what follows for a program: the entry of an address explains the word there, and
  the words that are not zero are the last ones emitted.

The invariant does not depend on how a source ends, so it holds after failures too.
-/

namespace BasicComputer

/-- An entry is the last one of an address. -/
def Entry.LastAt (entries : List Entry) (address : Nat) (entry : Entry) : Prop :=
  ∃ before after, entries = before ++ entry :: after ∧ entry.address.toNat = address ∧
    ∀ later ∈ after, later.address.toNat ≠ address

/-- Memory holds the last word emitted at each address, and zero elsewhere. -/
structure Memory.Records (memory : Memory) (entries : List Entry) : Prop where
  last : ∀ address (inside : address < memorySize) entry,
    Entry.LastAt entries address entry → memory[address] = entry.word
  untouched : ∀ address (inside : address < memorySize),
    (∀ entry ∈ entries, entry.address.toNat ≠ address) → memory[address] = 0

/-! ### Last entries -/

namespace Entry

theorem LastAt.mem {entries : List Entry} {address : Nat} {entry : Entry}
    (last : LastAt entries address entry) : entry ∈ entries := by
  obtain ⟨before, after, rfl, _, _⟩ := last
  simp

/-- An address that occurs has a last entry. -/
theorem exists_lastAt {entries : List Entry} {address : Nat}
    (occurs : ∃ entry ∈ entries, entry.address.toNat = address) :
    ∃ entry, LastAt entries address entry := by
  obtain ⟨entry, member, atAddress⟩ := occurs
  have found : (entries.reverse.find? fun entry => entry.address.toNat == address).isSome := by
    rw [List.find?_isSome]
    exact ⟨entry, List.mem_reverse.2 member, by simpa using atAddress⟩
  obtain ⟨last, foundLast⟩ := Option.isSome_iff_exists.1 found
  obtain ⟨atLast, after, before, split, none⟩ := List.find?_eq_some_iff_append.1 foundLast
  refine ⟨last, before.reverse, after.reverse, ?_, by simpa using atLast, ?_⟩
  · have reversed := congrArg List.reverse split
    simpa using reversed
  · intro later member
    simpa using none later (List.mem_reverse.1 member)

/-- A new entry is the last one of its address and leaves the others. -/
theorem lastAt_append {entries : List Entry} {new entry : Entry} {address : Nat} :
    LastAt (entries ++ [new]) address entry ↔
      (new.address.toNat = address ∧ entry = new) ∨
        (new.address.toNat ≠ address ∧ LastAt entries address entry) := by
  constructor
  · rintro ⟨before, after, split, atAddress, none⟩
    rcases List.eq_nil_or_concat after with rfl | ⟨front, final, rfl⟩
    · have ⟨_, same⟩ := List.append_inj' split rfl
      rw [List.singleton_inj] at same
      subst same
      exact .inl ⟨atAddress, rfl⟩
    · rw [List.concat_eq_append, ← List.cons_append, ← List.append_assoc] at split
      have ⟨front, same⟩ := List.append_inj' split rfl
      rw [List.singleton_inj] at same
      subst same
      refine .inr ⟨none new (by simp), before, _, front, atAddress, ?_⟩
      intro later member
      exact none later (by simp [member])
  · rintro (⟨atAddress, rfl⟩ | ⟨different, before, after, rfl, atAddress, none⟩)
    · exact ⟨entries, [], rfl, atAddress, by simp⟩
    · refine ⟨before, after ++ [new], by simp, atAddress, ?_⟩
      intro later member
      rcases List.mem_append.1 member with old | isNew
      · exact none later old
      · rw [List.mem_singleton.1 isNew]
        exact different

end Entry

/-- Storing a word at its address keeps memory and entries in step. -/
theorem Memory.Records.store {memory : Memory} {entries : List Entry}
    (records : memory.Records entries) {new : Entry} {address : Nat}
    (fits : address < memorySize) (atAddress : new.address.toNat = address) :
    Memory.Records (memory.set address new.word fits) (entries ++ [new]) where
  last := by
    intro other inside entry last
    rcases Entry.lastAt_append.1 last with ⟨same, rfl⟩ | ⟨different, earlier⟩
    · have position : address = other := atAddress.symm.trans same
      subst position
      exact Vector.getElem_set_self fits
    · rw [Vector.getElem_set_ne _ _ (fun same => different (atAddress.trans same))]
      exact records.last other inside entry earlier
  untouched := by
    intro other inside none
    have different : address ≠ other := by
      intro same
      exact none new (by simp) (atAddress.trans same)
    rw [Vector.getElem_set_ne _ _ different]
    exact records.untouched other inside fun entry member => none entry (by simp [member])

theorem Memory.zero_records : Memory.zero.Records [] where
  last := by
    intro address inside entry last
    exact absurd last.mem List.not_mem_nil
  untouched := by
    intro address inside _
    exact Vector.getElem_replicate inside

/-! ### The invariant -/

namespace Assembler

/-- The state of an assembler hangs together. -/
structure Consistent (assembler : Assembler) : Prop where
  cursor_le : assembler.cursor ≤ memorySize
  /-- The cursor is not cut short when it is taken as an address. -/
  cursor_exact : (UInt16.ofNat assembler.cursor).toNat = assembler.cursor
  address_lt : ∀ entry ∈ assembler.entries.toList, entry.address.toNat < memorySize
  numbers_ascend : assembler.entries.toList.Pairwise fun earlier later =>
    earlier.lineNumber < later.lineNumber
  records : assembler.memory.Records assembler.entries.toList

theorem toNat_ofNat_of_le {address : Nat} (inside : address ≤ memorySize) :
    (UInt16.ofNat address).toNat = address := by
  rw [UInt16.toNat_ofNat']
  apply Nat.mod_eq_of_lt
  unfold memorySize at inside
  omega

theorem consistent_reset (assembler : Assembler) : assembler.reset.Consistent where
  cursor_le := Nat.zero_le memorySize
  cursor_exact := rfl
  address_lt := fun _ member => absurd member List.not_mem_nil
  numbers_ascend := .nil
  records := Memory.zero_records

/-- The invariant is about entries, memory and the cursor only. -/
theorem Consistent.frame {assembler other : Assembler} (consistent : assembler.Consistent)
    (entries : other.entries = assembler.entries) (memory : other.memory = assembler.memory)
    (inside : other.cursor ≤ memorySize) : other.Consistent where
  cursor_le := inside
  cursor_exact := toNat_ofNat_of_le inside
  address_lt := by
    rw [entries]
    exact consistent.address_lt
  numbers_ascend := by
    rw [entries]
    exact consistent.numbers_ascend
  records := by
    rw [entries, memory]
    exact consistent.records

/-- Emitting a word on a line behind all earlier ones keeps the invariant. -/
theorem Consistent.emit {assembler : Assembler} (consistent : assembler.Consistent)
    {labels : Labels} {new : Entry} (fits : assembler.cursor < memorySize)
    (atCursor : new.address = UInt16.ofNat assembler.cursor)
    (behind : ∀ entry ∈ assembler.entries.toList, entry.lineNumber < new.lineNumber) :
    Consistent
      { assembler with
        labels := labels
        entries := assembler.entries.push new
        cursor := assembler.cursor + 1
        memory := assembler.memory.set assembler.cursor new.word fits } where
  cursor_le := fits
  cursor_exact := toNat_ofNat_of_le fits
  address_lt := by
    intro entry member
    rw [Array.toList_push, List.mem_append, List.mem_singleton] at member
    rcases member with old | rfl
    · exact consistent.address_lt entry old
    · rw [atCursor, consistent.cursor_exact]
      exact fits
  numbers_ascend := by
    rw [Array.toList_push, List.pairwise_append]
    refine ⟨consistent.numbers_ascend, List.pairwise_singleton _ _, ?_⟩
    intro earlier member later isNew
    rw [List.mem_singleton.1 isNew]
    exact behind earlier member
  records := by
    rw [Array.toList_push]
    exact consistent.records.store fits (by rw [atCursor, consistent.cursor_exact])

/-- A run is consistent, and its entries come from lines already read. -/
structure Progress.Sound (progress : Progress) : Prop where
  consistent : progress.assembler.Consistent
  read : ∀ entry ∈ progress.assembler.entries.toList, entry.lineNumber ≤ progress.number

theorem Progress.sound_begin (assembler : Assembler) : assembler.begin.Sound where
  consistent := consistent_reset assembler
  read := fun _ member => absurd member List.not_mem_nil

/-- Every line keeps the invariant, whatever becomes of it. -/
theorem Progress.Sound.next {progress : Progress} (sound : progress.Sound) (text : Bytes) :
    (progress.next text).1.Sound := by
  have move := progress.next_move text
  have numberNext := progress.next_number text
  -- the entries that were there stay on lines already read
  have older : ∀ entry ∈ progress.assembler.entries.toList,
      entry.lineNumber < progress.number + 1 :=
    fun entry member => Nat.lt_succ_of_le (sound.read entry member)
  suffices kept : (progress.next text).1.assembler.Consistent ∧
      ∀ entry ∈ (progress.next text).1.assembler.entries.toList,
        entry.lineNumber < progress.number + 1 + 1 from
    ⟨kept.1, fun entry member => Nat.le_of_lt_succ (numberNext ▸ kept.2 entry member)⟩
  have olderStill : ∀ entry ∈ progress.assembler.entries.toList,
      entry.lineNumber < progress.number + 1 + 1 :=
    fun entry member => Nat.lt_succ_of_lt (older entry member)
  generalize (progress.next text).1.assembler = reached at move ⊢
  generalize (progress.next text).2 = verdict at move
  cases move with
  | unreadable parsed => exact ⟨sound.consistent, olderStill⟩
  | nothing parsed => exact ⟨sound.consistent, olderStill⟩
  | origin parsed =>
      have inside := Nat.le_of_lt (Line.origin_lt parsed)
      exact ⟨sound.consistent.frame rfl rfl inside, olderStill⟩
  | finish parsed => exact ⟨sound.consistent, olderStill⟩
  | duplicate parsed refused => exact ⟨sound.consistent, olderStill⟩
  | full parsed accepts above =>
      exact ⟨sound.consistent.frame rfl rfl sound.consistent.cursor_le, olderStill⟩
  | unencodable parsed accepts fits refused =>
      exact ⟨sound.consistent.frame rfl rfl sound.consistent.cursor_le, olderStill⟩
  | broken parsed accepts fits breaks =>
      exact ⟨sound.consistent.frame rfl rfl sound.consistent.cursor_le, olderStill⟩
  | emitted parsed accepts fits encoded =>
      refine ⟨sound.consistent.emit fits rfl older, ?_⟩
      intro entry member
      rw [Array.toList_push, List.mem_append, List.mem_singleton] at member
      rcases member with old | rfl
      · exact olderStill entry old
      · exact Nat.lt_succ_self _

/-- After any lines of a source the assembler is consistent. -/
theorem consistent_over (assembler : Assembler) (lines : List Bytes) :
    (assembler.begin.over lines).1.assembler.Consistent := by
  have sound : (assembler.begin.over lines).1.Sound :=
    Progress.over_induction (motive := Progress.Sound) (fun _ text kept => kept.next text)
      (Progress.sound_begin assembler) lines
  exact sound.consistent

/-! ### Sessions -/

/-- A call on an assembler. -/
inductive Request where
  | predefine (name : Bytes) (address : Word)
  | assemble (source : Source)

/-- The state that a call leaves. -/
def perform (assembler : Assembler) : Request → Assembler
  | .predefine name address => assembler.predefine name address
  | .assemble source => (assembler.assemble source).assembler

/-- The state of a new assembler after a sequence of calls. -/
def performAll (requests : List Request) : Assembler :=
  requests.foldl perform {}

theorem Consistent.perform {assembler : Assembler} (consistent : assembler.Consistent)
    (request : Request) : (assembler.perform request).Consistent := by
  cases request with
  | predefine name address => exact consistent.frame rfl rfl consistent.cursor_le
  | assemble source =>
      change (assembler.assemble source).assembler.Consistent
      rw [assemble_assembler]
      exact consistent_over assembler source.texts

theorem consistent_performAll (requests : List Request) : (performAll requests).Consistent := by
  have kept : ∀ assembler : Assembler, assembler.Consistent →
      (requests.foldl Assembler.perform assembler).Consistent := by
    induction requests with
    | nil => exact fun _ consistent => consistent
    | cons request rest inductionHypothesis =>
        intro assembler consistent
        exact inductionHypothesis _ (consistent.perform request)
  exact kept {} (consistent_reset {})

end Assembler

/-! ### Programs -/

namespace Program

/-- What is found for an address is its last entry. -/
theorem debug_eq_some_iff (program : Program) (address : Word) (entry : Entry) :
    program.debug address = some entry ↔
      Entry.LastAt program.entries.toList address.toNat entry := by
  unfold debug
  rw [List.find?_eq_some_iff_append]
  constructor
  · rintro ⟨atAddress, after, before, split, none⟩
    have reversed := congrArg List.reverse split
    refine ⟨before.reverse, after.reverse, by simpa using reversed, ?_, ?_⟩
    · rw [beq_iff_eq.1 atAddress]
    · intro later member same
      have different := none later (List.mem_reverse.1 member)
      simp [UInt16.toNat_inj.1 same] at different
  · rintro ⟨before, after, split, atAddress, none⟩
    refine ⟨beq_iff_eq.2 (UInt16.toNat_inj.1 atAddress), after.reverse, before.reverse, ?_, ?_⟩
    · rw [split]
      simp
    · intro later member
      have different := none later (List.mem_reverse.1 member)
      simpa using fun same : later.address = address => different (same ▸ rfl)

theorem debug_eq_none_iff (program : Program) (address : Word) :
    program.debug address = none ↔
      ∀ entry ∈ program.entries.toList, entry.address.toNat ≠ address.toNat := by
  unfold debug
  rw [List.find?_eq_none]
  constructor
  · intro none entry member same
    exact none entry (List.mem_reverse.2 member) (beq_iff_eq.2 (UInt16.toNat_inj.1 same))
  · intro none entry member same
    exact none entry (List.mem_reverse.1 member) (beq_iff_eq.1 same ▸ rfl)

/-- The entries of a program explain its memory. -/
structure Explained (program : Program) : Prop where
  memory_eq : ∀ address (inside : address < memorySize),
    program.memory[address] =
      match program.debug (UInt16.ofNat address) with
      | some entry => entry.word
      | none => 0
  debug_outside : ∀ address : Word, memorySize ≤ address.toNat → program.debug address = none
  used_ascending : program.memory.used.Pairwise fun left right => left.1 < right.1
  mem_used_iff : ∀ address word, (address, word) ∈ program.memory.used ↔
    ∃ entry, Entry.LastAt program.entries.toList address entry ∧ entry.word = word ∧ word ≠ 0

theorem explained_of_records {program : Program}
    (records : program.memory.Records program.entries.toList)
    (address_lt : ∀ entry ∈ program.entries.toList, entry.address.toNat < memorySize) :
    program.Explained where
  memory_eq := by
    intro address inside
    have exact : (UInt16.ofNat address).toNat = address :=
      Assembler.toNat_ofNat_of_le (Nat.le_of_lt inside)
    split
    · next entry found =>
        have last := (debug_eq_some_iff program _ entry).1 found
        rw [exact] at last
        exact records.last address inside entry last
    · next missing =>
        have none := (debug_eq_none_iff program _).1 missing
        rw [exact] at none
        exact records.untouched address inside none
  debug_outside := by
    intro address outside
    rw [debug_eq_none_iff]
    intro entry member same
    have inside := address_lt entry member
    omega
  used_ascending := program.memory.used_ascending
  mem_used_iff := by
    intro address word
    rw [Memory.mem_used_iff]
    constructor
    · rintro ⟨inside, rfl, nonzero⟩
      -- a word that is not zero was emitted
      have occurs : ∃ entry ∈ program.entries.toList, entry.address.toNat = address := by
        by_cases none : ∀ entry ∈ program.entries.toList, entry.address.toNat ≠ address
        · exact absurd (records.untouched address inside none) nonzero
        · simpa using none
      obtain ⟨entry, last⟩ := Entry.exists_lastAt occurs
      exact ⟨entry, last, (records.last address inside entry last).symm, nonzero⟩
    · rintro ⟨entry, last, rfl, nonzero⟩
      have inside : address < memorySize := by
        have atAddress := last
        obtain ⟨_, _, _, same, _⟩ := atAddress
        rw [← same]
        exact address_lt entry last.mem
      exact ⟨inside, records.last address inside entry last, nonzero⟩

end Program

/-- In every session, after every call and after every line of the next source, the
assembler is consistent, and the entries of every program explain its memory. -/
theorem Assembler.session_consistent (requests : List Request) (source : Source) (count : Nat) :
    (performAll requests).Consistent ∧
      ((performAll requests).begin.over (source.texts.take count)).1.assembler.Consistent ∧
      ∀ program, ((performAll requests).assemble source).result = .ok program →
        program.Explained := by
  refine ⟨consistent_performAll requests, consistent_over _ _, ?_⟩
  intro program succeeded
  have final := consistent_over (performAll requests) source.texts
  rw [← assemble_assembler] at final
  rw [assemble_program succeeded]
  exact Program.explained_of_records final.records final.address_lt

/-- After a failed source, a word that is written twice has its last value. -/
theorem Assembler.session_consistent_rewritten :
    let requests : List Request := [.predefine (Bytes.ofString "P") 5,
      .assemble (Source.read (Bytes.ofString "CLA\nLDA Q\n") none)]
    let source := Source.read (Bytes.ofString "HEX 7\nLDA P\nORG 0\nHEX 0\n") none
    ∃ program, ((performAll requests).assemble source).result = .ok program ∧
      program.Explained := by
  intro requests source
  exact ⟨_, rfl, (session_consistent requests source 0).2.2 _ rfl⟩

end BasicComputer
