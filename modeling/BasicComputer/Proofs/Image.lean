import BasicComputer.Machine.Memory

/-!
Contract: the words of memory that are not zero, and the image of memory.

Owns which cells `Memory.used` lists and in which order, that they are enough to
store memory again (`zero_storeAll_used`), and that writing and reading an image are
inverse to each other (`read_inverse_binary`), however the input ends.
-/

namespace BasicComputer.Memory

/-- Exactly the words that are not zero are listed, each with its address. -/
theorem mem_used_iff (memory : Memory) (address : Nat) (word : Word) :
    (address, word) ∈ memory.used ↔
      ∃ inside : address < memorySize, memory[address] = word ∧ word ≠ 0 := by
  have listed : (address, word) ∈ memory.used ↔
      memory.toList[address]? = some word ∧ word ≠ 0 := by
    unfold used
    rw [List.mem_filterMap]
    constructor
    · rintro ⟨⟨cell, position⟩, member, kept⟩
      have found := List.mk_mem_zipIdx_iff_getElem?.1 member
      by_cases zero : cell = 0
      · simp [zero] at kept
      · simp only [zero, ↓reduceIte, Option.some.injEq, Prod.mk.injEq] at kept
        obtain ⟨rfl, rfl⟩ := kept
        exact ⟨found, zero⟩
    · rintro ⟨found, nonzero⟩
      refine ⟨(word, address), List.mk_mem_zipIdx_iff_getElem?.2 found, ?_⟩
      simp [nonzero]
  rw [listed, Vector.getElem?_toList]
  constructor
  · rintro ⟨found, nonzero⟩
    obtain ⟨inside, equal⟩ := Vector.getElem?_eq_some_iff.1 found
    exact ⟨inside, equal, nonzero⟩
  · rintro ⟨inside, equal, nonzero⟩
    exact ⟨Vector.getElem?_eq_some_iff.2 ⟨inside, equal⟩, nonzero⟩

/-- The addresses that are listed ascend. -/
theorem used_ascending (memory : Memory) :
    memory.used.Pairwise fun left right => left.1 < right.1 := by
  have positions : memory.toList.zipIdx.Pairwise fun left right => left.2 < right.2 := by
    rw [← List.pairwise_map, List.zipIdx_map_snd]
    exact List.pairwise_lt_range'
  unfold used
  refine positions.filterMap _ fun left right less first found second foundSecond => ?_
  obtain ⟨leftWord, leftPosition⟩ := left
  obtain ⟨rightWord, rightPosition⟩ := right
  by_cases leftZero : leftWord = 0
  · simp [leftZero] at found
  · by_cases rightZero : rightWord = 0
    · simp [rightZero] at foundSecond
    · simp only [leftZero, rightZero, ↓reduceIte, Option.some.injEq] at found foundSecond
      rw [← found, ← foundSecond]
      exact less

/-! ### Storing words -/

/-- Memory after words are stored at their addresses, one after the other. -/
def storeAll (memory : Memory) (cells : List (Nat × Word)) : Memory :=
  cells.foldl (fun memory cell => memory.setIfInBounds cell.1 cell.2) memory

theorem storeAll_cons (memory : Memory) (cell : Nat × Word) (rest : List (Nat × Word)) :
    memory.storeAll (cell :: rest) = storeAll (memory.setIfInBounds cell.1 cell.2) rest := rfl

theorem set_eq_setIfInBounds (memory : Memory) (word : Word) {address : Nat}
    (inside : address < memorySize) :
    memory.set address word inside = memory.setIfInBounds address word := by
  apply Vector.ext
  intro other otherInside
  rw [Vector.getElem_set, Vector.getElem_setIfInBounds]

theorem getElem_storeAll_of_untouched {cells : List (Nat × Word)} {address : Nat}
    (untouched : ∀ cell ∈ cells, cell.1 ≠ address) (memory : Memory)
    (inside : address < memorySize) : (memory.storeAll cells)[address] = memory[address] := by
  induction cells generalizing memory with
  | nil => rfl
  | cons cell rest inductionHypothesis =>
      have later := inductionHypothesis
        (fun other member => untouched other (List.mem_cons_of_mem cell member))
        (memory.setIfInBounds cell.1 cell.2)
      rw [Vector.getElem_setIfInBounds_ne inside (untouched cell List.mem_cons_self)] at later
      exact later

theorem getElem_storeAll_of_mem {cells : List (Nat × Word)}
    (ascending : cells.Pairwise fun left right => left.1 < right.1) {address : Nat} {word : Word}
    (member : (address, word) ∈ cells) (memory : Memory) (inside : address < memorySize) :
    (memory.storeAll cells)[address] = word := by
  induction cells generalizing memory with
  | nil => cases member
  | cons cell rest inductionHypothesis =>
      obtain ⟨first, restAscending⟩ := List.pairwise_cons.1 ascending
      rcases List.mem_cons.1 member with rfl | later
      · have kept : ∀ other ∈ rest, other.1 ≠ address :=
          fun other among => Nat.ne_of_gt (first other among)
        rw [storeAll_cons, getElem_storeAll_of_untouched kept _ inside]
        exact Vector.getElem_setIfInBounds_self inside
      · exact inductionHypothesis restAscending later (memory.setIfInBounds cell.1 cell.2)

/-- Memory is what its used words make of empty memory. -/
theorem zero_storeAll_used (memory : Memory) : zero.storeAll memory.used = memory := by
  apply Vector.ext
  intro address inside
  by_cases isZero : memory[address] = 0
  · have untouched : ∀ cell ∈ memory.used, cell.1 ≠ address := by
      rintro ⟨other, word⟩ member rfl
      obtain ⟨_, equal, nonzero⟩ := (mem_used_iff memory other word).1 member
      exact nonzero (equal.symm.trans isZero)
    rw [getElem_storeAll_of_untouched untouched zero inside, isZero]
    exact Vector.getElem_replicate inside
  · have listed := (mem_used_iff memory address memory[address]).2 ⟨inside, rfl, isZero⟩
    exact getElem_storeAll_of_mem memory.used_ascending listed zero inside

/-! ### Images -/

private theorem wordBytes_pair (high low : UInt8) :
    wordBytes (UInt16.ofNat (high.toNat * 256 + low.toNat)) = [high, low] := by
  have highSmall := high.toNat_lt
  have lowSmall := low.toNat_lt
  have small : (high.toNat * 256 + low.toNat) % 65536 = high.toNat * 256 + low.toNat := by
    omega
  have highPart : (high.toNat * 256 + low.toNat) / 256 = high.toNat := by
    omega
  have lowPart : (high.toNat * 256 + low.toNat) % 256 = low.toNat := by
    omega
  unfold wordBytes
  rw [UInt16.toNat_ofNat', small, highPart, lowPart, UInt8.ofNat_toNat, UInt8.ofNat_toNat]

private theorem flatMap_wordsOf {image : Bytes} (even : image.length % 2 = 0) :
    (wordsOf image).flatMap wordBytes = image := by
  fun_induction wordsOf image with
  | case1 high low rest inductionHypothesis =>
      rw [List.length_cons, List.length_cons] at even
      rw [List.flatMap_cons, wordBytes_pair, inductionHypothesis (by omega)]
      rfl
  | case2 image notPair =>
      rcases image with _ | ⟨high, _ | ⟨low, rest⟩⟩
      · rfl
      · simp at even
      · exact absurd rfl (notPair high low rest)

/-- An image of the right size is read, and it is the image of the result. -/
theorem read_of_size {image : Bytes} (size : image.length = imageSize) :
    ∃ memory, (∀ failure, read image failure = .ok memory) ∧ memory.binary = image := by
  refine ⟨_, fun _ => dif_pos size, ?_⟩
  have even : image.length % 2 = 0 := by
    rw [size]
    rfl
  exact flatMap_wordsOf even

private theorem wordsOf_wordBytes_append (word : Word) (rest : Bytes) :
    wordsOf (wordBytes word ++ rest) = word :: wordsOf rest := by
  have below := word.toNat_lt
  have highPart : (UInt8.ofNat (word.toNat / 256)).toNat = word.toNat / 256 := by
    rw [UInt8.toNat_ofNat']
    omega
  have lowPart : (UInt8.ofNat (word.toNat % 256)).toNat = word.toNat % 256 := by
    rw [UInt8.toNat_ofNat']
    omega
  have whole : word.toNat / 256 * 256 + word.toNat % 256 = word.toNat := by
    omega
  rw [wordBytes, List.cons_append, List.singleton_append, wordsOf, highPart, lowPart, whole,
    UInt16.ofNat_toNat]

private theorem wordsOf_flatMap (words : List Word) :
    wordsOf (words.flatMap wordBytes) = words := by
  induction words with
  | nil => rfl
  | cons word rest inductionHypothesis =>
      rw [List.flatMap_cons, wordsOf_wordBytes_append, inductionHypothesis]

private theorem getElem?_flatMap_wordBytes (words : List Word) (index : Nat) :
    (words.flatMap wordBytes)[2 * index]? =
        words[index]?.map (fun word => UInt8.ofNat (word.toNat / 256)) ∧
      (words.flatMap wordBytes)[2 * index + 1]? =
        words[index]?.map fun word => UInt8.ofNat (word.toNat % 256) := by
  induction words generalizing index with
  | nil => simp
  | cons word rest inductionHypothesis =>
      cases index with
      | zero => exact ⟨rfl, rfl⟩
      | succ index => exact inductionHypothesis index

private theorem length_flatMap_wordBytes (words : List Word) :
    (words.flatMap wordBytes).length = 2 * words.length := by
  induction words with
  | nil => rfl
  | cons word rest inductionHypothesis =>
      rw [List.flatMap_cons, List.length_append, inductionHypothesis, List.length_cons]
      change 2 + 2 * rest.length = 2 * (rest.length + 1)
      omega

theorem length_binary (memory : Memory) : memory.binary.length = imageSize := by
  rw [binary, length_flatMap_wordBytes, Vector.length_toList]
  rfl

/-- The two bytes of an address stand at its double, the high one first. -/
theorem getElem?_binary (memory : Memory) {address : Nat} (inside : address < memorySize) :
    memory.binary[2 * address]? = some (UInt8.ofNat (memory[address].toNat / 256)) ∧
      memory.binary[2 * address + 1]? = some (UInt8.ofNat (memory[address].toNat % 256)) := by
  have cell : memory.toList[address]? = some memory[address] := by
    rw [Vector.getElem?_toList]
    exact Vector.getElem?_eq_getElem inside
  have bytes := getElem?_flatMap_wordBytes memory.toList address
  rw [cell] at bytes
  exact bytes

theorem read_binary (memory : Memory) (failure : Option Bytes) :
    read memory.binary failure = .ok memory := by
  unfold read
  rw [dif_pos memory.length_binary]
  congr 1
  apply Vector.toList_inj.1
  exact wordsOf_flatMap memory.toList

theorem read_of_shorter {image : Bytes} (short : image.length < imageSize) :
    read image none = .error (.plain .imageSize) ∧
      ∀ message, read image (some message) = .error (.external message) := by
  unfold read
  simp only [Nat.ne_of_lt short, short, ↓reduceDIte, ↓reduceIte, implies_true, and_self]

theorem read_of_longer {image : Bytes} (long : imageSize < image.length)
    (failure : Option Bytes) : read image failure = .error (.plain .imageSize) := by
  unfold read
  rw [dif_neg (Nat.ne_of_gt long), if_neg (Nat.lt_asymm long)]

/-- What was read is written as the image it was read from. -/
theorem binary_of_read {image : Bytes} {failure : Option Bytes} {memory : Memory}
    (succeeded : read image failure = .ok memory) :
    image.length = imageSize ∧ memory.binary = image := by
  rcases Nat.lt_trichotomy image.length imageSize with short | size | long
  · obtain ⟨ended, failed⟩ := read_of_shorter short
    cases failure with
    | none => simp [ended] at succeeded
    | some message => simp [failed] at succeeded
  · obtain ⟨other, succeeds, written⟩ := read_of_size size
    rw [succeeds] at succeeded
    cases succeeded
    exact ⟨size, written⟩
  · simp [read_of_longer long] at succeeded

/-- Memory is read back from its image, and an image is written back from what was read.
Nothing but an image of the right size can be read: with too few bytes the failure of the
input is reported if there is one, with too many its size, and behind a whole image a failure
is not noticed. -/
theorem read_inverse_binary :
    (∀ memory : Memory, memory.binary.length = imageSize ∧
        (∀ address (inside : address < memorySize),
          memory.binary[2 * address]? = some (UInt8.ofNat (memory[address].toNat / 256)) ∧
            memory.binary[2 * address + 1]? =
              some (UInt8.ofNat (memory[address].toNat % 256))) ∧
        ∀ failure, read memory.binary failure = .ok memory) ∧
      ∀ image : Bytes,
        ((∃ memory, read image none = .ok memory) ↔ image.length = imageSize) ∧
          (∀ failure memory, read image failure = .ok memory → memory.binary = image) ∧
          (image.length ≠ imageSize → read image none = .error (.plain .imageSize)) ∧
          ∀ message,
            (image.length < imageSize → read image (some message) = .error (.external message)) ∧
              (imageSize < image.length →
                read image (some message) = .error (.plain .imageSize)) ∧
              (image.length = imageSize →
                ∃ memory, read image none = .ok memory ∧
                  read image (some message) = .ok memory) := by
  constructor
  · intro memory
    exact ⟨memory.length_binary, fun _ => memory.getElem?_binary, memory.read_binary⟩
  · intro image
    refine ⟨⟨?_, ?_⟩, fun _ _ succeeded => (binary_of_read succeeded).2, ?_, fun message =>
      ⟨fun short => (read_of_shorter short).2 message, fun long => read_of_longer long _, ?_⟩⟩
    · rintro ⟨memory, succeeded⟩
      exact (binary_of_read succeeded).1
    · intro size
      obtain ⟨memory, succeeds, _⟩ := read_of_size size
      exact ⟨memory, succeeds none⟩
    · intro differs
      rcases Nat.lt_or_gt_of_ne differs with short | long
      · exact (read_of_shorter short).1
      · exact read_of_longer long none
    · intro size
      obtain ⟨memory, succeeds, _⟩ := read_of_size size
      exact ⟨memory, succeeds none, succeeds (some message)⟩

/-- One byte too few, exactly enough and one byte too many, in front of a failing input. -/
theorem read_inverse_binary_sizes :
    let bytes (count : Nat) : Bytes := List.replicate count 7
    let message : Bytes := Bytes.ofString "broken"
    ((bytes 8191).length < imageSize ∧
        read (bytes 8191) (some message) = .error (.external message)) ∧
      ((bytes 8192).length = imageSize ∧
        ∃ memory, read (bytes 8192) (some message) = .ok memory ∧
          memory.binary = bytes 8192) ∧
      (imageSize < (bytes 8193).length ∧
        read (bytes 8193) (some message) = .error (.plain .imageSize)) := by
  intro bytes message
  have count : ∀ size, (bytes size).length = size := fun _ => List.length_replicate
  have short : (bytes 8191).length < imageSize := by
    rw [count]
    decide
  have size : (bytes 8192).length = imageSize := count 8192
  have long : imageSize < (bytes 8193).length := by
    rw [count]
    decide
  obtain ⟨_, written, _, failing⟩ := read_inverse_binary.2 (bytes 8192)
  obtain ⟨memory, _, succeeds⟩ := (failing message).2.2 size
  refine ⟨⟨short, ?_⟩, ⟨size, memory, succeeds, written _ memory succeeds⟩, long, ?_⟩
  · exact ((read_inverse_binary.2 (bytes 8191)).2.2.2 message).1 short
  · exact ((read_inverse_binary.2 (bytes 8193)).2.2.2 message).2.1 long

end BasicComputer.Memory
