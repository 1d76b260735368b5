import BasicComputer.Assembly.Program
import BasicComputer.Assembly.Source
import Mathlib.Data.List.TakeWhile

/-!
Contract: what reading makes of a text, line by line.

Owns:
- the lines of a text, said without a reader (`rawLines`, `linesOf`), and those of
  them that reading delivers (`delivered`);
- that reading gives exactly these lines, and ends at the first one that is too long;
- how a text of complete lines is read with any other text behind it.

Does not own what is done with the lines.
-/

namespace BasicComputer.Source

/-- The lines of a text without their line feeds. Text after the last line feed is
a line too, unless it is empty. -/
def rawLines : Bytes → List Bytes
  | [] => []
  | byte :: rest =>
      if byte = 0x0A then [] :: rawLines rest
      else
        match rawLines rest with
        | [] => [[byte]]
        | line :: lines => (byte :: line) :: lines

/-- A line without one carriage return at its end. -/
def dropReturn (line : Bytes) : Bytes :=
  if line.getLast? = some 0x0D then line.dropLast else line

/-- The lines of a text as they are processed. -/
def linesOf (text : Bytes) : List Bytes :=
  (rawLines text).map dropReturn

/-- Whether reading delivers a line. -/
def isShort (line : Bytes) : Bool :=
  line.length < lineLimit

/-- The lines of a text that are delivered: those before the first one that is too
long. A carriage return counts, although it is not delivered. -/
def delivered (text : Bytes) : List Bytes :=
  ((rawLines text).takeWhile isShort).map dropReturn

/-- Whether every line of a text is ended by a line feed. -/
def EndsLine (text : Bytes) : Prop :=
  text = [] ∨ text.getLast? = some 0x0A

/-- All lines of a source, the unfinished one included. -/
def texts (source : Source) : List Bytes :=
  source.lines ++ source.tail.toList

/-- The beginning of a text that consists of its first lines, with their line feeds. -/
def firstLines : Nat → Bytes → Bytes
  | 0, _ => []
  | _ + 1, [] => []
  | count + 1, byte :: rest =>
      if byte = 0x0A then byte :: firstLines count rest
      else byte :: firstLines (count + 1) rest

/-! ### Lines of a text -/

/-- Induction on the lines of a text. -/
theorem line_induction {motive : Bytes → Prop}
    (last : ∀ line, 0x0A ∉ line → motive line)
    (more : ∀ line rest, 0x0A ∉ line → motive rest → motive (line ++ 0x0A :: rest))
    (text : Bytes) : motive text := by
  by_cases feed : 0x0A ∈ text
  · obtain ⟨line, rest, split, noFeed⟩ := List.eq_append_cons_of_mem feed
    have shorter : rest.length < text.length := by
      rw [split, List.length_append, List.length_cons]
      omega
    rw [split]
    exact more line rest noFeed (line_induction last more rest)
  · exact last text feed
termination_by text.length

theorem rawLines_append_feed {line : Bytes} (noFeed : 0x0A ∉ line) (rest : Bytes) :
    rawLines (line ++ 0x0A :: rest) = line :: rawLines rest := by
  induction line with
  | nil => simp [rawLines]
  | cons byte line inductionHypothesis =>
      have ⟨notFeed, tailNoFeed⟩ := List.ne_and_not_mem_of_not_mem_cons noFeed
      rw [List.cons_append, rawLines, if_neg (Ne.symm notFeed), inductionHypothesis tailNoFeed]

theorem rawLines_of_noFeed {line : Bytes} (noFeed : 0x0A ∉ line) (nonempty : line ≠ []) :
    rawLines line = [line] := by
  induction line with
  | nil => contradiction
  | cons byte line inductionHypothesis =>
      have ⟨notFeed, tailNoFeed⟩ := List.ne_and_not_mem_of_not_mem_cons noFeed
      rw [rawLines, if_neg (Ne.symm notFeed)]
      by_cases empty : line = []
      · rw [empty, rawLines]
      · rw [inductionHypothesis tailNoFeed empty]

theorem noFeed_of_mem_rawLines {text line : Bytes} (member : line ∈ rawLines text) :
    0x0A ∉ line := by
  induction text using line_induction with
  | last whole noFeed =>
      by_cases empty : whole = []
      · rw [empty] at member
        cases member
      · rw [rawLines_of_noFeed noFeed empty, List.mem_singleton] at member
        rwa [member]
  | more first rest noFeed inductionHypothesis =>
      rw [rawLines_append_feed noFeed, List.mem_cons] at member
      rcases member with rfl | later
      · exact noFeed
      · exact inductionHypothesis later

theorem linesOf_append_feed {line : Bytes} (noFeed : 0x0A ∉ line) (rest : Bytes) :
    linesOf (line ++ 0x0A :: rest) = dropReturn line :: linesOf rest := by
  rw [linesOf, rawLines_append_feed noFeed, List.map_cons, linesOf]

/-- Rows of text are its lines again. -/
theorem rawLines_rows {lines : List Bytes} (noFeed : ∀ line ∈ lines, 0x0A ∉ line) :
    rawLines (Program.rows lines) = lines := by
  induction lines with
  | nil => rfl
  | cons line rest inductionHypothesis =>
      have split : Program.rows (line :: rest) = line ++ 0x0A :: Program.rows rest := by
        simp [Program.rows]
      rw [split, rawLines_append_feed (noFeed line List.mem_cons_self),
        inductionHypothesis fun other member => noFeed other (List.mem_cons_of_mem line member)]

theorem dropReturn_of_noReturn {line : Bytes} (noReturn : 0x0D ∉ line) :
    dropReturn line = line := by
  apply if_neg
  intro last
  exact noReturn (List.mem_of_getLast? last)

theorem dropReturn_isPrefix (line : Bytes) : dropReturn line <+: line := by
  unfold dropReturn
  split
  · exact List.dropLast_prefix line
  · exact List.prefix_rfl

theorem dropReturn_cons {byte : UInt8} (differs : byte ≠ 0x0D) (rest : Bytes) :
    dropReturn (byte :: rest) = byte :: dropReturn rest := by
  cases rest with
  | nil => simp [dropReturn, differs]
  | cons second tail =>
      unfold dropReturn
      rw [List.getLast?_cons_cons, List.dropLast_cons_cons]
      split <;> rfl

theorem noFeed_of_mem_linesOf {text line : Bytes} (member : line ∈ linesOf text) :
    0x0A ∉ line := by
  obtain ⟨raw, among, rfl⟩ := List.mem_map.1 member
  exact fun feed => noFeed_of_mem_rawLines among ((dropReturn_isPrefix raw).subset feed)

theorem linesOf_rows {lines : List Bytes} (noFeed : ∀ line ∈ lines, 0x0A ∉ line)
    (noReturn : ∀ line ∈ lines, 0x0D ∉ line) : linesOf (Program.rows lines) = lines := by
  have kept : ∀ line ∈ lines, dropReturn line = id line :=
    fun line member => dropReturn_of_noReturn (noReturn line member)
  rw [linesOf, rawLines_rows noFeed, List.map_congr_left kept, List.map_id]

@[simp] theorem firstLines_zero (text : Bytes) : firstLines 0 text = [] := by
  rw [firstLines]

theorem firstLines_append_feed (count : Nat) {line : Bytes} (noFeed : 0x0A ∉ line) (rest : Bytes) :
    firstLines (count + 1) (line ++ 0x0A :: rest) = line ++ 0x0A :: firstLines count rest := by
  induction line with
  | nil => rfl
  | cons byte line inductionHypothesis =>
      have ⟨notFeed, tailNoFeed⟩ := List.ne_and_not_mem_of_not_mem_cons noFeed
      rw [List.cons_append, firstLines, if_neg (Ne.symm notFeed), inductionHypothesis tailNoFeed,
        List.cons_append]

theorem firstLines_of_noFeed (count : Nat) {line : Bytes} (noFeed : 0x0A ∉ line) :
    firstLines (count + 1) line = line := by
  induction line with
  | nil => rfl
  | cons byte line inductionHypothesis =>
      have ⟨notFeed, tailNoFeed⟩ := List.ne_and_not_mem_of_not_mem_cons noFeed
      rw [firstLines, if_neg (Ne.symm notFeed), inductionHypothesis tailNoFeed]

theorem rawLines_firstLines (count : Nat) (text : Bytes) :
    rawLines (firstLines count text) = (rawLines text).take count := by
  induction text using line_induction generalizing count with
  | last line noFeed =>
      cases count with
      | zero => simp [rawLines]
      | succ count =>
          rw [firstLines_of_noFeed count noFeed]
          by_cases empty : line = []
          · simp [empty, rawLines]
          · simp [rawLines_of_noFeed noFeed empty]
  | more line rest noFeed inductionHypothesis =>
      cases count with
      | zero => simp [rawLines]
      | succ count =>
          rw [firstLines_append_feed count noFeed, rawLines_append_feed noFeed,
            inductionHypothesis, rawLines_append_feed noFeed, List.take_succ_cons]

theorem linesOf_firstLines (count : Nat) (text : Bytes) :
    linesOf (firstLines count text) = (linesOf text).take count := by
  rw [linesOf, rawLines_firstLines, linesOf, List.map_take]

/-- The first lines of a text are where it begins. -/
theorem firstLines_isPrefix (count : Nat) (text : Bytes) : firstLines count text <+: text := by
  induction text using line_induction generalizing count with
  | last line noFeed =>
      cases count with
      | zero => simp
      | succ count =>
          have whole := firstLines_of_noFeed count noFeed
          exact ⟨[], by rw [whole, List.append_nil]⟩
  | more line rest noFeed inductionHypothesis =>
      cases count with
      | zero => simp
      | succ count =>
          obtain ⟨others, split⟩ := inductionHypothesis count
          refine ⟨others, ?_⟩
          rw [firstLines_append_feed count noFeed, List.append_assoc, List.cons_append, split]

theorem EndsLine.of_append_feed {line rest : Bytes} (ends : EndsLine (line ++ 0x0A :: rest)) :
    EndsLine rest := by
  by_cases empty : rest = []
  · exact .inl empty
  · rcases ends with nothing | last
    · simp at nothing
    · right
      obtain ⟨final, found⟩ := Option.isSome_iff_exists.1 (List.getLast?_isSome.2 empty)
      rw [List.getLast?_append, List.getLast?_cons_of_ne_nil empty, found, Option.some_or] at last
      rw [found, last]

/-- Complete lines without a line feed among them are no lines at all. -/
theorem EndsLine.eq_nil {text : Bytes} (ends : EndsLine text) (noFeed : 0x0A ∉ text) :
    text = [] := by
  rcases ends with empty | last
  · exact empty
  · exact absurd (List.mem_of_getLast? last) noFeed

/-! ### Reading -/

theorem lineOfReverse_eq (reversed : Bytes) :
    lineOfReverse reversed = dropReturn reversed.reverse := by
  cases reversed with
  | nil => rfl
  | cons last front =>
      by_cases isReturn : last = 0x0D
      · subst isReturn
        simp [lineOfReverse, dropReturn]
      · have kept : lineOfReverse (last :: front) = (last :: front).reverse := by
          unfold lineOfReverse
          split
          · next equal => exact absurd (List.cons.inj equal).1 isReturn
          · rfl
        rw [kept, dropReturn, if_neg]
        simpa using isReturn

/-- Bytes of a line that stay below the limit are collected. -/
theorem readFrom_open (ending : Ending) (done : List Bytes) (current rest : Bytes)
    {line : Bytes} (noFeed : 0x0A ∉ line) (short : current.length + line.length < lineLimit) :
    readFrom ending done current.length current (line ++ rest) =
      readFrom ending done (current.length + line.length) (line.reverse ++ current) rest := by
  induction line generalizing current with
  | nil => rfl
  | cons byte line inductionHypothesis =>
      have ⟨notFeed, tailNoFeed⟩ := List.ne_and_not_mem_of_not_mem_cons noFeed
      rw [List.length_cons] at short
      rw [List.cons_append, readFrom, if_neg (Ne.symm notFeed), if_pos (by omega)]
      have tail := inductionHypothesis (byte :: current) tailNoFeed (by
        rw [List.length_cons]
        omega)
      rw [List.length_cons] at tail
      rw [tail, List.length_cons, List.reverse_cons, List.append_assoc, List.singleton_append,
        Nat.add_right_comm, Nat.add_assoc]

/-- Reading ends at the byte of a line that reaches the limit. -/
theorem readFrom_tooLong (ending : Ending) (done : List Bytes) (current rest : Bytes)
    {line : Bytes} (noFeed : 0x0A ∉ line) (within : current.length < lineLimit)
    (long : lineLimit ≤ current.length + line.length) :
    readFrom ending done current.length current (line ++ rest) =
      ⟨done.reverse, none, .tooLong⟩ := by
  induction line generalizing current with
  | nil =>
      rw [List.length_nil] at long
      omega
  | cons byte line inductionHypothesis =>
      have ⟨notFeed, tailNoFeed⟩ := List.ne_and_not_mem_of_not_mem_cons noFeed
      rw [List.length_cons] at long
      rw [List.cons_append, readFrom, if_neg (Ne.symm notFeed)]
      split
      · next below =>
          have tail := inductionHypothesis (byte :: current) tailNoFeed (by
            rw [List.length_cons]
            exact below) (by
            rw [List.length_cons]
            omega)
          rw [List.length_cons] at tail
          exact tail
      · rfl

/-- Reading a line that a line feed ends. -/
theorem readFrom_line (ending : Ending) (done : List Bytes) {line : Bytes}
    (noFeed : 0x0A ∉ line) (rest : Bytes) :
    readFrom ending done 0 [] (line ++ 0x0A :: rest) =
      if line.length < lineLimit then readFrom ending (dropReturn line :: done) 0 [] rest
      else ⟨done.reverse, none, .tooLong⟩ := by
  split
  · next short =>
      have opened := readFrom_open ending done [] (0x0A :: rest) noFeed (by simpa using short)
      rw [List.length_nil, List.append_nil] at opened
      rw [opened, readFrom, if_pos rfl, lineOfReverse_eq, List.reverse_reverse]
  · next long =>
      exact readFrom_tooLong ending done [] (0x0A :: rest) noFeed (by decide)
        (by simpa using long)

/-- Reading the last line, which no line feed ends. -/
theorem readFrom_last (ending : Ending) (done : List Bytes) {line : Bytes}
    (noFeed : 0x0A ∉ line) :
    readFrom ending done 0 [] line =
      if line.length < lineLimit then
        ⟨done.reverse, if line = [] then none else some (dropReturn line), ending⟩
      else ⟨done.reverse, none, .tooLong⟩ := by
  split
  · next short =>
      have opened := readFrom_open ending done [] [] noFeed (by simpa using short)
      rw [List.length_nil, List.append_nil, List.append_nil] at opened
      rw [opened, readFrom]
      by_cases empty : line = []
      · simp [empty]
      · simp [empty, lineOfReverse_eq]
  · next long =>
      have stopped := readFrom_tooLong ending done [] [] noFeed (by decide) (by simpa using long)
      rwa [List.append_nil] at stopped

/-- The lines that are delivered are those before the first one that is too long. -/
theorem readFrom_texts (ending : Ending) (done : List Bytes) (text : Bytes) :
    (readFrom ending done 0 [] text).texts =
      done.reverse ++ ((rawLines text).takeWhile isShort).map dropReturn := by
  induction text using line_induction generalizing done with
  | last line noFeed =>
      rw [readFrom_last ending done noFeed]
      by_cases empty : line = []
      · subst empty
        simp [texts, rawLines, lineLimit]
      · rw [rawLines_of_noFeed noFeed empty]
        by_cases short : line.length < lineLimit <;> simp [texts, isShort, short, empty]
  | more line rest noFeed inductionHypothesis =>
      rw [readFrom_line ending done noFeed, rawLines_append_feed noFeed]
      by_cases short : line.length < lineLimit
      · rw [if_pos short, inductionHypothesis]
        simp [isShort, short]
      · simp [texts, isShort, short]

/-- Reading ends as the input does, unless a line is too long. -/
theorem readFrom_ending (ending : Ending) (done : List Bytes) (text : Bytes) :
    (readFrom ending done 0 [] text).ending =
      if ∀ line ∈ rawLines text, line.length < lineLimit then ending else .tooLong := by
  induction text using line_induction generalizing done with
  | last line noFeed =>
      rw [readFrom_last ending done noFeed]
      by_cases empty : line = []
      · subst empty
        simp [rawLines, lineLimit]
      · rw [rawLines_of_noFeed noFeed empty]
        by_cases short : line.length < lineLimit <;> simp [short]
  | more line rest noFeed inductionHypothesis =>
      rw [readFrom_line ending done noFeed, rawLines_append_feed noFeed]
      by_cases short : line.length < lineLimit
      · rw [if_pos short, inductionHypothesis]
        simp [short]
      · simp [short]

/-- What was read before stands in front. -/
theorem readFrom_done (ending : Ending) (done : List Bytes) (text : Bytes) :
    readFrom ending done 0 [] text =
      ⟨done.reverse ++ (readFrom ending [] 0 [] text).lines,
        (readFrom ending [] 0 [] text).tail, (readFrom ending [] 0 [] text).ending⟩ := by
  induction text using line_induction generalizing done with
  | last line noFeed =>
      rw [readFrom_last ending done noFeed, readFrom_last ending [] noFeed]
      by_cases short : line.length < lineLimit <;> simp [short]
  | more line rest noFeed inductionHypothesis =>
      rw [readFrom_line ending done noFeed, readFrom_line ending [] noFeed]
      by_cases short : line.length < lineLimit
      · rw [if_pos short, if_pos short, inductionHypothesis, inductionHypothesis [dropReturn line]]
        simp
      · simp [short]

/-- A line that is too long leaves no unfinished line. -/
theorem readFrom_tail (ending : Ending) (done : List Bytes) {text : Bytes}
    (long : ¬ ∀ line ∈ rawLines text, line.length < lineLimit) :
    (readFrom ending done 0 [] text).tail = none := by
  induction text using line_induction generalizing done with
  | last line noFeed =>
      by_cases short : line.length < lineLimit
      · refine absurd ?_ long
        by_cases empty : line = []
        · simp [empty, rawLines]
        · simpa [rawLines_of_noFeed noFeed empty] using short
      · rw [readFrom_last ending done noFeed, if_neg short]
  | more line rest noFeed inductionHypothesis =>
      rw [readFrom_line ending done noFeed]
      by_cases short : line.length < lineLimit
      · rw [if_pos short]
        apply inductionHypothesis
        intro restShort
        apply long
        simpa [rawLines_append_feed noFeed, short] using restShort
      · rw [if_neg short]

theorem length_of_mem_takeWhile {lines : List Bytes} {line : Bytes}
    (member : line ∈ lines.takeWhile isShort) : line.length < lineLimit := by
  have short : isShort line = true := List.mem_takeWhile_imp member
  exact of_decide_eq_true short

/-- However the input ends, no line that is read is too long. -/
theorem length_of_mem_texts {text line : Bytes} {failure : Option Bytes}
    (member : line ∈ (read text failure).texts) : line.length < lineLimit := by
  unfold read at member
  rw [readFrom_texts, List.reverse_nil, List.nil_append] at member
  obtain ⟨raw, taken, rfl⟩ := List.mem_map.1 member
  exact Nat.lt_of_le_of_lt (dropReturn_isPrefix raw).length_le (length_of_mem_takeWhile taken)

theorem texts_read (text : Bytes) : (read text none).texts = delivered text := by
  rw [read, readFrom_texts, delivered, List.reverse_nil, List.nil_append]

theorem read_ending_complete_iff (text : Bytes) :
    (read text none).ending = .complete ↔ ∀ line ∈ rawLines text, line.length < lineLimit := by
  rw [read, readFrom_ending]
  split <;> simp_all

theorem lines_read_of_long {text : Bytes}
    (long : ¬ ∀ line ∈ rawLines text, line.length < lineLimit) :
    (read text none).lines = delivered text := by
  have noTail : (read text none).tail = none := readFrom_tail _ [] long
  rw [← texts_read, texts, noTail, Option.toList_none, List.append_nil]

theorem delivered_of_short {text : Bytes}
    (short : ∀ line ∈ rawLines text, line.length < lineLimit) : delivered text = linesOf text := by
  have allTaken : (rawLines text).takeWhile isShort = rawLines text :=
    List.takeWhile_eq_self_iff.2 fun line member => decide_eq_true (short line member)
  rw [delivered, allTaken, linesOf]

/-- A text of short lines is read completely. -/
theorem read_short {text : Bytes} (short : ∀ line ∈ rawLines text, line.length < lineLimit) :
    (read text none).texts = linesOf text ∧ (read text none).ending = .complete :=
  ⟨(texts_read text).trans (delivered_of_short short), (read_ending_complete_iff text).2 short⟩

/-- A line that is too long: the lines before it are delivered, and it ends the reading. -/
theorem exists_long_line {text : Bytes}
    (long : ¬ ∀ line ∈ rawLines text, line.length < lineLimit) :
    ∃ before line after, rawLines text = before ++ line :: after ∧ lineLimit ≤ line.length ∧
      (∀ short ∈ before, short.length < lineLimit) ∧ delivered text = before.map dropReturn := by
  have parts := List.takeWhile_append_dropWhile (p := isShort) (l := rawLines text)
  have shorts : ∀ short ∈ (rawLines text).takeWhile isShort, short.length < lineLimit :=
    fun _ => length_of_mem_takeWhile
  have head := List.head?_dropWhile_not isShort (rawLines text)
  cases others : (rawLines text).dropWhile isShort with
  | nil =>
      rw [others, List.append_nil] at parts
      rw [parts] at shorts
      exact absurd shorts long
  | cons line after =>
      rw [others] at parts head
      refine ⟨_, line, after, parts.symm, ?_, shorts, rfl⟩
      simpa [isShort] using head

theorem read_of_long {text : Bytes}
    (long : ¬ ∀ line ∈ rawLines text, line.length < lineLimit) :
    read text none = ⟨delivered text, none, .tooLong⟩ := by
  have lines := lines_read_of_long long
  have noTail : (read text none).tail = none := readFrom_tail _ [] long
  have ending : (read text none).ending = .tooLong := by
    rw [read, readFrom_ending, if_neg long]
  rw [show read text none = ⟨(read text none).lines, (read text none).tail,
    (read text none).ending⟩ from rfl, lines, noTail, ending]

/-- Rows of text before a line that is too long are read, and nothing else is. -/
theorem read_rows_of_long {lines : List Bytes} {line : Bytes}
    (plain : ∀ row ∈ lines, 0x0A ∉ row ∧ 0x0D ∉ row ∧ row.length < lineLimit)
    (noFeed : 0x0A ∉ line) (long : lineLimit ≤ line.length) :
    read (Program.rows lines ++ line) none = ⟨lines, none, .tooLong⟩ := by
  suffices afterAny : ∀ done, readFrom .complete done 0 [] (Program.rows lines ++ line) =
      ⟨done.reverse ++ lines, none, .tooLong⟩ from afterAny []
  induction lines with
  | nil =>
      intro done
      rw [show Program.rows [] ++ line = line from rfl, readFrom_last _ _ noFeed,
        if_neg (Nat.not_lt.2 long), List.append_nil]
  | cons row rest inductionHypothesis =>
      intro done
      obtain ⟨rowNoFeed, noReturn, short⟩ := plain row List.mem_cons_self
      have split : Program.rows (row :: rest) ++ line =
          row ++ 0x0A :: (Program.rows rest ++ line) := by
        simp [Program.rows]
      rw [split, readFrom_line _ _ rowNoFeed, if_pos short,
        dropReturn_of_noReturn noReturn,
        inductionHypothesis fun other member => plain other (List.mem_cons_of_mem row member)]
      simp

theorem delivered_isPrefix (text : Bytes) : delivered text <+: linesOf text :=
  (List.takeWhile_prefix isShort).map dropReturn

/-- The first lines of a text, as many as are delivered, are read completely. -/
theorem read_firstLines {text : Bytes} {count : Nat} (below : count ≤ (delivered text).length) :
    (∀ line ∈ rawLines (firstLines count text), line.length < lineLimit) ∧
      linesOf (firstLines count text) = (delivered text).take count := by
  have front : (rawLines text).take count <+: (rawLines text).takeWhile isShort := by
    apply List.prefix_of_prefix_length_le (List.take_prefix _ _) (List.takeWhile_prefix _)
    rw [delivered, List.length_map] at below
    exact Nat.le_trans (List.length_take_le _ _) below
  constructor
  · intro line member
    rw [rawLines_firstLines] at member
    exact length_of_mem_takeWhile (front.subset member)
  · rw [linesOf_firstLines]
    obtain ⟨others, whole⟩ := delivered_isPrefix text
    rw [← whole, List.take_append_of_le_length below]

/-- With the line that is too long, the first lines are read as the whole text is. -/
theorem read_firstLines_of_long {text : Bytes}
    (long : ¬ ∀ line ∈ rawLines text, line.length < lineLimit) :
    read (firstLines ((delivered text).length + 1) text) none = read text none := by
  obtain ⟨before, line, after, lines, tooLong, shorts, deliveredEq⟩ := exists_long_line long
  have count : (delivered text).length = before.length := by
    rw [deliveredEq, List.length_map]
  have first : rawLines (firstLines ((delivered text).length + 1) text) = before ++ [line] := by
    rw [rawLines_firstLines, lines, count]
    simp [List.take_append, List.take_of_length_le]
  have longToo : ¬ ∀ other ∈ rawLines (firstLines ((delivered text).length + 1) text),
      other.length < lineLimit := by
    rw [first]
    intro allShort
    exact Nat.not_lt.2 tooLong (allShort line (by simp))
  have same : delivered (firstLines ((delivered text).length + 1) text) = delivered text := by
    have isShorts : ∀ short ∈ before, isShort short = true :=
      fun short member => decide_eq_true (shorts short member)
    rw [delivered, first, List.takeWhile_append_of_pos isShorts,
      List.takeWhile_cons_of_neg (by simpa [isShort] using tooLong), List.append_nil, deliveredEq]
  rw [read_of_long longToo, same, read_of_long long]

private theorem readFrom_append {first : Bytes} (ends : EndsLine first) (done : List Bytes) :
    (∃ lines, ∀ ending second,
        readFrom ending done 0 [] (first ++ second) = ⟨lines, none, .tooLong⟩) ∨
      ∀ ending second,
        readFrom ending done 0 [] (first ++ second) =
          readFrom ending ((linesOf first).reverse ++ done) 0 [] second := by
  induction first using line_induction generalizing done with
  | last line noFeed =>
      right
      rw [ends.eq_nil noFeed]
      intro ending second
      rfl
  | more line rest noFeed inductionHypothesis =>
      simp only [List.append_assoc, List.cons_append, readFrom_line _ _ noFeed]
      by_cases short : line.length < lineLimit
      · simp only [if_pos short, linesOf_append_feed noFeed, List.reverse_cons, List.append_assoc,
          List.singleton_append]
        exact inductionHypothesis ends.of_append_feed (dropReturn line :: done)
      · left
        exact ⟨done.reverse, fun ending second => by rw [if_neg short]⟩

/-- Behind complete lines any text is read as if it stood alone, unless one of the
lines is too long: then nothing behind it matters. -/
theorem read_append {first : Bytes} (ends : EndsLine first) :
    (∃ lines, ∀ failure second, read (first ++ second) failure = ⟨lines, none, .tooLong⟩) ∨
      ∀ failure second,
        read (first ++ second) failure =
          ⟨linesOf first ++ (read second failure).lines, (read second failure).tail,
            (read second failure).ending⟩ := by
  rcases readFrom_append ends [] with ⟨lines, stopped⟩ | passed
  · exact .inl ⟨lines, fun failure second => stopped _ second⟩
  · right
    intro failure second
    change readFrom _ [] 0 [] (first ++ second) = _
    rw [passed, List.append_nil, readFrom_done, List.reverse_reverse]
    rfl

end BasicComputer.Source
