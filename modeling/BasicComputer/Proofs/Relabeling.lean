import BasicComputer.Proofs.BodyGrammar
import BasicComputer.Proofs.InstructionText
import BasicComputer.Proofs.Translation
import Mathlib.Logic.Equiv.Basic

/-!
Contract: the names of labels mean nothing but their bindings.

A plain name is one that an operand can mean as a label only. A `Relabeling` sends plain
names to plain names, no two of them to one, and leaves everything else as it is. It is
applied to the labels of lines, to the predefined ones, and to operands; never to
mnemonics, directives and the indirect marker, even where a label is spelled like them.

Owns:
- what a relabeling makes of tables (`Relabeling.table`), of the words of a body
  (`Relabeling.words`) and of lines (`Relabeling.Relabels`);
- a source that has the relabeled lines of a source (`Relabeling.text`);
- that a relabeled source is assembled to the same words, or fails alike
  (`assembleText_relabeled`).
-/

namespace BasicComputer

open Text

/-- A name that an operand in either base can mean as a label only. -/
structure IsPlainName (name : Bytes) : Prop where
  word : fields name = [name]
  noComma : 0x2C ∉ name
  noSlash : 0x2F ∉ name
  noExpression : Body.expressionText? name = none
  notHexadecimal : readSigned 16 name = .notNumeral
  notDecimal : readSigned 10 name = .notNumeral

instance (name : Bytes) : Decidable (IsPlainName name) :=
  decidable_of_iff (fields name = [name] ∧ 0x2C ∉ name ∧ 0x2F ∉ name ∧
      Body.expressionText? name = none ∧ readSigned 16 name = .notNumeral ∧
      readSigned 10 name = .notNumeral)
    ⟨fun ⟨word, noComma, noSlash, noExpression, notHexadecimal, notDecimal⟩ =>
        ⟨word, noComma, noSlash, noExpression, notHexadecimal, notDecimal⟩,
      fun plain => ⟨plain.word, plain.noComma, plain.noSlash, plain.noExpression,
        plain.notHexadecimal, plain.notDecimal⟩⟩

theorem IsPlainName.not_mem {name : Bytes} (plain : IsPlainName name) {byte : UInt8}
    (isBlank : isBlankByte byte = true) : byte ∉ name := by
  intro member
  have among : name ∈ fields name := by
    rw [plain.word]
    exact List.mem_singleton_self name
  rw [not_isBlankByte_of_mem_fields among member] at isBlank
  contradiction

/-- A change of plain names. -/
structure Relabeling where
  apply : Bytes → Bytes
  injective : Function.Injective apply
  plain : ∀ name, IsPlainName name → IsPlainName (apply name)
  fixed : ∀ name, ¬ IsPlainName name → apply name = name

namespace Body

def takesOperand (word : Bytes) : Bool :=
  (Mnemonic.ofText? word).any fun mnemonic =>
    mnemonic.operationClass == .memory || mnemonic.operationClass == .data

theorem takesOperand_iff (word : Bytes) :
    takesOperand word = true ↔ ∃ mnemonic, Mnemonic.ofText? word = some mnemonic ∧
      (mnemonic.operationClass = .memory ∨ mnemonic.operationClass = .data) := by
  simp [takesOperand, Option.any_eq_true]

/-- The operand among the words of a body. -/
def operand? : List Bytes → Option Bytes
  | first :: operand :: _ => if takesOperand first then some operand else none
  | _ => none

theorem JudgedBy.operand?_eq {words : List Bytes} {mnemonic : Mnemonic} {operand : Bytes}
    (judgedBy : JudgedBy words mnemonic operand) : operand? words = some operand := by
  obtain ⟨more, rfl, takes⟩ := judgedBy
  apply if_pos
  rw [takesOperand_iff]
  exact ⟨mnemonic, mnemonic.ofText?_text, takes.imp_right And.left⟩

theorem operandValue_ne_broken {operand : Bytes} (noExpression : expressionText? operand = none)
    (labels : Labels) (base : Nat) (reason : Bytes) :
    operandValue labels base operand ≠ .broken reason := by
  unfold operandValue namedValue
  rw [noExpression]
  cases readSigned base operand with
  | value value => simp
  | outOfRange => simp
  | notNumeral => cases labels.find? operand <;> simp

/-- Only an expression breaks down. -/
theorem encodeWords_ne_broken {words : List Bytes}
    (noExpression : ∀ operand, operand? words = some operand → expressionText? operand = none)
    (labels : Labels) (reason : Bytes) : encodeWords labels words ≠ .broken reason := by
  rw [ne_eq, encodeWords_eq_broken_iff]
  rintro ⟨mnemonic, operand, judgedBy, broken⟩
  exact operandValue_ne_broken (noExpression operand judgedBy.operand?_eq) labels _ _ broken

end Body

/-- A source without expressions does not break down. -/
theorem Assembler.assembleText_ne_broken (assembler : Assembler) {source : Bytes}
    (short : ∀ line ∈ Source.rawLines source, line.length < Source.lineLimit)
    (noExpression : ∀ line ∈ Source.linesOf source, ∀ operand,
      Body.operand? (fields (Line.split line).body) = some operand →
      Body.expressionText? operand = none) (reason : Bytes) :
    (assembler.assembleText source).result ≠ .broken reason := by
  rw [assembleText_of_short assembler short, ne_eq, Progress.settle_broken_iff]
  intro broken
  have stopped : (assembler.begin.over (Source.linesOf source)).2 ≠ .proceed := by simp [broken]
  obtain ⟨before, line, stopsAt⟩ := Progress.exists_stopsAt stopped
  have member := List.mem_of_getElem? stopsAt.getElem?
  have move := stopsAt.move broken
  generalize (assembler.begin.over (Source.linesOf source)).1.assembler = reached at move
  cases move with
  | broken parsed accepts fits breaks =>
      rw [← (Line.parse_eq_ok_iff.1 parsed).1] at breaks
      exact Body.encodeWords_ne_broken (noExpression line member) _ _ breaks

namespace Relabeling

variable (relabeling : Relabeling)

/-- The table with the same bindings under their new names. -/
def table (labels : Labels) : Labels :=
  .ofList (labels.entries.map fun entry => (relabeling.apply entry.1, entry.2))

/-- The words of a body with the operand relabeled, if there is one. -/
def words : List Bytes → List Bytes
  | first :: operand :: more =>
      if Body.takesOperand first then first :: relabeling.apply operand :: more
      else first :: operand :: more
  | few => few

/-- The cause with the new name of a missing label. -/
def cause : Error → Error
  | .labelMissing name => .labelMissing (relabeling.apply name)
  | other => other

/-- Whether the second of two lines is the first one relabeled, in any layout. -/
structure Relabels (first second : Bytes) : Prop where
  label : (Line.split second).label = relabeling.apply (Line.split first).label
  words : fields (Line.split second).body = relabeling.words (fields (Line.split first).body)

instance (first second : Bytes) : Decidable (relabeling.Relabels first second) :=
  decidable_of_iff ((Line.split second).label = relabeling.apply (Line.split first).label ∧
      fields (Line.split second).body = relabeling.words (fields (Line.split first).body))
    ⟨fun same => ⟨same.1, same.2⟩, fun same => ⟨same.label, same.words⟩⟩

/-- Two plain names trade places. -/
def swap (first second : Bytes) (firstPlain : IsPlainName first)
    (secondPlain : IsPlainName second) : Relabeling where
  apply := Equiv.swap first second
  injective := (Equiv.swap first second).injective
  plain := by
    intro name plain
    rw [Equiv.swap_apply_def]
    split
    · exact secondPlain
    · split
      · exact firstPlain
      · exact plain
  fixed := by
    intro name notPlain
    apply Equiv.swap_apply_of_ne_of_ne
    · rintro rfl
      exact notPlain firstPlain
    · rintro rfl
      exact notPlain secondPlain

theorem apply_eq_nil_iff (name : Bytes) : relabeling.apply name = [] ↔ name = [] := by
  have fixedNil : relabeling.apply [] = [] := relabeling.fixed [] (by decide)
  constructor
  · intro empty
    exact relabeling.injective (empty.trans fixedNil.symm)
  · rintro rfl
    exact fixedNil

theorem fields_apply_length (name : Bytes) :
    (fields (relabeling.apply name)).length = (fields name).length := by
  by_cases plain : IsPlainName name
  · rw [(relabeling.plain name plain).word, plain.word, List.length_singleton,
      List.length_singleton]
  · rw [relabeling.fixed name plain]

/-! ### Tables -/

theorem find?_table_eq_some_iff (labels : Labels) (name : Bytes) (address : Word) :
    (relabeling.table labels).find? name = some address ↔
      ∃ original, relabeling.apply original = name ∧ labels.find? original = some address := by
  have distinct : (labels.entries.map fun entry => (relabeling.apply entry.1, entry.2)).Pairwise
      fun left right => left.1 ≠ right.1 := by
    refine List.pairwise_map.2 (labels.ascending.imp fun {left right} less same => ?_)
    rw [relabeling.injective same] at less
    exact List.lt_irrefl right.1 less
  rw [table, Labels.find?_ofList distinct, List.mem_map]
  constructor
  · rintro ⟨⟨original, bound⟩, member, same⟩
    cases same
    exact ⟨original, rfl, (labels.find?_eq_some_iff original bound).2 member⟩
  · rintro ⟨original, rfl, bound⟩
    exact ⟨(original, address), (labels.find?_eq_some_iff original address).1 bound, rfl⟩

theorem find?_table_apply (labels : Labels) (name : Bytes) :
    (relabeling.table labels).find? (relabeling.apply name) = labels.find? name := by
  apply Option.ext
  intro address
  rw [find?_table_eq_some_iff]
  constructor
  · rintro ⟨original, same, bound⟩
    rwa [← relabeling.injective same]
  · intro bound
    exact ⟨name, rfl, bound⟩

theorem find?_table_of_foreign (labels : Labels) {name : Bytes}
    (foreign : ∀ original, relabeling.apply original ≠ name) :
    (relabeling.table labels).find? name = none := by
  rw [Option.eq_none_iff_forall_ne_some]
  intro address bound
  obtain ⟨original, same, _⟩ := (relabeling.find?_table_eq_some_iff labels name address).1 bound
  exact foreign original same

theorem table_withLabel (labels : Labels) (label : Bytes) (address : Nat) :
    relabeling.table (labels.withLabel label address) =
      (relabeling.table labels).withLabel (relabeling.apply label) address := by
  apply Labels.ext_find?
  intro name
  rw [Labels.find?_withLabel]
  by_cases own : ∃ original, relabeling.apply original = name
  · obtain ⟨original, rfl⟩ := own
    rw [find?_table_apply, find?_table_apply, Labels.find?_withLabel]
    simp only [ne_eq, apply_eq_nil_iff, relabeling.injective.eq_iff]
  · have foreign : ∀ original, relabeling.apply original ≠ name := fun original same =>
      own ⟨original, same⟩
    rw [relabeling.find?_table_of_foreign _ foreign, relabeling.find?_table_of_foreign _ foreign,
      if_neg fun same => foreign label same.2.symm]

theorem accepts_iff (labels : Labels) (label : Bytes) :
    (relabeling.table labels).Accepts (relabeling.apply label) ↔ labels.Accepts label := by
  unfold Labels.Accepts
  rw [find?_table_apply, ne_eq, ne_eq, apply_eq_nil_iff]

/-- What a relabeling changes, as a translation of sources. -/
def translation : Translation where
  label := relabeling.apply
  words := relabeling.words
  table := relabeling.table
  cause := relabeling.cause
  table_withLabel := relabeling.table_withLabel
  accepts_iff := relabeling.accepts_iff
  cause_plain := fun _ => rfl

/-! ### Operands -/

theorem namedValue_apply (labels : Labels) {operand : Bytes}
    (noExpression : Body.expressionText? operand = none)
    (alsoNoExpression : Body.expressionText? (relabeling.apply operand) = none) :
    Body.namedValue (relabeling.table labels) (relabeling.apply operand) =
      (Body.namedValue labels operand).mapError relabeling.cause := by
  unfold Body.namedValue
  rw [find?_table_apply, noExpression, alsoNoExpression]
  cases labels.find? operand <;> rfl

theorem operandValue_apply (labels : Labels) {base : Nat} (known : base = 16 ∨ base = 10)
    {operand : Bytes} (noExpression : Body.expressionText? operand = none) :
    Body.operandValue (relabeling.table labels) base (relabeling.apply operand) =
      (Body.operandValue labels base operand).mapError relabeling.cause := by
  unfold Body.operandValue
  by_cases plain : IsPlainName operand
  · have notNumeral : ∀ {name}, IsPlainName name → readSigned base name = .notNumeral := by
      intro name plain
      rcases known with rfl | rfl
      · exact plain.notHexadecimal
      · exact plain.notDecimal
    have relabeledPlain := relabeling.plain operand plain
    rw [notNumeral plain, notNumeral relabeledPlain]
    exact relabeling.namedValue_apply labels noExpression relabeledPlain.noExpression
  · have same := relabeling.fixed operand plain
    have named := relabeling.namedValue_apply labels noExpression (by rw [same, noExpression])
    rw [same] at named ⊢
    cases readSigned base operand with
    | value value => rfl
    | outOfRange => rfl
    | notNumeral => exact named

theorem mapError_within (least greatest value : Int) :
    (Body.within least greatest value).mapError relabeling.cause =
      Body.within least greatest value := by
  unfold Body.within
  split <;> rfl

theorem mapError_addressingMode (more : List Bytes) :
    (Body.addressingMode more).mapError relabeling.cause = Body.addressingMode more := by
  unfold Body.addressingMode
  split
  · rfl
  · split
    · rfl
    · split <;> rfl

/-! ### Bodies -/

theorem memoryWord_apply (labels : Labels) {mnemonic : Mnemonic}
    (memory : mnemonic.operationClass = .memory) {operand : Bytes}
    (noExpression : Body.expressionText? operand = none) (more : List Bytes) :
    Body.memoryWord (relabeling.table labels) mnemonic (relabeling.apply operand :: more) =
      (Body.memoryWord labels mnemonic (operand :: more)).mapError relabeling.cause := by
  have value := relabeling.operandValue_apply labels (.inl (Mnemonic.base_of_memory memory))
    noExpression
  simp only [Body.memoryWord, Attempt.mapError_bind, Attempt.mapError_pure, mapError_within,
    mapError_addressingMode, value]

theorem dataWord_apply (labels : Labels) {mnemonic : Mnemonic}
    (data : mnemonic.operationClass = .data) {operand : Bytes}
    (noExpression : Body.expressionText? operand = none) (more : List Bytes) :
    Body.dataWord (relabeling.table labels) mnemonic (relabeling.apply operand :: more) =
      (Body.dataWord labels mnemonic (operand :: more)).mapError relabeling.cause := by
  have known : mnemonic.base = 16 ∨ mnemonic.base = 10 := by
    rcases Mnemonic.eq_of_data data with rfl | rfl
    · exact .inl rfl
    · exact .inr rfl
  have value := relabeling.operandValue_apply labels known noExpression
  cases more with
  | nil =>
      simp only [Body.dataWord, Attempt.mapError_bind, Attempt.mapError_pure, mapError_within,
        value]
  | cons extra others => rfl

/-- Words without an operand are encoded without a look at the labels. -/
theorem encodeWords_of_noOperand (labels : Labels) {words : List Bytes}
    (noOperand : Body.operand? words = none) :
    Body.encodeWords (relabeling.table labels) words =
      (Body.encodeWords labels words).mapError relabeling.cause := by
  rcases words with _ | ⟨first, arguments⟩
  · rfl
  cases found : Mnemonic.ofText? first with
  | none =>
      simp only [Body.encodeWords, found]
      rfl
  | some mnemonic =>
      have bare : mnemonic.operationClass = .memory ∨ mnemonic.operationClass = .data →
          arguments = [] := by
        intro takes
        rcases arguments with _ | ⟨operand, more⟩
        · rfl
        · have isOperand := (Body.takesOperand_iff first).2 ⟨mnemonic, found, takes⟩
          simp [Body.operand?, isOperand] at noOperand
      simp only [Body.encodeWords, found, Body.encodeWith]
      cases operationClass : mnemonic.operationClass with
      | memory =>
          rw [bare (.inl operationClass)]
          rfl
      | data =>
          rw [bare (.inr operationClass)]
          rfl
      | register => cases arguments <;> rfl
      | io => cases arguments <;> rfl

theorem encodeWords_words (labels : Labels) {words : List Bytes}
    (noExpression : ∀ operand, Body.operand? words = some operand →
      Body.expressionText? operand = none) :
    Body.encodeWords (relabeling.table labels) (relabeling.words words) =
      (Body.encodeWords labels words).mapError relabeling.cause := by
  rcases words with _ | ⟨first, _ | ⟨operand, more⟩⟩
  · exact relabeling.encodeWords_of_noOperand labels rfl
  · exact relabeling.encodeWords_of_noOperand labels rfl
  by_cases takes : Body.takesOperand first = true
  · have plainOperand := noExpression operand (if_pos takes)
    obtain ⟨mnemonic, found, operationClass⟩ := (Body.takesOperand_iff first).1 takes
    rw [Relabeling.words, if_pos takes]
    simp only [Body.encodeWords, found, Body.encodeWith]
    rcases operationClass with memory | data
    · rw [memory]
      exact relabeling.memoryWord_apply labels memory plainOperand more
    · rw [data]
      exact relabeling.dataWord_apply labels data plainOperand more
  · rw [Relabeling.words, if_neg takes]
    exact relabeling.encodeWords_of_noOperand labels (if_neg takes)

/-! ### Lines -/

theorem directiveOf_relabels {first second : Bytes}
    (relabels : relabeling.Relabels first second) :
    Line.directiveOf (Line.split second) = Line.directiveOf (Line.split first) := by
  unfold Line.directiveOf
  simp only [relabels.label, relabels.words, ne_eq, apply_eq_nil_iff, fields_apply_length]
  rcases fields (Line.split first).body with _ | ⟨word, _ | ⟨operand, more⟩⟩
  · rfl
  · rfl
  by_cases takes : Body.takesOperand word = true
  · -- a word with an operand is no directive, so the operand is not looked at
    have notOrigin : word ≠ Line.originWord := by
      rintro rfl
      revert takes
      decide
    have notEnd : word ≠ Line.endWord := by
      rintro rfl
      revert takes
      decide
    simp only [Relabeling.words, takes, notOrigin, notEnd, ↓reduceIte]
  · rw [Relabeling.words, if_neg takes]

theorem Relabels.relates {relabeling : Relabeling} {first second : Bytes}
    (relabels : relabeling.Relabels first second)
    (noExpression : ∀ operand, Body.operand? (fields (Line.split first).body) = some operand →
      Body.expressionText? operand = none) :
    relabeling.translation.Relates first second where
  label := relabels.label
  words := relabels.words
  directive := relabeling.directiveOf_relabels relabels
  encode := by
    intro labels
    unfold Body.encode
    rw [relabels.words]
    exact relabeling.encodeWords_words labels noExpression

/-- A line with the relabeled parts of a line. -/
def line (text : Bytes) : Bytes :=
  relabeling.apply (Line.split text).label ++
    0x2C :: Bytes.join [0x20] (relabeling.words (fields (Line.split text).body))

/-- A source with the relabeled lines of a source. -/
def text (source : Bytes) : Bytes :=
  Program.rows ((Source.linesOf source).map relabeling.line)

theorem apply_induction {motive : Bytes → Prop} (plain : ∀ name, IsPlainName name → motive name)
    {name : Bytes} (kept : motive name) : motive (relabeling.apply name) := by
  by_cases isPlain : IsPlainName name
  · exact plain _ (relabeling.plain name isPlain)
  · rwa [relabeling.fixed name isPlain]

/-- What holds of plain names and of the words of a body holds of the relabeled words. -/
theorem words_induction {motive : Bytes → Prop} (plain : ∀ name, IsPlainName name → motive name)
    {words : List Bytes} (kept : ∀ word ∈ words, motive word) :
    ∀ word ∈ relabeling.words words, motive word := by
  rcases words with _ | ⟨first, _ | ⟨operand, more⟩⟩
  · exact kept
  · exact kept
  rw [Relabeling.words]
  split
  · simp only [List.forall_mem_cons] at kept ⊢
    exact ⟨kept.1, relabeling.apply_induction plain kept.2.1, kept.2.2⟩
  · exact kept

theorem relabels_line (text : Bytes) : relabeling.Relabels text (relabeling.line text) := by
  obtain ⟨_, labelNoComment, labelNoComma, labelTrimmed⟩ := Line.split_label text
  obtain ⟨_, bodyNoComment⟩ := Line.split_body text
  have noComment : ¬ Line.HasComment (relabeling.apply (Line.split text).label) :=
    relabeling.apply_induction (motive := fun name => ¬ Line.HasComment name)
      (fun _ plain => Line.noComment_of_noSlash plain.noSlash) labelNoComment
  have noComma : 0x2C ∉ relabeling.apply (Line.split text).label :=
    relabeling.apply_induction (motive := fun name => 0x2C ∉ name)
      (fun _ plain => plain.noComma) labelNoComma
  have trimmed : trim (relabeling.apply (Line.split text).label) =
      relabeling.apply (Line.split text).label :=
    relabeling.apply_induction (motive := fun name => trim name = name)
      (fun _ plain => trim_of_single plain.word) labelTrimmed
  have wordsNoComment : ∀ word ∈ relabeling.words (fields (Line.split text).body),
      ¬ Line.HasComment word :=
    relabeling.words_induction (fun _ plain => Line.noComment_of_noSlash plain.noSlash)
      fun _ member comment => bodyNoComment (comment.of_infix (word_of_mem_fields member).1)
  have wordsSingle : ∀ word ∈ relabeling.words (fields (Line.split text).body),
      fields word = [word] :=
    relabeling.words_induction (fun _ plain => plain.word)
      fun _ member => (word_of_mem_fields member).2.2
  have parts := Line.split_of_label noComment noComma (Line.noComment_join wordsNoComment)
  constructor
  · rw [line, parts, trimmed]
  · rw [line, parts, fields_trim, fields_join wordsSingle]

/-! ### Sources -/

theorem not_mem_words (body : Bytes) {byte : UInt8} (isBlank : isBlankByte byte = true)
    (notSpace : byte ≠ 0x20) : byte ∉ Bytes.join [0x20] (relabeling.words (fields body)) := by
  have wordsNoBlank : ∀ word ∈ relabeling.words (fields body), byte ∉ word := by
    apply relabeling.words_induction (motive := fun word => byte ∉ word)
    · exact fun _ plain => plain.not_mem isBlank
    · intro word member inWord
      rw [not_isBlankByte_of_mem_fields member inWord] at isBlank
      contradiction
  intro inside
  rcases Bytes.mem_join inside with separator | ⟨word, among, inWord⟩
  · exact notSpace (List.mem_singleton.1 separator)
  · exact wordsNoBlank word among inWord

theorem noFeed_line {text : Bytes} (noFeed : 0x0A ∉ text) : 0x0A ∉ relabeling.line text := by
  have isBlank : isBlankByte 0x0A = true := by decide
  have noFeedWords := relabeling.not_mem_words (Line.split text).body isBlank (by decide)
  have noFeedLabel : 0x0A ∉ relabeling.apply (Line.split text).label := by
    apply relabeling.apply_induction (motive := fun name => 0x0A ∉ name)
    · exact fun _ plain => plain.not_mem isBlank
    · exact fun feed => noFeed ((Line.split_label text).1.subset feed)
  intro feed
  rcases List.mem_append.1 feed with inLabel | later
  · exact noFeedLabel inLabel
  rcases List.mem_cons.1 later with isComma | inWords
  · cases isComma
  · exact noFeedWords inWords

theorem dropReturn_line (text : Bytes) :
    Source.dropReturn (relabeling.line text) = relabeling.line text := by
  have isBlank : isBlankByte 0x0D = true := by decide
  have noReturnWords := relabeling.not_mem_words (Line.split text).body isBlank (by decide)
  apply if_neg
  intro last
  rw [line, List.getLast?_append_cons] at last
  rcases List.mem_cons.1 (List.mem_of_getLast? last) with isComma | inWords
  · cases isComma
  · exact noReturnWords inWords

theorem linesOf_text (source : Bytes) :
    Source.linesOf (relabeling.text source) = (Source.linesOf source).map relabeling.line := by
  have noFeed : ∀ line ∈ (Source.linesOf source).map relabeling.line, 0x0A ∉ line := by
    intro line member
    obtain ⟨original, among, rfl⟩ := List.mem_map.1 member
    exact relabeling.noFeed_line (Source.noFeed_of_mem_linesOf among)
  rw [text, Source.linesOf, Source.rawLines_rows noFeed, List.map_map]
  exact List.map_congr_left fun line _ => relabeling.dropReturn_line line

theorem relabels_text (source : Bytes) :
    List.Forall₂ relabeling.Relabels (Source.linesOf source)
      (Source.linesOf (relabeling.text source)) := by
  rw [linesOf_text, List.forall₂_map_right_iff]
  exact List.forall₂_same.2 fun line _ => relabeling.relabels_line line

/-- A source without expressions and the same source under other names are assembled to
the same words at the same places, and their labels differ in the names only; or both fail
at one line, for one cause. Every source can be relabeled. -/
theorem assembleText_relabeled (assembler other : Assembler) (source : Bytes)
    (predefined : other.predefined = relabeling.table assembler.predefined)
    (short : ∀ line ∈ Source.rawLines source, line.length < Source.lineLimit)
    (noExpression : ∀ line ∈ Source.linesOf source, ∀ operand,
      Body.operand? (fields (Line.split line).body) = some operand →
      Body.expressionText? operand = none) :
    List.Forall₂ relabeling.Relabels (Source.linesOf source)
        (Source.linesOf (relabeling.text source)) ∧
      ∀ relabeled : Bytes,
        (∀ line ∈ Source.rawLines relabeled, line.length < Source.lineLimit) →
        List.Forall₂ relabeling.Relabels (Source.linesOf source) (Source.linesOf relabeled) →
        (∃ program result, (assembler.assembleText source).result = .ok program ∧
            (other.assembleText relabeled).result = .ok result ∧
            result.memory = program.memory ∧
            result.entries.toList = (program.entries.toList.map fun entry =>
              { entry with words := relabeling.words entry.words }) ∧
            result.labels = relabeling.table program.labels) ∨
          ∃ failure result, (assembler.assembleText source).result = .error failure ∧
            (other.assembleText relabeled).result = .error result ∧
            result.number = failure.number ∧
            result.cause = relabeling.cause failure.cause := by
  refine ⟨relabeling.relabels_text source, ?_⟩
  intro relabeled relabeledShort relabels
  have related : List.Forall₂ relabeling.translation.Relates (Source.linesOf source)
      (Source.linesOf relabeled) :=
    ((List.forall₂_and_left _ _).2 ⟨noExpression, relabels⟩).imp
      fun _ _ both => both.2.relates both.1
  have results := Translation.assembleText_related predefined short relabeledShort related
  have unbroken := assembler.assembleText_ne_broken short noExpression
  generalize (assembler.assembleText source).result = first at results unbroken ⊢
  generalize (other.assembleText relabeled).result = second at results ⊢
  cases results with
  | ok memory labels entries =>
      exact .inl ⟨_, _, rfl, rfl, memory, entries, labels⟩
  | error number cause => exact .inr ⟨_, _, rfl, rfl, number, cause⟩
  | broken reason => exact absurd rfl (unbroken reason)

/-- The label `Y` and the predefined label `I`, which is spelled like the indirect marker,
trade their names. -/
theorem assembleText_relabeled_marker :
    let first := Bytes.ofString "I"
    let second := Bytes.ofString "Y"
    let relabeling := swap first second (by decide) (by decide)
    let assembler := ({} : Assembler).predefine first 5
    let other := ({} : Assembler).predefine second 5
    let source := Bytes.ofString "LDA I I\nY, BUN Y\nCLA\n"
    let relabeled := Bytes.ofString "LDA Y I\r\nI,BUN I // Y\r\n CLA"
    List.Forall₂ relabeling.Relabels (Source.linesOf source) (Source.linesOf relabeled) ∧
      ∃ program result, (assembler.assembleText source).result = .ok program ∧
        (other.assembleText relabeled).result = .ok result ∧
        result.memory = program.memory ∧
        result.entries.toList = (program.entries.toList.map fun entry =>
          { entry with words := relabeling.words entry.words }) ∧
        result.labels = relabeling.table program.labels := by
  intro first second relabeling assembler other source relabeled
  have predefined : other.predefined = relabeling.table assembler.predefined := rfl
  have relabels : List.Forall₂ relabeling.Relabels (Source.linesOf source)
      (Source.linesOf relabeled) := by
    decide +kernel
  obtain ⟨_, alike⟩ := relabeling.assembleText_relabeled assembler other source predefined
    (by decide) (by decide +kernel)
  refine ⟨relabels, (alike relabeled (by decide) relabels).resolve_right ?_⟩
  rintro ⟨failure, _, failed, _⟩
  cases failed

end Relabeling

end BasicComputer
