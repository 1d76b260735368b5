import BasicComputer.Text.Blank
import Mathlib.Data.List.DropRight
import Mathlib.Data.List.TakeWhile

/-!
Contract: the words of a text.

An ASCII byte is a glyph of its own whatever stands around it, so a text can be
cut there (`glyphs_append`). White space of one byte therefore separates the words on
its two sides (`fields_append_blank`), and words that are joined by spaces are found
again (`fields_join`).

Owns these laws, what the words of a text have in common (`word_of_mem_fields`), that
trimming changes no word and nothing that is trimmed, and that columns of words may be
filled with spaces.
-/

namespace BasicComputer

namespace Bytes

theorem join_singleton (separator piece : Bytes) : join separator [piece] = piece := by
  simp [join]

theorem join_cons_cons (separator first second : Bytes) (more : List Bytes) :
    join separator (first :: second :: more) =
      first ++ (separator ++ join separator (second :: more)) := by
  simp [join]

theorem length_join_cons_le (separator : UInt8) (first : Bytes) (more : List Bytes) :
    (join [separator] (first :: more)).length ≤
      first.length + 1 + (join [separator] more).length := by
  cases more with
  | nil =>
      rw [join_singleton]
      omega
  | cons second more =>
      rw [join_cons_cons, List.length_append, List.length_append, List.length_singleton]
      omega

theorem mem_join {separator : Bytes} {pieces : List Bytes} {byte : UInt8}
    (member : byte ∈ join separator pieces) :
    byte ∈ separator ∨ ∃ piece ∈ pieces, byte ∈ piece := by
  match pieces with
  | [] => cases member
  | [piece] =>
      rw [join_singleton] at member
      exact .inr ⟨piece, List.mem_cons_self, member⟩
  | first :: second :: more =>
      rw [join_cons_cons, List.mem_append, List.mem_append] at member
      rcases member with inFirst | inSeparator | later
      · exact .inr ⟨first, List.mem_cons_self, inFirst⟩
      · exact .inl inSeparator
      · rcases mem_join later with inSeparator | ⟨piece, among, inPiece⟩
        · exact .inl inSeparator
        · exact .inr ⟨piece, List.mem_cons_of_mem first among, inPiece⟩

end Bytes

namespace Text

/-! ### Glyphs -/

private theorem glyphsFrom_append (passed before : List Glyph) (text : Bytes) :
    glyphsFrom (passed ++ before) text = before.reverse ++ glyphsFrom passed text := by
  fun_induction glyphsFrom passed text with
  | case1 passed => simp [glyphsFrom]
  | case2 passed first => simp [glyphsFrom]
  | case3 passed first second pair => simp [glyphsFrom, pair]
  | case4 passed first second notPair inductionHypothesis => simp [glyphsFrom, notPair]
  | case5 passed first second third rest triple inductionHypothesis =>
      rw [glyphsFrom, if_pos triple]
      exact inductionHypothesis
  | case6 passed first second third rest notTriple pair inductionHypothesis =>
      rw [glyphsFrom, if_neg notTriple, if_pos pair]
      exact inductionHypothesis
  | case7 passed first second third rest notTriple notPair inductionHypothesis =>
      rw [glyphsFrom, if_neg notTriple, if_neg notPair]
      exact inductionHypothesis

private theorem glyphsFrom_single (glyph : Glyph) (text : Bytes) :
    glyphsFrom [glyph] text = glyph :: glyphs text :=
  glyphsFrom_append [] [glyph] text

@[simp] theorem glyphs_nil : glyphs [] = [] := rfl

theorem glyphs_triple {first second third : UInt8} (triple : isBlankTriple first second third)
    (rest : Bytes) :
    glyphs (first :: second :: third :: rest) =
      .blank [first, second, third] :: glyphs rest := by
  rw [glyphs, glyphsFrom, if_pos triple, glyphsFrom_single]

theorem glyphs_pair {first second : UInt8} (pair : isBlankPair first second) (rest : Bytes) :
    glyphs (first :: second :: rest) = .blank [first, second] :: glyphs rest := by
  have lead : first = 0xC2 := by
    unfold isBlankPair at pair
    simp_all
  cases rest with
  | nil => rw [glyphs, glyphsFrom, if_pos pair]; rfl
  | cons third rest =>
      have notTriple : ¬ isBlankTriple first second third := by
        subst lead
        simp [isBlankTriple]
      rw [glyphs, glyphsFrom, if_neg notTriple, if_pos pair, glyphsFrom_single]

theorem glyphs_cons {first : UInt8} {rest : Bytes}
    (notPair : ∀ second more, rest = second :: more → ¬ isBlankPair first second)
    (notTriple : ∀ second third more, rest = second :: third :: more →
      ¬ isBlankTriple first second third) :
    glyphs (first :: rest) = singleGlyph first :: glyphs rest := by
  match rest with
  | [] => rfl
  | [second] =>
      rw [glyphs, glyphsFrom, if_neg (notPair second [] rfl), glyphsFrom_single]
  | second :: third :: rest =>
      rw [glyphs, glyphsFrom, if_neg (notTriple second third rest rfl),
        if_neg (notPair second (third :: rest) rfl), glyphsFrom_single]

/-- An ASCII byte is no part of a longer blank. -/
private theorem isBlankPair_ascii {first second : UInt8} (ascii : first < 0x80 ∨ second < 0x80) :
    ¬ isBlankPair first second := by
  unfold isBlankPair
  grind

private theorem isBlankTriple_ascii {first second third : UInt8}
    (ascii : first < 0x80 ∨ second < 0x80 ∨ third < 0x80) :
    ¬ isBlankTriple first second third := by
  unfold isBlankTriple
  grind

theorem glyphs_ascii_cons {byte : UInt8} (ascii : byte < 0x80) (rest : Bytes) :
    glyphs (byte :: rest) = singleGlyph byte :: glyphs rest :=
  glyphs_cons (fun _ _ _ => isBlankPair_ascii (.inl ascii))
    (fun _ _ _ _ => isBlankTriple_ascii (.inl ascii))

/-- A text is taken apart glyph by glyph. -/
theorem glyph_induction {motive : Bytes → Prop} (nil : motive [])
    (triple : ∀ first second third rest, isBlankTriple first second third → motive rest →
      motive (first :: second :: third :: rest))
    (pair : ∀ first second rest, isBlankPair first second → motive rest →
      motive (first :: second :: rest))
    (single : ∀ first rest,
      (∀ second more, rest = second :: more → ¬ isBlankPair first second) →
      (∀ second third more, rest = second :: third :: more →
        ¬ isBlankTriple first second third) →
      motive rest → motive (first :: rest)) (text : Bytes) : motive text := by
  have alone : ∀ byte, motive [byte] := fun byte =>
    single byte [] (by simp) (by simp) nil
  -- The recursion of `glyphsFrom` has the same cases; what it has passed is of no account.
  refine glyphsFrom.induct (fun _ text => motive text) (fun _ => nil) (fun _ => alone)
    (fun _ first second isPair => pair first second [] isPair nil) ?_
    (fun _ first second third rest isTriple => triple first second third rest isTriple)
    (fun _ first second third rest _ isPair => pair first second (third :: rest) isPair)
    ?_ [] text
  · intro _ first second notPair _
    apply single first [second] _ (by simp) (alone second)
    rintro _ _ ⟨⟩
    exact notPair
  · intro _ first second third rest notTriple notPair
    apply single first (second :: third :: rest)
    · rintro _ _ ⟨⟩
      exact notPair
    · rintro _ _ _ ⟨⟩
      exact notTriple

theorem glyphs_append {byte : UInt8} (ascii : byte < 0x80) (first rest : Bytes) :
    glyphs (first ++ byte :: rest) = glyphs first ++ singleGlyph byte :: glyphs rest := by
  induction first using glyph_induction with
  | nil => exact glyphs_ascii_cons ascii rest
  | triple head second third tail isTriple inductionHypothesis =>
      simp only [List.cons_append, glyphs_triple isTriple, inductionHypothesis]
  | pair head second tail isPair inductionHypothesis =>
      simp only [List.cons_append, glyphs_pair isPair, inductionHypothesis]
  | single head tail notPair notTriple inductionHypothesis =>
      rw [glyphs_cons notPair notTriple, List.cons_append, List.cons_append,
        ← inductionHypothesis]
      -- The ASCII byte completes no blank that starts at `head`.
      apply glyphs_cons
      · intro second more split
        cases tail with
        | nil => cases split; exact isBlankPair_ascii (.inr ascii)
        | cons neighbour tail => cases split; exact notPair second tail rfl
      · intro second third more split
        match tail with
        | [] => cases split; exact isBlankTriple_ascii (.inr (.inl ascii))
        | [neighbour] => cases split; exact isBlankTriple_ascii (.inr (.inr ascii))
        | neighbour :: next :: tail => cases split; exact notTriple second third tail rfl

theorem singleGlyph_bytes (byte : UInt8) : (singleGlyph byte).bytes = [byte] := by
  unfold singleGlyph
  split <;> rfl

theorem glyphBytes_append (first second : List Glyph) :
    glyphBytes (first ++ second) = glyphBytes first ++ glyphBytes second :=
  List.flatMap_append

theorem glyphBytes_glyphs (text : Bytes) : glyphBytes (glyphs text) = text := by
  induction text using glyph_induction with
  | nil => rfl
  | triple first second third rest isTriple inductionHypothesis =>
      rw [glyphs_triple isTriple, glyphBytes, List.flatMap_cons]
      exact congrArg _ inductionHypothesis
  | pair first second rest isPair inductionHypothesis =>
      rw [glyphs_pair isPair, glyphBytes, List.flatMap_cons]
      exact congrArg _ inductionHypothesis
  | single first rest notPair notTriple inductionHypothesis =>
      rw [glyphs_cons notPair notTriple, glyphBytes, List.flatMap_cons, singleGlyph_bytes]
      exact congrArg _ inductionHypothesis

/-! ### Fields -/

private theorem fieldsFrom_done (done : List Bytes) (word : Bytes) (run : List Glyph) :
    fieldsFrom done word run = done.reverse ++ fieldsFrom [] word run := by
  induction run generalizing done word with
  | nil => cases word <;> simp [fieldsFrom]
  | cons glyph rest inductionHypothesis =>
      cases glyph with
      | ink byte => exact inductionHypothesis done (byte :: word)
      | blank encoding =>
          rw [fieldsFrom, fieldsFrom, inductionHypothesis,
            inductionHypothesis (if word.isEmpty then [] else _)]
          cases word <;> simp

private theorem fieldsFrom_append_blank (word encoding : Bytes) (first rest : List Glyph) :
    fieldsFrom [] word (first ++ .blank encoding :: rest) =
      fieldsFrom [] word first ++ fieldsFrom [] [] rest := by
  induction first generalizing word with
  | nil =>
      simp only [List.nil_append, fieldsFrom]
      exact fieldsFrom_done _ [] rest
  | cons glyph first inductionHypothesis =>
      cases glyph with
      | ink byte => exact inductionHypothesis (byte :: word)
      | blank encoding =>
          rw [List.cons_append, fieldsFrom, fieldsFrom, fieldsFrom_done, inductionHypothesis,
            fieldsFrom_done (if word.isEmpty then [] else _) [] first, List.append_assoc]

theorem isBlankByte_ascii {byte : UInt8} (isBlank : isBlankByte byte) : byte < 0x80 := by
  unfold isBlankByte at isBlank
  grind

theorem fields_append_blank {byte : UInt8} (isBlank : isBlankByte byte) (first rest : Bytes) :
    fields (first ++ byte :: rest) = fields first ++ fields rest := by
  unfold fields
  rw [glyphs_append (isBlankByte_ascii isBlank), singleGlyph, if_pos isBlank,
    fieldsFrom_append_blank]

/-- A byte that can stand anywhere in a word. -/
def IsPlain (byte : UInt8) : Prop :=
  byte < 0x80 ∧ isBlankByte byte = false

instance (byte : UInt8) : Decidable (IsPlain byte) :=
  inferInstanceAs (Decidable (_ ∧ _))

theorem IsPlain.singleGlyph {byte : UInt8} (plain : IsPlain byte) :
    singleGlyph byte = .ink byte := by
  rw [Text.singleGlyph, plain.2]
  rfl

theorem glyphs_of_plain {text : Bytes} (plain : ∀ byte ∈ text, IsPlain byte) :
    glyphs text = text.map .ink := by
  induction text with
  | nil => rfl
  | cons byte rest inductionHypothesis =>
      have bytePlain : IsPlain byte := plain byte List.mem_cons_self
      rw [glyphs_ascii_cons bytePlain.1, bytePlain.singleGlyph, List.map_cons,
        inductionHypothesis fun other member => plain other (List.mem_cons_of_mem byte member)]

private theorem fieldsFrom_ink (done : List Bytes) (word text : Bytes) (run : List Glyph) :
    fieldsFrom done word (text.map .ink ++ run) = fieldsFrom done (text.reverse ++ word) run := by
  induction text generalizing word with
  | nil => rfl
  | cons byte rest inductionHypothesis =>
      rw [List.map_cons, List.cons_append, fieldsFrom, inductionHypothesis,
        List.reverse_cons, List.append_assoc]
      rfl

theorem fields_of_ink {word : Bytes} (nonempty : word ≠ []) (ink : glyphs word = word.map .ink) :
    fields word = [word] := by
  rw [fields, ink, ← List.append_nil (word.map _), fieldsFrom_ink]
  simp [fieldsFrom, nonempty]

theorem fields_of_plain {word : Bytes} (nonempty : word ≠ [])
    (plain : ∀ byte ∈ word, IsPlain byte) : fields word = [word] :=
  fields_of_ink nonempty (glyphs_of_plain plain)

theorem fields_join {words : List Bytes} (single : ∀ word ∈ words, fields word = [word]) :
    fields (Bytes.join [0x20] words) = words := by
  match words with
  | [] => rfl
  | [word] =>
      rw [Bytes.join_singleton]
      exact single word List.mem_cons_self
  | word :: next :: more =>
      rw [Bytes.join_cons_cons, List.singleton_append, fields_append_blank rfl,
        single word List.mem_cons_self,
        fields_join fun other member => single other (List.mem_cons_of_mem word member)]
      rfl

/-! ### Parts of a text -/

private theorem glyphs_glyphBytes {text : Bytes} {run : List Glyph} (same : glyphs text = run) :
    glyphs (glyphBytes run) = run := by
  rw [← same, glyphBytes_glyphs]

/-- A part of a text that is a run of its glyphs is read as that run. -/
theorem glyphs_of_split {text : Bytes} {first second : List Glyph}
    (split : glyphs text = first ++ second) :
    glyphs (glyphBytes first) = first ∧ glyphs (glyphBytes second) = second := by
  induction text using glyph_induction generalizing first with
  | nil =>
      obtain ⟨rfl, rfl⟩ : first = [] ∧ second = [] := by simpa using split.symm
      exact ⟨rfl, rfl⟩
  | triple head middle last rest isTriple inductionHypothesis =>
      cases first with
      | nil => exact ⟨rfl, glyphs_glyphBytes split⟩
      | cons glyph first =>
          rw [glyphs_triple isTriple, List.cons_append] at split
          obtain ⟨rfl, restSplit⟩ := List.cons.inj split
          obtain ⟨firstRead, secondRead⟩ := inductionHypothesis restSplit
          refine ⟨?_, secondRead⟩
          change glyphs (head :: middle :: last :: glyphBytes first) = _
          rw [glyphs_triple isTriple, firstRead]
  | pair head middle rest isPair inductionHypothesis =>
      cases first with
      | nil => exact ⟨rfl, glyphs_glyphBytes split⟩
      | cons glyph first =>
          rw [glyphs_pair isPair, List.cons_append] at split
          obtain ⟨rfl, restSplit⟩ := List.cons.inj split
          obtain ⟨firstRead, secondRead⟩ := inductionHypothesis restSplit
          refine ⟨?_, secondRead⟩
          change glyphs (head :: middle :: glyphBytes first) = _
          rw [glyphs_pair isPair, firstRead]
  | single head rest notPair notTriple inductionHypothesis =>
      cases first with
      | nil => exact ⟨rfl, glyphs_glyphBytes split⟩
      | cons glyph first =>
          rw [glyphs_cons notPair notTriple, List.cons_append] at split
          obtain ⟨rfl, restSplit⟩ := List.cons.inj split
          obtain ⟨firstRead, secondRead⟩ := inductionHypothesis restSplit
          have restBytes : rest = glyphBytes first ++ glyphBytes second := by
            rw [← glyphBytes_glyphs rest, restSplit, glyphBytes_append]
          refine ⟨?_, secondRead⟩
          rw [glyphBytes, List.flatMap_cons, singleGlyph_bytes]
          change glyphs (head :: glyphBytes first) = _
          -- What follows `head` in the part also follows it in the text.
          rw [glyphs_cons, firstRead]
          · intro next more starts
            exact notPair next _ (by rw [restBytes, starts]; rfl)
          · intro next third more starts
            exact notTriple next third _ (by rw [restBytes, starts]; rfl)

/-- A field of a run of glyphs is a stretch of ink in it. -/
private theorem stretch_of_mem_fieldsFrom {current word : Bytes} {run : List Glyph}
    (member : word ∈ fieldsFrom [] current run) :
    word ≠ [] ∧ ∃ before after,
      current.reverse.map Glyph.ink ++ run = before ++ (word.map Glyph.ink ++ after) := by
  induction run generalizing current with
  | nil =>
      cases current with
      | nil => simp [fieldsFrom] at member
      | cons byte current =>
          simp only [fieldsFrom, List.isEmpty_cons, Bool.false_eq_true, ↓reduceIte,
            List.reverse_singleton, List.mem_singleton] at member
          subst member
          exact ⟨by simp, [], [], rfl⟩
  | cons glyph rest inductionHypothesis =>
      cases glyph with
      | ink byte =>
          obtain ⟨nonempty, before, after, split⟩ := inductionHypothesis member
          refine ⟨nonempty, before, after, ?_⟩
          rw [← split]
          simp
      | blank encoding =>
          rw [fieldsFrom, fieldsFrom_done, List.mem_append] at member
          rcases member with ended | later
          · -- the field that the blank ends
            cases current with
            | nil => simp at ended
            | cons byte current =>
                simp only [List.isEmpty_cons, Bool.false_eq_true, ↓reduceIte,
                  List.reverse_singleton, List.mem_singleton] at ended
                subst ended
                exact ⟨by simp, [], .blank encoding :: rest, rfl⟩
          · obtain ⟨nonempty, before, after, split⟩ := inductionHypothesis later
            refine ⟨nonempty, current.reverse.map Glyph.ink ++ .blank encoding :: before, after, ?_⟩
            rw [List.append_assoc, List.cons_append, ← split]
            rfl

theorem glyphBytes_ink (word : Bytes) : glyphBytes (word.map Glyph.ink) = word := by
  induction word with
  | nil => rfl
  | cons byte rest inductionHypothesis =>
      rw [List.map_cons, glyphBytes, List.flatMap_cons]
      exact congrArg (byte :: ·) inductionHypothesis

/-- A word of a text is a part of it that is one word by itself. -/
theorem word_of_mem_fields {text word : Bytes} (member : word ∈ fields text) :
    word <:+: text ∧ glyphs word = word.map .ink ∧ fields word = [word] := by
  obtain ⟨nonempty, before, after, split⟩ := stretch_of_mem_fieldsFrom member
  have ink : glyphs word = word.map .ink := by
    have right := (glyphs_of_split split).2
    have middle := (glyphs_of_split right).1
    rwa [glyphBytes_ink] at middle
  have part : glyphBytes before ++ word ++ glyphBytes after = text := by
    rw [List.reverse_nil, List.map_nil, List.nil_append] at split
    calc glyphBytes before ++ word ++ glyphBytes after
        = glyphBytes (before ++ (word.map .ink ++ after)) := by
          rw [glyphBytes_append, glyphBytes_append, glyphBytes_ink, List.append_assoc]
      _ = text := by rw [← split, glyphBytes_glyphs]
  exact ⟨⟨_, _, part⟩, ink, fields_of_ink nonempty ink⟩

/-- No byte of a word is white space. -/
theorem not_isBlankByte_of_mem_fields {text word : Bytes} (member : word ∈ fields text)
    {byte : UInt8} (inWord : byte ∈ word) : isBlankByte byte = false := by
  obtain ⟨_, ink, _⟩ := word_of_mem_fields member
  rw [← Bool.not_eq_true]
  intro isBlank
  obtain ⟨first, rest, split⟩ := List.append_of_mem inWord
  have blankGlyph : Glyph.blank [byte] ∈ glyphs word := by
    rw [split, glyphs_append (isBlankByte_ascii isBlank), singleGlyph, if_pos isBlank]
    simp
  rw [ink] at blankGlyph
  simp at blankGlyph

theorem glyph_bytes_ne_nil {text : Bytes} {glyph : Glyph} (member : glyph ∈ glyphs text) :
    glyph.bytes ≠ [] := by
  induction text using glyph_induction with
  | nil => cases member
  | triple first second third rest isTriple inductionHypothesis =>
      rw [glyphs_triple isTriple, List.mem_cons] at member
      rcases member with rfl | later
      · exact List.cons_ne_nil _ _
      · exact inductionHypothesis later
  | pair first second rest isPair inductionHypothesis =>
      rw [glyphs_pair isPair, List.mem_cons] at member
      rcases member with rfl | later
      · exact List.cons_ne_nil _ _
      · exact inductionHypothesis later
  | single first rest notPair notTriple inductionHypothesis =>
      rw [glyphs_cons notPair notTriple, List.mem_cons] at member
      rcases member with rfl | later
      · rw [singleGlyph_bytes]
        exact List.cons_ne_nil _ _
      · exact inductionHypothesis later

private theorem length_join_fieldsFrom (current : Bytes) {run : List Glyph}
    (nonempty : ∀ glyph ∈ run, glyph.bytes ≠ []) :
    (Bytes.join [0x20] (fieldsFrom [] current run)).length ≤
      current.length + (glyphBytes run).length := by
  induction run generalizing current with
  | nil => cases current <;> simp [fieldsFrom, Bytes.join]
  | cons glyph rest inductionHypothesis =>
      have later := fun current => inductionHypothesis current
        fun other member => nonempty other (List.mem_cons_of_mem glyph member)
      have size : (glyphBytes (glyph :: rest)).length =
          glyph.bytes.length + (glyphBytes rest).length := by
        simp [glyphBytes]
      rw [size]
      cases glyph with
      | ink byte =>
          have extended := later (byte :: current)
          rw [List.length_cons] at extended
          rw [fieldsFrom, Glyph.bytes, List.length_singleton]
          omega
      | blank encoding =>
          have filled : 0 < (Glyph.blank encoding).bytes.length :=
            List.length_pos_iff.2 (nonempty _ List.mem_cons_self)
          have restShort := later []
          rw [List.length_nil] at restShort
          rw [fieldsFrom, fieldsFrom_done]
          cases current with
          | nil =>
              simp only [List.isEmpty_nil, ↓reduceIte, List.reverse_nil, List.nil_append]
              omega
          | cons byte current =>
              have joined := Bytes.length_join_cons_le 0x20 (byte :: current).reverse
                (fieldsFrom [] [] rest)
              rw [List.length_reverse] at joined
              simp only [List.isEmpty_cons, Bool.false_eq_true, ↓reduceIte,
                List.reverse_singleton, List.singleton_append]
              omega

/-- A text is at least as long as its words with a space between neighbours. -/
theorem length_join_fields_le (text : Bytes) :
    (Bytes.join [0x20] (fields text)).length ≤ text.length := by
  have bound := length_join_fieldsFrom [] fun glyph (member : glyph ∈ glyphs text) =>
    glyph_bytes_ne_nil member
  rw [glyphBytes_glyphs, List.length_nil, Nat.zero_add] at bound
  exact bound

/-! ### Trimming -/

theorem trimGlyphs_split (run : List Glyph) :
    ∃ before after, run = before ++ (trimGlyphs run ++ after) ∧
      (∀ glyph ∈ before, glyph.isBlank) ∧ ∀ glyph ∈ after, glyph.isBlank := by
  let core := (run.dropWhile Glyph.isBlank).reverse
  have right : run.dropWhile Glyph.isBlank =
      trimGlyphs run ++ (core.takeWhile Glyph.isBlank).reverse := by
    rw [trimGlyphs, ← List.reverse_append, List.takeWhile_append_dropWhile, List.reverse_reverse]
  refine ⟨run.takeWhile Glyph.isBlank, (core.takeWhile Glyph.isBlank).reverse, ?_, ?_, ?_⟩
  · rw [← right, List.takeWhile_append_dropWhile]
  · intro glyph member
    exact List.mem_takeWhile_imp member
  · intro glyph member
    exact List.mem_takeWhile_imp (List.mem_reverse.mp member)

private theorem fieldsFrom_blanks {blanks : List Glyph} (blank : ∀ glyph ∈ blanks, glyph.isBlank)
    (run : List Glyph) : fieldsFrom [] [] (blanks ++ run) = fieldsFrom [] [] run := by
  induction blanks with
  | nil => rfl
  | cons glyph rest inductionHypothesis =>
      cases glyph with
      | ink byte => cases blank (.ink byte) List.mem_cons_self
      | blank encoding =>
          exact inductionHypothesis fun other member =>
            blank other (List.mem_cons_of_mem _ member)

private theorem fieldsFrom_append_blanks {blanks : List Glyph}
    (blank : ∀ glyph ∈ blanks, glyph.isBlank) (run : List Glyph) :
    fieldsFrom [] [] (run ++ blanks) = fieldsFrom [] [] run := by
  cases blanks with
  | nil => rw [List.append_nil]
  | cons glyph rest =>
      cases glyph with
      | ink byte => cases blank (.ink byte) List.mem_cons_self
      | blank encoding =>
          have restBlank : ∀ glyph ∈ rest, glyph.isBlank := fun other member =>
            blank other (List.mem_cons_of_mem _ member)
          have nothing : fieldsFrom [] [] rest = [] := by
            rw [← List.append_nil rest, fieldsFrom_blanks restBlank]
            rfl
          rw [fieldsFrom_append_blank, nothing, List.append_nil]

theorem trim_isInfix (text : Bytes) : trim text <:+: text := by
  obtain ⟨before, after, split, _, _⟩ := trimGlyphs_split (glyphs text)
  refine ⟨glyphBytes before, glyphBytes after, ?_⟩
  calc glyphBytes before ++ trim text ++ glyphBytes after
      = glyphBytes (before ++ (trimGlyphs (glyphs text) ++ after)) := by
        rw [glyphBytes_append, glyphBytes_append, trim, List.append_assoc]
    _ = text := by rw [← split, glyphBytes_glyphs]

theorem glyphs_trim (text : Bytes) : glyphs (trim text) = trimGlyphs (glyphs text) := by
  obtain ⟨before, after, split, _, _⟩ := trimGlyphs_split (glyphs text)
  have right := (glyphs_of_split split).2
  exact (glyphs_of_split right).1

private theorem dropWhile_trimGlyphs (run : List Glyph) :
    (trimGlyphs run).dropWhile Glyph.isBlank = trimGlyphs run := by
  cases start : trimGlyphs run with
  | nil => rfl
  | cons first rest =>
      have front : trimGlyphs run <+: run.dropWhile Glyph.isBlank := by
        rw [← List.reverse_suffix, trimGlyphs, List.reverse_reverse]
        exact List.dropWhile_suffix _
      rw [start] at front
      obtain ⟨others, split⟩ := front
      have isInk := List.head?_dropWhile_not Glyph.isBlank run
      rw [← split] at isInk
      rw [List.dropWhile_cons_of_neg]
      simpa using isInk

private theorem dropWhile_reverse_trimGlyphs (run : List Glyph) :
    (trimGlyphs run).reverse.dropWhile Glyph.isBlank = (trimGlyphs run).reverse := by
  rw [trimGlyphs, List.reverse_reverse, List.dropWhile_idempotent]

private theorem trimGlyphs_trimGlyphs (run : List Glyph) :
    trimGlyphs (trimGlyphs run) = trimGlyphs run := by
  rw [trimGlyphs, dropWhile_trimGlyphs, dropWhile_reverse_trimGlyphs, List.reverse_reverse]

theorem trim_trim (text : Bytes) : trim (trim text) = trim text := by
  rw [trim, glyphs_trim, trimGlyphs_trimGlyphs]
  rfl

theorem fields_trim (text : Bytes) : fields (trim text) = fields text := by
  obtain ⟨before, after, split, beforeBlank, afterBlank⟩ := trimGlyphs_split (glyphs text)
  calc fields (trim text)
      = fieldsFrom [] [] (trimGlyphs (glyphs text)) := by rw [fields, glyphs_trim]
    _ = fieldsFrom [] [] (before ++ (trimGlyphs (glyphs text) ++ after)) := by
        rw [fieldsFrom_blanks beforeBlank, fieldsFrom_append_blanks afterBlank]
    _ = fields text := by rw [← split, fields]

/-! ### Text without white space -/

/-- No white space stands in a text. -/
def NoBlank (text : Bytes) : Prop :=
  ∀ glyph ∈ glyphs text, glyph.isBlank = false

instance (text : Bytes) : Decidable (NoBlank text) :=
  inferInstanceAs (Decidable (∀ glyph ∈ glyphs text, glyph.isBlank = false))

theorem NoBlank.fields {text : Bytes} (noBlank : NoBlank text) (nonempty : text ≠ []) :
    fields text = [text] := by
  have inkOnly : ∀ run : List Glyph, (∀ glyph ∈ run, glyph.isBlank = false) →
      run = (glyphBytes run).map .ink := by
    intro run ink
    induction run with
    | nil => rfl
    | cons glyph rest inductionHypothesis =>
        cases glyph with
        | blank encoding => cases ink _ List.mem_cons_self
        | ink byte =>
            have restInk := inductionHypothesis fun other member =>
              ink other (List.mem_cons_of_mem _ member)
            exact congrArg (.ink byte :: ·) restInk
  apply fields_of_ink nonempty
  have whole := inkOnly (glyphs text) noBlank
  rwa [glyphBytes_glyphs] at whole

private theorem fieldsFrom_ne_nil {word : Bytes} {run : List Glyph}
    (inked : word ≠ [] ∨ ∃ glyph ∈ run, glyph.isBlank = false) : fieldsFrom [] word run ≠ [] := by
  induction run generalizing word with
  | nil => simpa [fieldsFrom] using inked
  | cons glyph rest inductionHypothesis =>
      cases glyph with
      | ink byte => exact inductionHypothesis (.inl (List.cons_ne_nil byte word))
      | blank encoding =>
          cases word with
          | nil => exact inductionHypothesis (.inr (by simpa [Glyph.isBlank] using inked))
          | cons byte word =>
              rw [fieldsFrom, fieldsFrom_done]
              simp

private theorem exists_ink_before {run before after : List Glyph} {glyph : Glyph}
    (startsInk : run.dropWhile Glyph.isBlank = run) (split : run = before ++ glyph :: after)
    (isBlank : glyph.isBlank = true) : ∃ other ∈ before, other.isBlank = false := by
  have headInk := List.head?_dropWhile_not Glyph.isBlank run
  rw [startsInk, split] at headInk
  cases before with
  | nil => simp [isBlank] at headInk
  | cons first others => exact ⟨first, List.mem_cons_self, by simpa using headInk⟩

/-- A text that is trimmed and has one word only is that word: white space inside it
would stand between two words. -/
theorem fields_of_trimmed {text : Bytes} (trimmed : trim text = text)
    (single : (fields text).length = 1) : fields text = [text] := by
  have nonempty : text ≠ [] := by
    rintro rfl
    simp [fields, fieldsFrom] at single
  have run : trimGlyphs (glyphs text) = glyphs text := by
    rw [← glyphs_trim, trimmed]
  have startsInk := dropWhile_trimGlyphs (glyphs text)
  have endsInk := dropWhile_reverse_trimGlyphs (glyphs text)
  rw [run] at startsInk endsInk
  apply NoBlank.fields _ nonempty
  intro glyph member
  rw [← Bool.not_eq_true]
  intro isBlank
  obtain ⟨before, after, split⟩ := List.append_of_mem member
  have inkBefore := exists_ink_before startsInk split isBlank
  have inkAfter : ∃ other ∈ after, other.isBlank = false := by
    have found := exists_ink_before endsInk
      (show (glyphs text).reverse = after.reverse ++ glyph :: before.reverse by simp [split])
      isBlank
    simpa using found
  cases glyph with
  | ink byte => cases isBlank
  | blank encoding =>
      rw [fields, split, fieldsFrom_append_blank, List.length_append] at single
      have first : 0 < (fieldsFrom [] [] before).length :=
        List.length_pos_of_ne_nil (fieldsFrom_ne_nil (.inr inkBefore))
      have second : 0 < (fieldsFrom [] [] after).length :=
        List.length_pos_of_ne_nil (fieldsFrom_ne_nil (.inr inkAfter))
      omega

/-- Nothing but white space stands in a text. -/
def AllBlank (text : Bytes) : Prop :=
  ∀ glyph ∈ glyphs text, glyph.isBlank = true

instance (text : Bytes) : Decidable (AllBlank text) :=
  inferInstanceAs (Decidable (∀ glyph ∈ glyphs text, glyph.isBlank = true))

theorem fields_eq_nil_iff {text : Bytes} : fields text = [] ↔ AllBlank text := by
  constructor
  · intro empty glyph member
    rw [← Bool.not_eq_false]
    intro ink
    exact fieldsFrom_ne_nil (.inr ⟨glyph, member, ink⟩) empty
  · intro blank
    have nothing := fieldsFrom_blanks blank []
    rwa [List.append_nil] at nothing

theorem trim_eq_nil_iff {text : Bytes} : trim text = [] ↔ fields text = [] := by
  constructor
  · intro empty
    rw [← fields_trim, empty]
    rfl
  · intro empty
    have dropped : (glyphs text).dropWhile Glyph.isBlank = [] :=
      List.dropWhile_eq_nil_iff.2 (fields_eq_nil_iff.1 empty)
    rw [trim, trimGlyphs, dropped]
    rfl

/-- A text of one word is that word with white space around it. -/
theorem trim_of_single {text word : Bytes} (single : fields text = [word]) : trim text = word := by
  have words : fields (trim text) = [trim text] := by
    apply fields_of_trimmed (trim_trim text)
    rw [fields_trim, single]
    rfl
  rw [fields_trim, single] at words
  exact (List.cons.inj words).1.symm

/-! ### Columns -/

theorem fields_spaces_append (count : Nat) (text : Bytes) :
    fields (List.replicate count 0x20 ++ text) = fields text := by
  induction count with
  | zero => rfl
  | succ count inductionHypothesis =>
      rw [List.replicate_succ, List.cons_append]
      change fields ([] ++ 0x20 :: (List.replicate count 0x20 ++ text)) = _
      rw [fields_append_blank rfl, inductionHypothesis]
      rfl

theorem fields_append_spaces (count : Nat) (text : Bytes) :
    fields (text ++ List.replicate count 0x20) = fields text := by
  cases count with
  | zero => rw [List.replicate_zero, List.append_nil]
  | succ count =>
      have nothing : fields (List.replicate count 0x20) = [] := by
        rw [← List.append_nil (List.replicate count _), fields_spaces_append]
        rfl
      rw [List.replicate_succ, fields_append_blank rfl, nothing, List.append_nil]

end Text

end BasicComputer
