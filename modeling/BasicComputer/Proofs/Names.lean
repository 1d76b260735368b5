import BasicComputer.Expression.Token
import BasicComputer.Proofs.Words

/-!
Contract: the names of the expression language.

A name is a letter or an underscore and then letters, ASCII digits and underscores, in UTF-8
(`IsName`). The letters are those of Unicode.

Owns:
- that what `encodePoint` writes is read back as one character (`firstCharacter?_of_encodes`);
- that a name holds no white space (`NameRun.glyphs`);
- that a name which nothing continues is one token (`nextToken?_of_isName`).
-/

namespace BasicComputer

namespace Text

/-! ### Encodings -/

/-- A code point that text can hold: no surrogate. -/
def IsScalar (code : Nat) : Prop :=
  code < 0xD800 ∨ 0xDFFF < code ∧ code ≤ 0x10FFFF

instance (code : Nat) : Decidable (IsScalar code) :=
  inferInstanceAs (Decidable (_ ∨ _))

/-- The shortest encoding of a code point. -/
inductive Encodes : Nat → Bytes → Prop
  | one {code : Nat} {byte : UInt8} (range : code < 0x80) (value : byte.toNat = code) :
      Encodes code [byte]
  | two {code : Nat} {lead last : UInt8} (range : 0x80 ≤ code ∧ code < 0x800)
      (leadValue : lead.toNat = 0xC0 + code / 64) (lastValue : last.toNat = 0x80 + code % 64) :
      Encodes code [lead, last]
  | three {code : Nat} {lead middle last : UInt8} (range : 0x800 ≤ code ∧ code < 0x10000)
      (scalar : code < 0xD800 ∨ 0xDFFF < code) (leadValue : lead.toNat = 0xE0 + code / 4096)
      (middleValue : middle.toNat = 0x80 + code / 64 % 64)
      (lastValue : last.toNat = 0x80 + code % 64) : Encodes code [lead, middle, last]
  | four {code : Nat} {lead second third last : UInt8} (range : 0x10000 ≤ code ∧ code ≤ 0x10FFFF)
      (leadValue : lead.toNat = 0xF0 + code / 262144)
      (secondValue : second.toNat = 0x80 + code / 4096 % 64)
      (thirdValue : third.toNat = 0x80 + code / 64 % 64)
      (lastValue : last.toNat = 0x80 + code % 64) : Encodes code [lead, second, third, last]

theorem encodes_encodePoint {code : Nat} (scalar : IsScalar code) :
    Encodes code (encodePoint code) := by
  have kept {number : Nat} (small : number < 256) : (UInt8.ofNat number).toNat = number :=
    UInt8.toNat_ofNat_of_lt' small
  unfold IsScalar at scalar
  unfold encodePoint
  split
  · next range => exact .one range (kept (by omega))
  · split
    · exact .two (by omega) (kept (by omega)) (kept (by omega))
    · rw [if_neg (by omega)]
      split
      · exact .three (by omega) (by omega) (kept (by omega)) (kept (by omega)) (kept (by omega))
      · exact .four (by omega) (kept (by omega)) (kept (by omega)) (kept (by omega))
          (kept (by omega))

theorem not_ascii {byte : UInt8} (above : 0x80 ≤ byte.toNat) : ¬ byte < 0x80 := by
  simp only [UInt8.lt_iff_toNat_lt, UInt8.reduceToNat]
  omega

theorem isTail_iff (byte : UInt8) :
    isTail byte = true ↔ 0x80 ≤ byte.toNat ∧ byte.toNat ≤ 0xBF := by
  simp [isTail, UInt8.le_iff_toNat_le]

theorem startsThree_iff (first second : UInt8) :
    startsThree first second = true ↔
      0xE0 ≤ first.toNat ∧ first.toNat ≤ 0xEF ∧ 0x80 ≤ second.toNat ∧ second.toNat ≤ 0xBF ∧
        (first.toNat = 0xE0 → 0xA0 ≤ second.toNat) ∧
        (first.toNat = 0xED → second.toNat ≤ 0x9F) := by
  unfold startsThree
  simp only [← UInt8.toNat_inj, UInt8.reduceToNat]
  split
  · simp [UInt8.le_iff_toNat_le]
    omega
  · split
    · simp [UInt8.le_iff_toNat_le]
      omega
    · simp [UInt8.le_iff_toNat_le, isTail_iff]
      omega

theorem startsFour_iff (first second : UInt8) :
    startsFour first second = true ↔
      0xF0 ≤ first.toNat ∧ first.toNat ≤ 0xF4 ∧ 0x80 ≤ second.toNat ∧ second.toNat ≤ 0xBF ∧
        (first.toNat = 0xF0 → 0x90 ≤ second.toNat) ∧
        (first.toNat = 0xF4 → second.toNat ≤ 0x8F) := by
  unfold startsFour
  simp only [← UInt8.toNat_inj, UInt8.reduceToNat]
  split
  · simp [UInt8.le_iff_toNat_le]
    omega
  · split
    · simp [UInt8.le_iff_toNat_le]
      omega
    · simp [UInt8.le_iff_toNat_le, isTail_iff]
      omega

section Encodes

variable {code : Nat} {encoding : Bytes}

theorem firstCharacter?_of_encodes (encodes : Encodes code encoding) (rest : Bytes) :
    firstCharacter? (encoding ++ rest) = some (.point code encoding) := by
  cases encodes with
  | @one byte range value =>
      have ascii : byte < 0x80 := UInt8.lt_iff_toNat_lt.2 (by simpa [value] using range)
      simp only [List.singleton_append, firstCharacter?, if_pos ascii, value]
  | @two lead last range leadValue lastValue =>
      have lead80 : ¬ lead < 0x80 := not_ascii (by omega)
      have notFour : startsFour lead last = false := by
        rw [← Bool.not_eq_true, startsFour_iff]
        omega
      have notThree : startsThree lead last = false := by
        rw [← Bool.not_eq_true, startsThree_iff]
        omega
      have isTwo : (0xC2 ≤ lead && lead ≤ 0xDF && isTail last) = true := by
        simp only [Bool.and_eq_true, decide_eq_true_eq, UInt8.le_iff_toNat_le, UInt8.reduceToNat,
          isTail_iff]
        omega
      have value : lead.toNat % 32 * 64 + tailBits last = code := by
        unfold tailBits
        omega
      -- the reader looks at up to four bytes, so at up to two of what follows
      rcases rest with _ | ⟨third, _ | ⟨fourth, more⟩⟩ <;>
        simp [firstCharacter?, lead80, notFour, notThree, isTwo, value]
  | @three lead middle last range scalar leadValue middleValue lastValue =>
      have lead80 : ¬ lead < 0x80 := not_ascii (by omega)
      have notFour : startsFour lead middle = false := by
        rw [← Bool.not_eq_true, startsFour_iff]
        omega
      have isThree : (startsThree lead middle && isTail last) = true := by
        rw [Bool.and_eq_true, startsThree_iff, isTail_iff]
        omega
      have value : (lead.toNat % 16 * 64 + tailBits middle) * 64 + tailBits last = code := by
        unfold tailBits
        omega
      rcases rest with _ | ⟨fourth, more⟩ <;>
        simp [firstCharacter?, lead80, notFour, isThree, value]
  | @four lead second third last range leadValue secondValue thirdValue lastValue =>
      have lead80 : ¬ lead < 0x80 := not_ascii (by omega)
      have isFour : (startsFour lead second && isTail third && isTail last) = true := by
        rw [Bool.and_eq_true, Bool.and_eq_true, startsFour_iff, isTail_iff, isTail_iff]
        omega
      have value : ((lead.toNat % 8 * 64 + tailBits second) * 64 + tailBits third) * 64 +
          tailBits last = code := by
        unfold tailBits
        omega
      simp [firstCharacter?, lead80, isFour, value]

theorem Encodes.exists_cons (encodes : Encodes code encoding) :
    ∃ byte more, encoding = byte :: more := by
  cases encodes <;> exact ⟨_, _, rfl⟩

/-- A byte of an encoding is the code point itself or no ASCII. -/
theorem Encodes.byte_cases (encodes : Encodes code encoding) {byte : UInt8}
    (member : byte ∈ encoding) : byte.toNat = code ∨ 0x80 ≤ byte.toNat := by
  cases encodes with
  | one range value =>
      obtain rfl := List.mem_singleton.1 member
      exact .inl value
  | two range leadValue lastValue =>
      simp only [List.mem_cons, List.not_mem_nil, or_false] at member
      rcases member with rfl | rfl <;> omega
  | three range scalar leadValue middleValue lastValue =>
      simp only [List.mem_cons, List.not_mem_nil, or_false] at member
      rcases member with rfl | rfl | rfl <;> omega
  | four range leadValue secondValue thirdValue lastValue =>
      simp only [List.mem_cons, List.not_mem_nil, or_false] at member
      rcases member with rfl | rfl | rfl | rfl <;> omega

/-! ### White space -/

theorem glyphs_of_lead {first : UInt8} {rest : Bytes} (above : 0x80 ≤ first.toNat)
    (notPair : ∀ second more, rest = second :: more → ¬ isBlankPair first second)
    (notTriple : ∀ second third more, rest = second :: third :: more →
      ¬ isBlankTriple first second third) :
    glyphs (first :: rest) = .ink first :: glyphs rest := by
  have noBlank : isBlankByte first = false := by
    rw [← Bool.not_eq_true]
    exact fun isBlank => not_ascii above (isBlankByte_ascii isBlank)
  rw [glyphs_cons notPair notTriple, singleGlyph, noBlank]
  rfl

theorem isBlankPair_iff (first second : UInt8) :
    isBlankPair first second = true ↔
      first.toNat = 0xC2 ∧ (second.toNat = 0x85 ∨ second.toNat = 0xA0) := by
  simp [isBlankPair, ← UInt8.toNat_inj]

theorem isBlankTriple_iff (first second third : UInt8) :
    isBlankTriple first second third = true ↔
      (first.toNat = 0xE1 ∧ second.toNat = 0x9A ∧ third.toNat = 0x80) ∨
      (first.toNat = 0xE2 ∧ second.toNat = 0x80 ∧
        (0x80 ≤ third.toNat ∧ third.toNat ≤ 0x8A ∨ third.toNat = 0xA8 ∨ third.toNat = 0xA9 ∨
          third.toNat = 0xAF)) ∨
      (first.toNat = 0xE2 ∧ second.toNat = 0x81 ∧ third.toNat = 0x9F) ∨
      first.toNat = 0xE3 ∧ second.toNat = 0x80 ∧ third.toNat = 0x80 := by
  simp [isBlankTriple, ← UInt8.toNat_inj, UInt8.le_iff_toNat_le, and_assoc, or_assoc]

theorem isBlankByte_iff (byte : UInt8) :
    isBlankByte byte = true ↔ 9 ≤ byte.toNat ∧ byte.toNat ≤ 13 ∨ byte.toNat = 32 := by
  simp [isBlankByte, ← UInt8.toNat_inj, UInt8.le_iff_toNat_le]

/-- A byte that starts no blank of several bytes. -/
theorem glyphs_of_noLead {byte : UInt8} (above : 0x80 ≤ byte.toNat) (notPair : byte.toNat ≠ 0xC2)
    (notTriple : byte.toNat < 0xE1 ∨ 0xE3 < byte.toNat) (rest : Bytes) :
    glyphs (byte :: rest) = .ink byte :: glyphs rest := by
  apply glyphs_of_lead above
  · intro second more _
    rw [isBlankPair_iff]
    omega
  · intro second third more _
    rw [isBlankTriple_iff]
    omega

theorem isSpace_of_isBlankPair {lead last : UInt8} (leadValue : lead.toNat = 0xC0 + code / 64)
    (lastValue : last.toNat = 0x80 + code % 64) (isBlank : isBlankPair lead last = true) :
    isSpace code = true := by
  rw [isBlankPair_iff] at isBlank
  obtain rfl | rfl : code = 0x85 ∨ code = 0xA0 := by omega
  · rfl
  · rfl

theorem isSpace_of_isBlankTriple {lead middle last : UInt8}
    (leadValue : lead.toNat = 0xE0 + code / 4096)
    (middleValue : middle.toNat = 0x80 + code / 64 % 64)
    (lastValue : last.toNat = 0x80 + code % 64) (isBlank : isBlankTriple lead middle last = true) :
    isSpace code = true := by
  rw [isBlankTriple_iff] at isBlank
  rcases isBlank with isBlank | ⟨first, second, third⟩ | isBlank | isBlank
  · obtain rfl : code = 0x1680 := by omega
    rfl
  · have offset : code = 0x2000 + code % 64 := by omega
    rw [offset]
    rcases third with third | third | third | third <;> simp [isSpace] <;> omega
  · obtain rfl : code = 0x205F := by omega
    rfl
  · obtain rfl : code = 0x3000 := by omega
    rfl

/-- The encoding of what is no white space is no blank, and none starts inside it. -/
theorem glyphs_of_encodes (encodes : Encodes code encoding) (notSpace : isSpace code = false)
    (rest : Bytes) : glyphs (encoding ++ rest) = encoding.map .ink ++ glyphs rest := by
  rw [← Bool.not_eq_true] at notSpace
  cases encodes with
  | @one byte range value =>
      have noBlank : isBlankByte byte = false := by
        rw [← Bool.not_eq_true, isBlankByte_iff, value]
        intro isBlank
        apply notSpace
        rcases isBlank with ⟨least, greatest⟩ | rfl
        · simp [isSpace, least, greatest]
        · rfl
      have ascii : byte < 0x80 := UInt8.lt_iff_toNat_lt.2 (by simpa [value] using range)
      rw [List.singleton_append, glyphs_ascii_cons ascii, singleGlyph, noBlank]
      rfl
  | @two lead last range leadValue lastValue =>
      have leadInk : glyphs (lead :: last :: rest) = .ink lead :: glyphs (last :: rest) := by
        apply glyphs_of_lead (by omega)
        · intro second more same isBlank
          obtain rfl := (List.cons.inj same).1
          exact notSpace (isSpace_of_isBlankPair leadValue lastValue isBlank)
        · intro second third more _
          rw [isBlankTriple_iff]
          omega
      rw [List.cons_append, List.singleton_append, leadInk,
        glyphs_of_noLead (by omega) (by omega) (by omega)]
      rfl
  | @three lead middle last range scalar leadValue middleValue lastValue =>
      have leadInk : glyphs (lead :: middle :: last :: rest) =
          .ink lead :: glyphs (middle :: last :: rest) := by
        apply glyphs_of_lead (by omega)
        · intro second more _
          rw [isBlankPair_iff]
          omega
        · intro second third more same isBlank
          obtain ⟨rfl, others⟩ := List.cons.inj same
          obtain rfl := (List.cons.inj others).1
          exact notSpace (isSpace_of_isBlankTriple leadValue middleValue lastValue isBlank)
      rw [List.cons_append, List.cons_append, List.singleton_append, leadInk,
        glyphs_of_noLead (by omega) (by omega) (by omega),
        glyphs_of_noLead (by omega) (by omega) (by omega)]
      rfl
  | @four lead second third last range leadValue secondValue thirdValue lastValue =>
      rw [List.cons_append, List.cons_append, List.cons_append, List.singleton_append,
        glyphs_of_noLead (by omega) (by omega) (by omega),
        glyphs_of_noLead (by omega) (by omega) (by omega),
        glyphs_of_noLead (by omega) (by omega) (by omega),
        glyphs_of_noLead (by omega) (by omega) (by omega)]
      rfl

end Encodes

end Text

namespace Expression

open Text

/-! ### Names -/

/-- A run of characters that continue a name. -/
inductive NameRun : Bytes → Prop
  | nil : NameRun []
  | cons {code : Nat} {encoding rest : Bytes} (encodes : Encodes code encoding)
      (continues : continuesName code = true) (run : NameRun rest) : NameRun (encoding ++ rest)

/-- A name: code points, the first of which can start a name and the others continue it. -/
inductive IsName : Bytes → Prop
  | spelled {first : Nat} {rest : List Nat} (scalar : ∀ code ∈ first :: rest, IsScalar code)
      (starts : startsName first = true) (continues : ∀ code ∈ rest, continuesName code = true) :
      IsName (encodePoints (first :: rest))

theorem nameRun_encodePoints {codes : List Nat} (scalar : ∀ code ∈ codes, IsScalar code)
    (continues : ∀ code ∈ codes, continuesName code = true) : NameRun (encodePoints codes) := by
  induction codes with
  | nil => exact .nil
  | cons code rest inductionHypothesis =>
      obtain ⟨codeScalar, restScalar⟩ := List.forall_mem_cons.1 scalar
      obtain ⟨codeContinues, restContinues⟩ := List.forall_mem_cons.1 continues
      exact .cons (encodes_encodePoint codeScalar) codeContinues
        (inductionHypothesis restScalar restContinues)

theorem continues_of_starts {code : Nat} (starts : startsName code = true) :
    continuesName code = true := by
  simp [continuesName, starts]

theorem IsName.run {name : Bytes} (isName : IsName name) : NameRun name := by
  cases isName with
  | spelled scalar starts continues =>
      apply nameRun_encodePoints scalar
      exact List.forall_mem_cons.2 ⟨continues_of_starts starts, continues⟩

theorem notSpace_of_continues {code : Nat} (continues : continuesName code = true) :
    isSpace code = false := by
  have every : ∀ space ∈ List.range' 9 5 ++ List.range' 0x2000 11 ++
      [0x20, 0x85, 0xA0, 0x1680, 0x2028, 0x2029, 0x202F, 0x205F, 0x3000],
      continuesName space = false := by decide +kernel
  rw [← Bool.not_eq_true]
  intro space
  simp only [isSpace, Bool.or_eq_true, Bool.and_eq_true, decide_eq_true_eq, beq_iff_eq] at space
  simp only [List.mem_append, List.mem_range'_1, List.mem_cons, Nat.reduceAdd] at every
  rw [every code (by grind)] at continues
  contradiction

theorem NameRun.glyphs {text : Bytes} (run : NameRun text) : glyphs text = text.map .ink := by
  induction run with
  | nil => rfl
  | cons encodes continues _ inductionHypothesis =>
      rw [glyphs_of_encodes encodes (notSpace_of_continues continues), inductionHypothesis,
        List.map_append]

/-! ### Tokens -/

/-- Whether a byte can be the first of a name. -/
def isNameStart (byte : UInt8) : Bool :=
  0x80 ≤ byte || startsName byte.toNat

theorem IsName.exists_start {name : Bytes} (isName : IsName name) :
    ∃ byte more, name = byte :: more ∧ isNameStart byte = true := by
  cases isName with
  | @spelled first rest scalar starts _ =>
      have encodes := encodes_encodePoint (scalar first List.mem_cons_self)
      obtain ⟨byte, more, shape⟩ := encodes.exists_cons
      have value := encodes.byte_cases (shape ▸ List.mem_cons_self)
      refine ⟨byte, more ++ encodePoints rest, ?_, ?_⟩
      · rw [encodePoints, List.flatMap_cons, shape]
        rfl
      · rcases value with same | above
        · simp [isNameStart, same, starts]
        · simp [isNameStart, UInt8.le_iff_toNat_le, above]

theorem IsName.nonempty {name : Bytes} (isName : IsName name) : name ≠ [] := by
  obtain ⟨byte, more, rfl, _⟩ := isName.exists_start
  exact List.cons_ne_nil byte more

/-- The bytes that start a mark, or end the program. -/
def markStarts : List UInt8 :=
  [0x21, 0x25, 0x26, 0x28, 0x29, 0x2A, 0x2B, 0x2C, 0x2D, 0x2E, 0x2F, 0x3A, 0x3B, 0x3C, 0x3D, 0x3E,
    0x5B, 0x5D, 0x5E, 0x7B, 0x7C, 0x7D, 0x7E, 0x00, 0x23, 0x5C]

/-- A text with this first byte starts with a word. -/
structure StartsWord (byte : UInt8) : Prop where
  noDigit : isDigitByte 10 byte = false
  noQuote : isQuote byte = false
  noMark : ∀ mark ∈ markStarts, byte ≠ mark

theorem startsWord_of_isNameStart {byte : UInt8} (starts : isNameStart byte = true) :
    StartsWord byte := by
  have none : (markStarts ++ [0x22, 0x27] ++ (List.range' 0x30 10).map UInt8.ofNat).any
      isNameStart = false := by decide
  have differs : ∀ stop ∈ markStarts ++ [0x22, 0x27] ++ (List.range' 0x30 10).map UInt8.ofNat,
      byte ≠ stop := by
    rintro stop member rfl
    exact List.any_eq_false.1 none byte member starts
  constructor
  · have digits : ∀ number < 256, isDigitByte 10 (UInt8.ofNat number) = true →
        UInt8.ofNat number ∈ (List.range' 0x30 10).map UInt8.ofNat := by decide +kernel
    have isDigit := digits byte.toNat byte.toNat_lt
    rw [UInt8.ofNat_toNat] at isDigit
    rw [← Bool.not_eq_true]
    exact fun found => differs byte (List.mem_append_right _ (isDigit found)) rfl
  · simp [isQuote, differs 0x22 (by decide), differs 0x27 (by decide)]
  · intro mark member
    exact differs mark (List.mem_append_left _ (List.mem_append_left _ member))

namespace StartsWord

variable {byte : UInt8} (starts : StartsWord byte) (rest : Bytes)

include starts

theorem punctuation? : punctuation? (byte :: rest) = none := by
  unfold Expression.punctuation?
  split <;> first
    | rfl
    | next same => exact absurd (List.cons.inj same).1 (starts.noMark _ (by decide))

theorem punctuation?_assign :
    Expression.punctuation? (0x3D :: byte :: rest) = some (.assign, byte :: rest) := by
  rw [Expression.punctuation?]
  intro more comparison
  exact starts.noMark 0x3D (by decide) (List.cons.inj comparison).1

theorem startsNumber : startsNumber (byte :: rest) = false := by
  unfold Expression.startsNumber
  split
  · next same => exact absurd (List.cons.inj same).1 (starts.noMark _ (by decide))
  · next same =>
      obtain ⟨rfl, _⟩ := List.cons.inj same
      exact starts.noDigit
  · rfl

theorem endsHere : endsHere (byte :: rest) = false := by
  have noEnd : byte ≠ 0 ∧ byte ≠ 0x23 ∧ byte ≠ 0x5C :=
    ⟨starts.noMark _ (by decide), starts.noMark _ (by decide), starts.noMark _ (by decide)⟩
  cases rest with
  | nil => simp [Expression.endsHere, noEnd]
  | cons next more => simp [Expression.endsHere, noEnd]

end StartsWord

/-- A text that does not go on with a name. -/
def StopsName (text : Bytes) : Prop :=
  ∀ code encoding, firstCharacter? text = some (.point code encoding) → continuesName code = false

theorem spanName_of_stops {text : Bytes} (stops : StopsName text) (passed : Bytes) :
    spanName 0 passed text = (passed.reverse, text) := by
  cases text with
  | nil => rfl
  | cons byte rest =>
      rw [spanName]
      split
      · next code encoding found => rw [stops code encoding found, if_neg (by decide)]
      · rfl

theorem spanName_inside (bytes passed rest : Bytes) :
    spanName bytes.length passed (bytes ++ rest) = spanName 0 (bytes.reverse ++ passed) rest := by
  induction bytes generalizing passed with
  | nil => rfl
  | cons byte bytes inductionHypothesis =>
      rw [List.length_cons, List.cons_append, spanName, inductionHypothesis]
      simp

theorem spanName_of_run {name : Bytes} (run : NameRun name) (passed rest : Bytes) :
    spanName 0 passed (name ++ rest) = spanName 0 (name.reverse ++ passed) rest := by
  induction run generalizing passed with
  | nil => rfl
  | @cons code encoding more encodes continues _ inductionHypothesis =>
      rw [List.append_assoc, List.reverse_append, List.append_assoc, ← inductionHypothesis]
      have found := firstCharacter?_of_encodes encodes (more ++ rest)
      -- the first byte is passed because of the character, the others as its rest
      obtain ⟨byte, others, rfl⟩ := encodes.exists_cons
      rw [List.cons_append] at found ⊢
      rw [spanName, found]
      simp only [continues, if_true, List.length_cons, Nat.add_sub_cancel]
      rw [spanName_inside, List.reverse_cons, List.append_assoc, List.singleton_append]

theorem IsName.spanName {name rest : Bytes} (isName : IsName name) (stops : StopsName rest) :
    spanName 0 [] (name ++ rest) = (name, rest) := by
  rw [spanName_of_run isName.run, spanName_of_stops stops, List.append_nil, List.reverse_reverse]

theorem NameRun.noQuote {text : Bytes} (run : NameRun text) :
    ∀ byte ∈ text, isQuote byte = false := by
  have quotes : ∀ quote : UInt8, isQuote quote = true →
      quote.toNat < 0x80 ∧ continuesName quote.toNat = false := by
    intro quote isQuote
    rcases Bool.or_eq_true_iff.1 isQuote with double | single
    · obtain rfl := eq_of_beq double
      decide
    · obtain rfl := eq_of_beq single
      decide
  induction run with
  | nil => simp
  | @cons code encoding rest encodes continues _ inductionHypothesis =>
      intro byte member
      rcases List.mem_append.1 member with inside | later
      · rw [← Bool.not_eq_true]
        intro isQuote
        obtain ⟨ascii, stops⟩ := quotes byte isQuote
        rcases encodes.byte_cases inside with value | above
        · rw [value, continues] at stops
          cases stops
        · omega
      · exact inductionHypothesis byte later

theorem word?_of_noQuote {text : Bytes} (noQuote : ∀ byte ∈ text, isQuote byte = false) :
    word? text = plainWord? text := by
  unfold word?
  split
  · rw [noQuote _ (by simp), if_neg (by decide)]
  · rw [noQuote _ (by simp), if_neg (by decide)]
  · rw [noQuote _ (by simp), if_neg (by decide)]
  · rfl

/-- A name is one token, up to where nothing continues it. -/
theorem nextToken?_of_isName {name rest : Bytes} (isName : IsName name) (stops : StopsName rest)
    (noQuote : ∀ byte ∈ rest, isQuote byte = false) :
    nextToken? (name ++ rest) = some (wordToken name, rest) := by
  have plain : plainWord? (name ++ rest) = some (wordToken name, rest) := by
    have span := isName.spanName stops
    cases isName with
    | @spelled first others scalar starts _ =>
        have found := firstCharacter?_of_encodes
          (encodes_encodePoint (scalar first List.mem_cons_self)) (encodePoints others ++ rest)
        rw [← List.append_assoc] at found
        unfold plainWord?
        rw [show encodePoints (first :: others) = encodePoint first ++ encodePoints others from
          List.flatMap_cons] at span ⊢
        simp only [found, starts, if_true, span]
  have quoteFree : ∀ byte ∈ name ++ rest, isQuote byte = false :=
    List.forall_mem_append.2 ⟨isName.run.noQuote, noQuote⟩
  obtain ⟨byte, more, rfl, starts⟩ := isName.exists_start
  have isWord := startsWord_of_isNameStart starts
  rw [List.cons_append] at plain quoteFree ⊢
  rw [nextToken?, isWord.startsNumber, isWord.noQuote, isWord.punctuation?,
    word?_of_noQuote quoteFree, plain]
  rfl

end Expression

end BasicComputer
