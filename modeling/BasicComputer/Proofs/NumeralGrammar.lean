import BasicComputer.Proofs.Numerals
import Mathlib.Data.List.Forall2
import Mathlib.Data.Nat.Digits.Defs

/-!
Contract: which texts are numerals, and what the readers make of them.

A numeral of a base is one or more of its digits, in either case and of whatever
length (`IsNumeral`), and a signed numeral has at most one sign in front
(`IsSignedNumeral`). Its number is the positional value of the digits.

Owns:
- that the readers, which keep 64 bits, give this number exactly if it fits, and
  otherwise say that it is out of range;
- what they make of texts that are no numerals: a signed one is found to be none, unless it
  starts with a numeral of more than 64 bits (`StartsTooLarge`).
-/

namespace BasicComputer.Text

/-- A byte that shows a digit of a base, in either case. -/
def ShowsDigit (base digit : Nat) (byte : UInt8) : Prop :=
  digit < base ∧ (byte = digitByte digit ∨ byte = upperDigitByte digit)

/-- A text of one or more digits, with the number that it stands for. -/
inductive IsNumeral (base : Nat) : Bytes → Nat → Prop
  | digits {numerals : List Nat} {text : Bytes} (nonempty : text ≠ [])
      (shown : List.Forall₂ (ShowsDigit base) numerals text) :
      IsNumeral base text (Nat.ofDigits base numerals.reverse)

/-- A numeral with at most one sign in front, with the integer that it stands for. -/
inductive IsSignedNumeral (base : Nat) : Bytes → Int → Prop
  | unsigned {text : Bytes} {number : Nat} (numeral : IsNumeral base text number) :
      IsSignedNumeral base text number
  | plus {text : Bytes} {number : Nat} (numeral : IsNumeral base text number) :
      IsSignedNumeral base (0x2B :: text) number
  | minus {text : Bytes} {number : Nat} (numeral : IsNumeral base text number) :
      IsSignedNumeral base (0x2D :: text) (-number)

theorem digitsValue_eq_ofDigits (base : Nat) (numerals : List Nat) :
    digitsValue base 0 numerals = Nat.ofDigits base numerals.reverse := by
  rw [Nat.ofDigits_eq_foldr, List.foldr_reverse, digitsValue]
  congr 1
  funext magnitude digit
  simp only [Nat.cast_id]
  rw [Nat.add_comm, Nat.mul_comm]

theorem isNumeral_map_digitByte {base : Nat} (numerals : List Nat) (nonempty : numerals ≠ [])
    (below : ∀ digit ∈ numerals, digit < base) :
    IsNumeral base (numerals.map digitByte) (Nat.ofDigits base numerals.reverse) := by
  refine .digits (by simpa using nonempty) ?_
  rw [List.forall₂_map_right_iff, List.forall₂_same]
  exact fun digit member => ⟨below digit member, .inl rfl⟩

theorem IsNumeral.nonempty {base number : Nat} {text : Bytes}
    (numeral : IsNumeral base text number) : text ≠ [] := by
  cases numeral with
  | digits nonempty _ => exact nonempty

theorem IsNumeral.exists_digit {base number : Nat} {text : Bytes}
    (numeral : IsNumeral base text number) :
    ∀ byte ∈ text, ∃ digit, ShowsDigit base digit byte := by
  cases numeral with
  | digits nonempty shown =>
      clear nonempty
      induction shown with
      | nil => simp
      | @cons digit first _ _ shows _ inductionHypothesis =>
          intro byte member
          rcases List.mem_cons.1 member with rfl | later
          · exact ⟨digit, shows⟩
          · exact inductionHypothesis byte later

/-! ### Digits -/

theorem digitValue?_shown : ∀ digit < 36, digitValue? (digitByte digit) = some digit ∧
    digitValue? (upperDigitByte digit) = some digit := by
  decide

theorem shown_of_digitValue? {byte : UInt8} {digit : Nat} (value : digitValue? byte = some digit) :
    byte = digitByte digit ∨ byte = upperDigitByte digit := by
  unfold digitValue? at value
  unfold digitByte upperDigitByte
  split at value
  · next bounds =>
      have low : 0x30 ≤ byte.toNat := bounds.1
      have high : byte.toNat ≤ 0x39 := bounds.2
      obtain rfl := Option.some.inj value
      left
      rw [if_pos (by omega), show 0x30 + (byte.toNat - 0x30) = byte.toNat by omega,
        UInt8.ofNat_toNat]
  · split at value
    · next bounds =>
        have low : 0x61 ≤ byte.toNat := bounds.1
        obtain rfl := Option.some.inj value
        left
        rw [if_neg (by omega), show 0x61 + (byte.toNat - 0x61 + 10 - 10) = byte.toNat by omega,
          UInt8.ofNat_toNat]
    · split at value
      · next bounds =>
          have low : 0x41 ≤ byte.toNat := bounds.1
          obtain rfl := Option.some.inj value
          right
          rw [if_neg (by omega), show 0x41 + (byte.toNat - 0x41 + 10 - 10) = byte.toNat by omega,
            UInt8.ofNat_toNat]
      · contradiction

theorem digitOf?_eq_some_iff {base digit : Nat} (few : base ≤ 36) {byte : UInt8} :
    digitOf? base byte = some digit ↔ ShowsDigit base digit byte := by
  unfold digitOf? ShowsDigit
  constructor
  · intro value
    split at value
    · next found =>
        split at value
        · next below =>
            obtain rfl := Option.some.inj value
            exact ⟨below, shown_of_digitValue? found⟩
        · contradiction
    · contradiction
  · rintro ⟨below, shown⟩
    obtain ⟨lower, upper⟩ := digitValue?_shown digit (by omega)
    rcases shown with rfl | rfl
    · simp [lower, below]
    · simp [upper, below]

theorem ShowsDigit.not_sign {base digit : Nat} (few : base ≤ 36) {byte : UInt8}
    (shows : ShowsDigit base digit byte) : byte ≠ 0x2B ∧ byte ≠ 0x2D := by
  have value := (digitOf?_eq_some_iff few).2 shows
  constructor
  · rintro rfl
    simp [digitOf?, digitValue?] at value
  · rintro rfl
    simp [digitOf?, digitValue?] at value

section Readers

variable {base : Nat} {text : Bytes}

/-! ### Unsigned numerals -/

/-- What has been read only grows, so the reader stops exactly at numerals that do not
fit. -/
theorem readDigits_of_shown (positive : 0 < base) (few : base ≤ 36) {magnitude : Nat}
    {numerals : List Nat} (fits : magnitude < magnitudeLimit)
    (shown : List.Forall₂ (ShowsDigit base) numerals text) :
    readDigits base magnitude text =
      if digitsValue base magnitude numerals < magnitudeLimit then
        .value (digitsValue base magnitude numerals)
      else .outOfRange := by
  induction shown generalizing magnitude with
  | nil => rw [readDigits, digitsValue_nil, if_pos fits]
  | @cons digit byte numerals rest shows _ inductionHypothesis =>
      rw [readDigits, (digitOf?_eq_some_iff few).2 shows, digitsValue_cons]
      dsimp only
      by_cases next : magnitude * base + digit < magnitudeLimit
      · rw [if_pos next, inductionHypothesis next]
      · have grown := le_digitsValue positive (magnitude * base + digit) numerals
        rw [if_neg next, if_neg (by omega)]

theorem shown_of_readDigits (few : base ≤ 36) {magnitude number : Nat}
    (read : readDigits base magnitude text = .value number) :
    ∃ numerals, List.Forall₂ (ShowsDigit base) numerals text ∧
      digitsValue base magnitude numerals = number := by
  induction text generalizing magnitude with
  | nil =>
      cases read
      exact ⟨[], .nil, rfl⟩
  | cons byte rest inductionHypothesis =>
      rw [readDigits] at read
      split at read
      · contradiction
      · next digit found =>
          split at read
          · obtain ⟨numerals, shown, value⟩ := inductionHypothesis read
            exact ⟨digit :: numerals, .cons ((digitOf?_eq_some_iff few).1 found) shown, value⟩
          · contradiction

theorem readUnsigned_of_isNumeral (positive : 0 < base) (few : base ≤ 36) {number : Nat}
    (numeral : IsNumeral base text number) :
    readUnsigned base text = if number < magnitudeLimit then .value number else .outOfRange := by
  cases numeral with
  | @digits numerals _ nonempty shown =>
      have start : 0 < magnitudeLimit := by decide
      rw [readUnsigned, if_neg (by simpa using nonempty),
        readDigits_of_shown positive few start shown, digitsValue_eq_ofDigits]

theorem isNumeral_of_readUnsigned (few : base ≤ 36) {number : Nat}
    (read : readUnsigned base text = .value number) : IsNumeral base text number := by
  rw [readUnsigned] at read
  split at read
  · contradiction
  · next nonempty =>
      obtain ⟨numerals, shown, rfl⟩ := shown_of_readDigits few read
      rw [digitsValue_eq_ofDigits]
      exact .digits (by simpa using nonempty) shown

/-- A number of 64 bits is read from its numerals and from nothing else. -/
theorem readUnsigned_eq_value_iff (positive : 0 < base) (few : base ≤ 36) {number : Nat}
    (fits : number < magnitudeLimit) :
    readUnsigned base text = .value number ↔ IsNumeral base text number := by
  refine ⟨isNumeral_of_readUnsigned few, ?_⟩
  intro numeral
  rw [readUnsigned_of_isNumeral positive few numeral, if_pos fits]

/-! ### Signed numerals -/

theorem IsNumeral.noSign (few : base ≤ 36) {number : Nat} (numeral : IsNumeral base text number) :
    ∀ byte ∈ text, byte ≠ 0x2B ∧ byte ≠ 0x2D := by
  intro byte member
  obtain ⟨digit, shows⟩ := numeral.exists_digit byte member
  exact shows.not_sign few

/-- Whether an integer is one of 64 bits with a sign. -/
def FitsSigned (value : Int) : Prop :=
  -0x8000000000000000 ≤ value ∧ value < 0x8000000000000000

instance (value : Int) : Decidable (FitsSigned value) :=
  inferInstanceAs (Decidable (_ ∧ _))

theorem signedReading_of_number (negative : Bool) (number : Nat) :
    signedReading negative (if number < magnitudeLimit then .value number else .outOfRange) =
      if FitsSigned (if negative then -number else number) then
        .value (if negative then -number else number)
      else .outOfRange := by
  have limit : magnitudeLimit = 0x10000000000000000 := by decide
  have half : Nat.pow 2 63 = 0x8000000000000000 := by decide
  unfold FitsSigned
  rw [limit]
  by_cases wide : number < 0x10000000000000000
  · rw [if_pos wide, signedReading, half]
    cases negative <;> simp only [Bool.false_eq_true, ↓reduceIte] <;> split <;> grind
  · rw [if_neg wide, signedReading]
    cases negative <;> simp only [Bool.false_eq_true, ↓reduceIte] <;> grind

/-- An integer of 64 bits is read from its numerals, and other numerals are out of
range. -/
theorem readSigned_of_isSignedNumeral (positive : 0 < base) (few : base ≤ 36) {value : Int}
    (numeral : IsSignedNumeral base text value) :
    readSigned base text = if FitsSigned value then .value value else .outOfRange := by
  cases numeral with
  | unsigned numeral =>
      rw [readSigned_of_noSign (numeral.noSign few), readUnsigned_of_isNumeral positive few numeral]
      exact signedReading_of_number false _
  | plus numeral =>
      rw [readSigned, readUnsigned_of_isNumeral positive few numeral]
      exact signedReading_of_number false _
  | minus numeral =>
      rw [readSigned, readUnsigned_of_isNumeral positive few numeral]
      exact signedReading_of_number true _

/-! ### Texts that are no numerals -/

/-- A text starts with digits that make the reader stop, whatever follows them. -/
theorem readDigits_of_large (few : base ≤ 36) {magnitude : Nat} {numerals : List Nat}
    (shown : List.Forall₂ (ShowsDigit base) numerals text) (fits : magnitude < magnitudeLimit)
    (large : magnitudeLimit ≤ digitsValue base magnitude numerals) (rest : Bytes) :
    readDigits base magnitude (text ++ rest) = .outOfRange := by
  induction shown generalizing magnitude with
  | nil => exact absurd large (Nat.not_le.2 fits)
  | @cons digit byte numerals text shows _ inductionHypothesis =>
      rw [List.cons_append, readDigits, (digitOf?_eq_some_iff few).2 shows]
      dsimp only
      by_cases next : magnitude * base + digit < magnitudeLimit
      · rw [if_pos next, inductionHypothesis next large]
      · rw [if_neg next]

theorem exists_large_of_readDigits (few : base ≤ 36) {magnitude : Nat}
    (read : readDigits base magnitude text = .outOfRange) :
    ∃ numerals digits, digits <+: text ∧ digits ≠ [] ∧
      List.Forall₂ (ShowsDigit base) numerals digits ∧
      magnitudeLimit ≤ digitsValue base magnitude numerals := by
  induction text generalizing magnitude with
  | nil => cases read
  | cons byte rest inductionHypothesis =>
      rw [readDigits] at read
      split at read
      · contradiction
      · next digit found =>
          have shows := (digitOf?_eq_some_iff few).1 found
          split at read
          · obtain ⟨numerals, digits, starts, _, shown, large⟩ := inductionHypothesis read
            exact ⟨digit :: numerals, byte :: digits, (List.prefix_cons_inj byte).2 starts,
              List.cons_ne_nil byte digits, .cons shows shown, large⟩
          · next above =>
              exact ⟨[digit], [byte], ⟨rest, rfl⟩, List.cons_ne_nil byte [], .cons shows .nil,
                Nat.not_lt.1 above⟩

theorem readUnsigned_of_large (few : base ≤ 36) {number : Nat}
    (numeral : IsNumeral base text number) (large : magnitudeLimit ≤ number) (rest : Bytes) :
    readUnsigned base (text ++ rest) = .outOfRange := by
  cases numeral with
  | @digits numerals _ nonempty shown =>
      rw [← digitsValue_eq_ofDigits] at large
      rw [readUnsigned, if_neg (by simp [nonempty]),
        readDigits_of_large few shown (by decide) large]

theorem exists_numeral_of_readUnsigned (few : base ≤ 36)
    (read : readUnsigned base text ≠ .notNumeral) :
    (∃ number, IsNumeral base text number) ∨
      ∃ digits number, digits <+: text ∧ IsNumeral base digits number ∧
        magnitudeLimit ≤ number := by
  cases outcome : readUnsigned base text with
  | notNumeral => exact absurd outcome read
  | value number => exact .inl ⟨number, isNumeral_of_readUnsigned few outcome⟩
  | outOfRange =>
      right
      rw [readUnsigned] at outcome
      split at outcome
      · contradiction
      · obtain ⟨numerals, digits, starts, nonempty, shown, large⟩ :=
          exists_large_of_readDigits few outcome
        rw [digitsValue_eq_ofDigits] at large
        exact ⟨digits, _, starts, .digits nonempty shown, large⟩

/-- The text, or a beginning of it, is a signed numeral that needs more than 64 bits without
its sign. -/
def StartsTooLarge (base : Nat) (text : Bytes) : Prop :=
  ∃ digits value, digits <+: text ∧ IsSignedNumeral base digits value ∧
    magnitudeLimit ≤ value.natAbs

theorem readSigned_of_startsTooLarge (few : base ≤ 36) (starts : StartsTooLarge base text) :
    readSigned base text = .outOfRange := by
  obtain ⟨digits, value, ⟨rest, rfl⟩, numeral, large⟩ := starts
  cases numeral with
  | @unsigned digits number numeral =>
      have read := readUnsigned_of_large few numeral (by simpa using large) rest
      obtain ⟨first, others, rfl⟩ := List.exists_cons_of_ne_nil numeral.nonempty
      obtain ⟨notPlus, notMinus⟩ := numeral.noSign few first List.mem_cons_self
      unfold readSigned
      split
      · next same => exact absurd (List.cons.inj same).1 notPlus
      · next same => exact absurd (List.cons.inj same).1 notMinus
      · rw [read, signedReading]
  | @plus digits number numeral =>
      rw [List.cons_append, readSigned,
        readUnsigned_of_large few numeral (by simpa using large), signedReading]
  | @minus digits number numeral =>
      rw [List.cons_append, readSigned,
        readUnsigned_of_large few numeral (by simpa using large), signedReading]

theorem ne_notNumeral_of_signedReading {negative : Bool} {reading : Reading Nat}
    (read : signedReading negative reading ≠ .notNumeral) : reading ≠ .notNumeral := by
  rintro rfl
  exact read rfl

theorem exists_numeral_of_readSigned (few : base ≤ 36) (read : readSigned base text ≠ .notNumeral) :
    (∃ value, IsSignedNumeral base text value) ∨ StartsTooLarge base text := by
  unfold readSigned at read
  split at read
  · rcases exists_numeral_of_readUnsigned few (ne_notNumeral_of_signedReading read) with
      ⟨number, numeral⟩ | ⟨digits, number, starts, numeral, large⟩
    · exact .inl ⟨number, .plus numeral⟩
    · exact .inr ⟨_, _, (List.prefix_cons_inj 0x2B).2 starts, .plus numeral, by simpa using large⟩
  · rcases exists_numeral_of_readUnsigned few (ne_notNumeral_of_signedReading read) with
      ⟨number, numeral⟩ | ⟨digits, number, starts, numeral, large⟩
    · exact .inl ⟨-number, .minus numeral⟩
    · exact .inr ⟨_, _, (List.prefix_cons_inj 0x2D).2 starts, .minus numeral, by simpa using large⟩
  · rcases exists_numeral_of_readUnsigned few (ne_notNumeral_of_signedReading read) with
      ⟨number, numeral⟩ | ⟨digits, number, starts, numeral, large⟩
    · exact .inl ⟨number, .unsigned numeral⟩
    · exact .inr ⟨_, _, starts, .unsigned numeral, by simpa using large⟩

/-- What the signed reader finds to be no numeral: the texts that are none and do not start
with one that is too large. -/
theorem readSigned_eq_notNumeral_iff (positive : 0 < base) (few : base ≤ 36) :
    readSigned base text = .notNumeral ↔
      (∀ value, ¬ IsSignedNumeral base text value) ∧ ¬ StartsTooLarge base text := by
  constructor
  · intro read
    constructor
    · intro value numeral
      rw [readSigned_of_isSignedNumeral positive few numeral] at read
      split at read <;> contradiction
    · intro starts
      rw [readSigned_of_startsTooLarge few starts] at read
      contradiction
  · rintro ⟨notNumeral, notStarts⟩
    by_contra read
    rcases exists_numeral_of_readSigned few read with ⟨value, numeral⟩ | starts
    · exact notNumeral value numeral
    · exact notStarts starts

end Readers

end BasicComputer.Text
