import BasicComputer.Machine.Word
import BasicComputer.Text.Numeral
import Mathlib.Algebra.Group.Nat.Defs

/-!
Contract: numbers that are written can be read back.

Owns the value of a list of digits, the digits of a number, and that the readers
give back the number of a hexadecimal numeral, whatever zeros stand in front, and of
a signed decimal numeral. `numeral?` and `hexWord?` read the numbers of listings, which
no width limits.
-/

namespace BasicComputer.Text

/-- The number that digits stand for, after a magnitude. -/
def digitsValue (base magnitude : Nat) (numerals : List Nat) : Nat :=
  numerals.foldl (fun magnitude digit => magnitude * base + digit) magnitude

@[simp] theorem digitsValue_nil (base magnitude : Nat) :
    digitsValue base magnitude [] = magnitude := rfl

@[simp] theorem digitsValue_cons (base magnitude digit : Nat) (rest : List Nat) :
    digitsValue base magnitude (digit :: rest) =
      digitsValue base (magnitude * base + digit) rest := rfl

theorem le_digitsValue {base : Nat} (positive : 0 < base) (magnitude : Nat)
    (numerals : List Nat) : magnitude ≤ digitsValue base magnitude numerals := by
  induction numerals generalizing magnitude with
  | nil => exact Nat.le_refl magnitude
  | cons digit rest inductionHypothesis =>
      have grows : magnitude ≤ magnitude * base := Nat.le_mul_of_pos_right magnitude positive
      have later := inductionHypothesis (magnitude * base + digit)
      rw [digitsValue_cons]
      omega

theorem digitsValue_replicate_zero (base count : Nat) (rest : List Nat) :
    digitsValue base 0 (List.replicate count 0 ++ rest) = digitsValue base 0 rest := by
  induction count with
  | zero => rfl
  | succ count inductionHypothesis =>
      rw [List.replicate_succ, List.cons_append, digitsValue_cons]
      simpa using inductionHypothesis

/-! ### Digits of a number -/

theorem digitsValue_digitsOnto {base : Nat} (large : 1 < base) (suffix : List Nat)
    (number : Nat) :
    digitsValue base 0 (digitsOnto base suffix number) = digitsValue base number suffix := by
  fun_induction digitsOnto base suffix number with
  | case1 suffix number positive inductionHypothesis =>
      rw [inductionHypothesis, digitsValue_cons, Nat.div_add_mod']
  | case2 suffix number done =>
      have zero : number = 0 := by omega
      rw [zero]

theorem digitsValue_digits {base : Nat} (large : 1 < base) (number : Nat) :
    digitsValue base 0 (digits base number) = number := by
  unfold digits
  split
  · next zero => simp [zero]
  · rw [digitsValue_digitsOnto large, digitsValue_nil]

theorem digitsOnto_lt {base : Nat} (large : 1 < base) {suffix : List Nat} (number : Nat)
    (small : ∀ digit ∈ suffix, digit < base) :
    ∀ digit ∈ digitsOnto base suffix number, digit < base := by
  fun_induction digitsOnto base suffix number with
  | case1 suffix number positive inductionHypothesis =>
      apply inductionHypothesis
      intro digit member
      rcases List.mem_cons.1 member with rfl | older
      · exact Nat.mod_lt number (by omega)
      · exact small digit older
  | case2 suffix number done => exact small

theorem digits_lt {base : Nat} (large : 1 < base) (number : Nat) :
    ∀ digit ∈ digits base number, digit < base := by
  unfold digits
  split
  · intro digit member
    rw [List.mem_singleton.1 member]
    omega
  · exact digitsOnto_lt large number (by simp)

theorem digits_ne_nil {base : Nat} (large : 1 < base) (number : Nat) : digits base number ≠ [] := by
  intro empty
  have value := digitsValue_digits large number
  rw [empty, digitsValue_nil] at value
  rw [← value] at empty
  contradiction

theorem digitsOnto_length_le {base : Nat} (count : Nat) {number : Nat}
    (small : number < base ^ count) (suffix : List Nat) :
    (digitsOnto base suffix number).length ≤ suffix.length + count := by
  induction count generalizing number suffix with
  | zero =>
      have zero : number = 0 := by simpa using small
      rw [zero, digitsOnto, dif_neg (by simp)]
      exact Nat.le_refl _
  | succ count inductionHypothesis =>
      rw [digitsOnto]
      split
      · have quotientSmall : number / base < base ^ count :=
          Nat.div_lt_of_lt_mul (by rwa [Nat.pow_succ, Nat.mul_comm] at small)
        have tail := inductionHypothesis quotientSmall (number % base :: suffix)
        rw [List.length_cons] at tail
        omega
      · omega

theorem digits_length_le {base count number : Nat}
    (positive : 0 < count) (small : number < base ^ count) :
    (digits base number).length ≤ count := by
  unfold digits
  split
  · exact positive
  · simpa using digitsOnto_length_le count small []

/-! ### Reading digits -/

/-- Bytes of digits are read as the number that the digits stand for. -/
theorem readDigits_map {base magnitude : Nat} (positive : 0 < base) {numerals : List Nat}
    {byteOf : Nat → UInt8} (digit : ∀ digit ∈ numerals, digitOf? base (byteOf digit) = some digit)
    (small : digitsValue base magnitude numerals < magnitudeLimit) :
    readDigits base magnitude (numerals.map byteOf) =
      .value (digitsValue base magnitude numerals) := by
  induction numerals generalizing magnitude with
  | nil => rfl
  | cons head rest inductionHypothesis =>
      have within : magnitude * base + head < magnitudeLimit :=
        Nat.lt_of_le_of_lt (le_digitsValue positive _ rest) small
      rw [List.map_cons, readDigits, digit head List.mem_cons_self]
      dsimp only
      rw [if_pos within]
      exact inductionHypothesis (fun other member => digit other (List.mem_cons_of_mem head member))
        small

theorem readUnsigned_map {base : Nat} (positive : 0 < base) {numerals : List Nat}
    (nonempty : numerals ≠ []) {byteOf : Nat → UInt8}
    (digit : ∀ digit ∈ numerals, digitOf? base (byteOf digit) = some digit)
    (small : digitsValue base 0 numerals < magnitudeLimit) :
    readUnsigned base (numerals.map byteOf) = .value (digitsValue base 0 numerals) := by
  have digitsThere : (numerals.map byteOf).isEmpty = false := by
    simp [nonempty]
  rw [readUnsigned, digitsThere, if_neg (by decide), readDigits_map positive digit small]

theorem readSigned_of_noSign {base : Nat} {text : Bytes}
    (noSign : ∀ byte ∈ text, byte ≠ 0x2B ∧ byte ≠ 0x2D) :
    readSigned base text = signedReading false (readUnsigned base text) := by
  unfold readSigned
  split
  · exact absurd rfl (noSign 0x2B List.mem_cons_self).1
  · exact absurd rfl (noSign 0x2D List.mem_cons_self).2
  · rfl

/-! ### Hexadecimal numerals -/

/-- The hexadecimal digits of a number with zeros in front. -/
def paddedDigits (width number : Nat) : List Nat :=
  List.replicate (width - (digits 16 number).length) 0 ++ digits 16 number

theorem upperHex_eq_map (width number : Nat) :
    upperHex width number = (paddedDigits width number).map upperDigitByte := by
  unfold upperHex padLeft paddedDigits
  rw [List.map_append, List.map_replicate, List.length_map]
  rfl

theorem paddedDigits_lt {width number digit : Nat} (member : digit ∈ paddedDigits width number) :
    digit < 16 := by
  rcases List.mem_append.1 member with padding | proper
  · rw [(List.mem_replicate.1 padding).2]
    decide
  · exact digits_lt (by decide) number digit proper

theorem upperHex_digit {width number : Nat} {byte : UInt8} (member : byte ∈ upperHex width number) :
    ∃ digit, digit < 16 ∧ byte = upperDigitByte digit := by
  rw [upperHex_eq_map, List.mem_map] at member
  obtain ⟨digit, among, rfl⟩ := member
  exact ⟨digit, paddedDigits_lt among, rfl⟩

theorem upperHex_ne_nil (width number : Nat) : upperHex width number ≠ [] := by
  rw [upperHex_eq_map, paddedDigits]
  simp [digits_ne_nil]

theorem upperHex_length_le {width count number : Nat} (positive : 0 < count)
    (wide : width ≤ count) (small : number < 16 ^ count) :
    (upperHex width number).length ≤ count := by
  have short := digits_length_le positive small
  rw [upperHex_eq_map, List.length_map, paddedDigits, List.length_append, List.length_replicate]
  omega

theorem upperHex_length {width number : Nat} (positive : 0 < width)
    (small : number < 16 ^ width) : (upperHex width number).length = width := by
  apply Nat.le_antisymm (upperHex_length_le positive (Nat.le_refl width) small)
  rw [upperHex_eq_map, List.length_map, paddedDigits, List.length_append, List.length_replicate]
  omega

theorem digitOf?_upperDigitByte :
    ∀ digit < 16, digitOf? 16 (upperDigitByte digit) = some digit := by
  decide

theorem upperDigitByte_ne_sign :
    ∀ digit < 16, upperDigitByte digit ≠ 0x2B ∧ upperDigitByte digit ≠ 0x2D := by
  decide

theorem readUnsigned_upperHex {width number : Nat} (small : number < magnitudeLimit) :
    readUnsigned 16 (upperHex width number) = .value number := by
  have value : digitsValue 16 0 (paddedDigits width number) = number := by
    rw [paddedDigits, digitsValue_replicate_zero, digitsValue_digits (by decide)]
  rw [← value] at small
  have nonempty : paddedDigits width number ≠ [] := by
    simp [paddedDigits, digits_ne_nil]
  rw [upperHex_eq_map, readUnsigned_map (by decide) nonempty _ small, value]
  intro digit member
  exact digitOf?_upperDigitByte digit (paddedDigits_lt member)

theorem readSigned_upperHex {width number : Nat} (small : number < Nat.pow 2 63) :
    readSigned 16 (upperHex width number) = .value (number : Int) := by
  have noSign : ∀ byte ∈ upperHex width number, byte ≠ 0x2B ∧ byte ≠ 0x2D := by
    intro byte member
    obtain ⟨digit, below, rfl⟩ := upperHex_digit member
    exact upperDigitByte_ne_sign digit below
  have within : number < magnitudeLimit := Nat.lt_trans small (by decide)
  rw [readSigned_of_noSign noSign, readUnsigned_upperHex within, signedReading,
    if_neg (by decide), if_pos small]

/-! ### Decimal numerals -/

theorem decimal_digit {number : Nat} {byte : UInt8} (member : byte ∈ decimal number) :
    ∃ digit, digit < 10 ∧ byte = digitByte digit := by
  rw [decimal, List.mem_map] at member
  obtain ⟨digit, among, rfl⟩ := member
  exact ⟨digit, digits_lt (by decide) number digit among, rfl⟩

theorem signedDecimal_length_le {count : Nat} {number : Int} (positive : 0 < count)
    (small : number.natAbs < 10 ^ count) : (signedDecimal number).length ≤ count + 1 := by
  have short : (decimal number.natAbs).length ≤ count := by
    rw [decimal, List.length_map]
    exact digits_length_le positive small
  unfold signedDecimal
  split
  · exact Nat.succ_le_succ short
  · omega

theorem digitOf?_digitByte : ∀ digit < 10, digitOf? 10 (digitByte digit) = some digit := by
  decide

theorem digitByte_ne_sign : ∀ digit < 10, digitByte digit ≠ 0x2B ∧ digitByte digit ≠ 0x2D := by
  decide

theorem readUnsigned_decimal {number : Nat} (small : number < magnitudeLimit) :
    readUnsigned 10 (decimal number) = .value number := by
  have value := digitsValue_digits (by decide : 1 < 10) number
  rw [← value] at small
  rw [decimal, readUnsigned_map (by decide) (digits_ne_nil (by decide) number) _ small, value]
  intro digit member
  exact digitOf?_digitByte digit (digits_lt (by decide) number digit member)

/-- A number of 63 bits and a sign is read back from its decimal form. -/
theorem readSigned_signedDecimal {number : Int} (small : number.natAbs < Nat.pow 2 63) :
    readSigned 10 (signedDecimal number) = .value number := by
  have within : number.natAbs < magnitudeLimit := Nat.lt_trans small (by decide)
  unfold signedDecimal
  split
  · next negative =>
      rw [readSigned, readUnsigned_decimal within, signedReading, if_pos rfl,
        if_pos (Nat.le_of_lt small)]
      congr 1
      omega
  · next nonnegative =>
      have noSign : ∀ byte ∈ decimal number.natAbs, byte ≠ 0x2B ∧ byte ≠ 0x2D := by
        intro byte member
        obtain ⟨digit, below, rfl⟩ := decimal_digit member
        exact digitByte_ne_sign digit below
      rw [readSigned_of_noSign noSign, readUnsigned_decimal within, signedReading,
        if_neg (by decide), if_pos small]
      congr 1
      omega

/-! ### Numerals of any size -/

/-- What is written one by one is read back in the same order. -/
theorem mapM_map_of_inverse {Item Text : Type} {write : Item → Text} {read : Text → Option Item}
    {items : List Item} (inverse : ∀ item ∈ items, read (write item) = some item) :
    (items.map write).mapM read = some items := by
  induction items with
  | nil => rfl
  | cons item rest inductionHypothesis =>
      rw [List.map_cons, List.mapM_cons, inverse item List.mem_cons_self,
        inductionHypothesis fun other member => inverse other (List.mem_cons_of_mem item member)]
      rfl

/-- The number that digits of a base stand for, of whatever size. -/
def numeral? (base : Nat) (text : Bytes) : Option Nat :=
  if text = [] then none else (text.mapM (digitOf? base)).map (digitsValue base 0)

/-- The word that hexadecimal digits stand for. -/
def hexWord? (text : Bytes) : Option Word :=
  match numeral? 16 text with
  | some number => if number < 65536 then some (UInt16.ofNat number) else none
  | none => none

theorem numeral?_map {base : Nat} {numerals : List Nat} (nonempty : numerals ≠ [])
    {byteOf : Nat → UInt8}
    (digit : ∀ digit ∈ numerals, digitOf? base (byteOf digit) = some digit) :
    numeral? base (numerals.map byteOf) = some (digitsValue base 0 numerals) := by
  rw [numeral?, if_neg (by simpa using nonempty), mapM_map_of_inverse digit]
  rfl

theorem numeral?_upperHex (width number : Nat) :
    numeral? 16 (upperHex width number) = some number := by
  have nonempty : paddedDigits width number ≠ [] := by
    simp [paddedDigits, digits_ne_nil]
  have digit : ∀ digit ∈ paddedDigits width number,
      digitOf? 16 (upperDigitByte digit) = some digit :=
    fun digit member => digitOf?_upperDigitByte digit (paddedDigits_lt member)
  rw [upperHex_eq_map, numeral?_map nonempty digit, paddedDigits, digitsValue_replicate_zero,
    digitsValue_digits (by decide)]

theorem numeral?_decimal (number : Nat) : numeral? 10 (decimal number) = some number := by
  have digit : ∀ digit ∈ digits 10 number, digitOf? 10 (digitByte digit) = some digit :=
    fun digit member => digitOf?_digitByte digit (digits_lt (by decide) number digit member)
  rw [decimal, numeral?_map (digits_ne_nil (by decide) number) digit,
    digitsValue_digits (by decide)]

theorem hexWord?_upperHex (width : Nat) (word : Word) :
    hexWord? (upperHex width word.toNat) = some word := by
  have small : word.toNat < 65536 := word.toNat_lt
  simp only [hexWord?, numeral?_upperHex, small, ↓reduceIte, UInt16.ofNat_toNat]

end BasicComputer.Text
