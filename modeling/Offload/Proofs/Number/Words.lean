/-
# Words of a binary format

The magnitude bits of a word are a place and a significand, `place · binade + significand`, where
the significand is short of two binades and reaches one unless the place is the lowest. The word
then stands for the significand at the exponent of its place. Rounding looks only at the value of a
number, and a number written as a significand at a place is rounded to the word of both, so a word
is what its own number rounds to. A number with few enough significant bits, none of them too fine
and none too large, can be written so, and then rounding keeps it the same; in particular all
numbers of a format are the same in a format that has no fewer bits of precision and of exponent.
-/

import Offload.Proofs.Number.Value

namespace Offload

/-! ## Rounding looks at values -/

/-- A quotient is rounded to the same for every fraction of its value. -/
theorem roundedQuotient_congr {numerator denominator numerator' denominator' : Nat}
    (positive : 0 < denominator) (positive' : 0 < denominator')
    (same : numerator * denominator' = numerator' * denominator) :
    roundedQuotient numerator denominator = roundedQuotient numerator' denominator' := by
  have scale (numerator denominator : Nat) {factor : Nat} (some_factor : 0 < factor) :
      roundedQuotient (numerator * factor) (denominator * factor) =
        roundedQuotient numerator denominator := by
    have twice : 2 * (numerator * factor % (denominator * factor)) =
        2 * (numerator % denominator) * factor := by rw [Nat.mul_mod_mul_right, Nat.mul_assoc]
    rw [roundedQuotient, roundedQuotient, Nat.mul_div_mul_right _ _ some_factor]
    simp only [twice, Nat.mul_lt_mul_right some_factor, Nat.mul_left_inj some_factor.ne']
  rw [← scale numerator denominator positive', ← scale numerator' denominator' positive, same,
    Nat.mul_comm denominator]

theorem roundedQuotient_one (numerator : Nat) : roundedQuotient numerator 1 = numerator := by
  simp [roundedQuotient, Nat.mod_one]

theorem log2_mul_two_pow {mantissa : Nat} (some_bit : mantissa ≠ 0) (shift : Nat) :
    (mantissa * 2 ^ shift).log2 = mantissa.log2 + shift := by
  have whole : mantissa * 2 ^ shift ≠ 0 := Nat.mul_ne_zero some_bit (Nat.two_pow_pos shift).ne'
  obtain ⟨least, most⟩ := (Nat.log2_eq_iff some_bit).mp rfl
  rw [Nat.log2_eq_iff whole, Nat.add_right_comm, Nat.pow_add, Nat.pow_add]
  exact ⟨Nat.mul_le_mul_right _ least, Nat.mul_lt_mul_of_pos_right most (Nat.two_pow_pos shift)⟩

namespace BinaryFormat

variable {format : BinaryFormat}

/-- A mantissa may be shifted against its exponent. -/
theorem magnitudeBits_shift (mantissa shift : Nat) (exponent : Int) :
    format.magnitudeBits (mantissa * 2 ^ shift) exponent =
      format.magnitudeBits mantissa (exponent + shift) := by
  by_cases none : mantissa = 0
  · rw [none, Nat.zero_mul, magnitudeBits, magnitudeBits, if_pos rfl, if_pos rfl]
  have whole : mantissa * 2 ^ shift ≠ 0 := Nat.mul_ne_zero none (Nat.two_pow_pos shift).ne'
  have last : format.lastExponent (mantissa * 2 ^ shift) exponent =
      format.lastExponent mantissa (exponent + shift) := by
    rw [lastExponent, lastExponent, log2_mul_two_pow none]
    congr 2
    push_cast
    ring
  rw [magnitudeBits, magnitudeBits, if_neg whole, if_neg none]
  simp only [last, twoPow_eq, Nat.pow_eq]
  generalize format.lastExponent mantissa (exponent + shift) = last
  congr 2
  refine roundedQuotient_congr (Nat.two_pow_pos _) (Nat.two_pow_pos _) ?_
  simp only [Nat.mul_assoc, ← Nat.pow_add]
  congr 2
  omega

/-- The magnitude bits depend on the magnitude alone. -/
theorem magnitudeBits_congr {mantissa mantissa' : Nat} {exponent exponent' : Int}
    (magnitude : (mantissa : Rat) * 2 ^ exponent = mantissa' * 2 ^ exponent') :
    format.magnitudeBits mantissa exponent = format.magnitudeBits mantissa' exponent' := by
  have scaled := (Number.scaled_eq_iff ..).mpr magnitude
  have first := format.magnitudeBits_shift mantissa (exponent - min exponent exponent').toNat
    (min exponent exponent')
  have second := format.magnitudeBits_shift mantissa' (exponent' - min exponent exponent').toNat
    (min exponent exponent')
  rw [scaled] at first
  convert first.symm.trans second using 2 <;> omega

/-- Numbers that are the same are rounded to one word. -/
theorem round_congr {number other : Number} (same : number.Same other) :
    format.round number = format.round other := by
  cases same with
  | nan | infinite _ => rfl
  | finite negative magnitude => rw [round, round, magnitudeBits_congr magnitude]

/-! ## Magnitude bits -/

/-- There is more than one bit of precision and more than one bit of exponent. -/
structure Regular (format : BinaryFormat) : Prop where
  precision : 2 ≤ format.precision
  exponentBits : 2 ≤ format.exponentBits

/-- The word of a sign and of magnitude bits. -/
def word (format : BinaryFormat) (negative : Bool) (bits : Nat) : Nat :=
  (if negative then format.signBit else 0) + bits

/-- The magnitude bits of a word: all but the sign. -/
def magnitude (format : BinaryFormat) (word : Nat) : Nat := word % format.signBit

theorem magnitude_word (negative : Bool) {bits : Nat} (inside : bits < format.signBit) :
    format.magnitude (format.word negative bits) = bits := by
  cases negative <;> simp [magnitude, word, Nat.mod_eq_of_lt inside]

/-- The significand is short of two binades, and only at the lowest place is it short of one. -/
structure Fits (format : BinaryFormat) (place significand : Nat) : Prop where
  small : significand < 2 * format.binade
  leading : place = 0 ∨ format.binade ≤ significand

/-- The words of a format: those of a significand at a place, those of infinity, and what is
beyond. -/
inductive Reading (format : BinaryFormat) : Nat → Prop where
  | finite (negative : Bool) {place significand : Nat} (fits : format.Fits place significand)
      (below : place * format.binade + significand < format.infinityBits) :
      format.Reading (format.word negative (place * format.binade + significand))
  | infinite (negative : Bool) : format.Reading (format.word negative format.infinityBits)
  | nan (negative : Bool) {bits : Nat} (beyond : format.infinityBits < bits)
      (inside : bits < format.signBit) : format.Reading (format.word negative bits)

namespace Regular

variable (regular : format.Regular)
include regular

theorem two_le_binade : 2 ≤ format.binade := by
  have := Nat.pow_le_pow_right (n := 2) (by omega) (show 1 ≤ format.precision - 1 from
    Nat.le_sub_one_of_lt regular.precision)
  simpa [binade] using this

theorem three_le_topField : 3 ≤ format.topField := by
  have := Nat.pow_le_pow_right (n := 2) (by omega) regular.exponentBits
  simp only [topField, twoPow_eq, Nat.pow_eq]
  omega

theorem topField_succ : format.topField + 1 = 2 * 2 ^ (format.exponentBits - 1) := by
  have some_bit : format.exponentBits = format.exponentBits - 1 + 1 := by
    have := regular.exponentBits
    omega
  rw [topField, twoPow_eq, Nat.pow_eq, Nat.sub_add_cancel Nat.one_le_two_pow, some_bit,
    Nat.pow_succ', Nat.add_sub_cancel]

/-- There are two significands for each one of a binade. -/
theorem two_binades : 2 * format.binade = 2 ^ format.precision := by
  have some_bit : format.precision = format.precision - 1 + 1 := by
    have := regular.precision
    omega
  rw [binade, twoPow_eq, Nat.pow_eq, some_bit, Nat.pow_succ', Nat.add_sub_cancel]

/-- The words without a sign go through all exponent fields, the top one included. -/
theorem signBit_eq : format.signBit = format.infinityBits + format.binade := by
  have split : format.width - 1 = format.exponentBits + (format.precision - 1) := by
    have := regular.precision
    rw [width]
    omega
  have top : format.topField + 1 = 2 ^ format.exponentBits := by
    have := Nat.two_pow_pos format.exponentBits
    simp only [topField, twoPow_eq, Nat.pow_eq]
    omega
  rw [infinityBits, ← Nat.succ_mul, Nat.succ_eq_add_one, top, signBit, split, twoPow_eq, Nat.pow_eq,
    Nat.pow_add, binade, twoPow_eq, Nat.pow_eq]

theorem two_signBits : 2 * format.signBit = 2 ^ format.width := by
  have some_bit : format.width = format.width - 1 + 1 := by
    have := regular.precision
    rw [width]
    omega
  rw [signBit, twoPow_eq, Nat.pow_eq, ← Nat.pow_succ', Nat.succ_eq_add_one, ← some_bit]

theorem infinityBits_lt : format.infinityBits < format.signBit := by
  have := regular.two_le_binade
  have := regular.signBit_eq
  omega

theorem word_lt {negative : Bool} {bits : Nat} (inside : bits < format.signBit) :
    format.word negative bits < 2 ^ format.width := by
  have := regular.two_signBits
  unfold word
  split <;> omega

/-- Every word has a sign and magnitude bits. -/
theorem exists_word {code : Nat} (inside : code < 2 ^ format.width) :
    ∃ negative bits, bits < format.signBit ∧ code = format.word negative bits := by
  have all := regular.two_signBits
  rcases Nat.lt_or_ge code format.signBit with small | large
  · exact ⟨false, code, small, by simp [word]⟩
  · exact ⟨true, code - format.signBit, by omega, by simp only [word, if_true]; omega⟩

/-- What the fields of a word stand for. -/
theorem decode_word {negative : Bool} {bits : Nat} (inside : bits < format.signBit) :
    format.decode (format.word negative bits) =
      if bits / format.binade = format.topField then
        if bits % format.binade = 0 then .infinite negative else .nan
      else if bits / format.binade = 0 then
        .finite negative (bits % format.binade) format.leastExponent
      else
        .finite negative (format.binade + bits % format.binade)
          (format.leastExponent + (bits / format.binade - 1 : Nat)) := by
  have sign : (format.signBit ≤ format.word negative bits % (2 * format.signBit)) ↔
      negative = true := by
    rw [Nat.mod_eq_of_lt (regular.two_signBits ▸ regular.word_lt inside)]
    cases negative <;> simp [word, inside]
  have fraction : format.word negative bits % format.binade = bits % format.binade := by
    have whole : format.binade ∣ format.signBit := by
      rw [regular.signBit_eq]
      exact Nat.dvd_add (Nat.dvd_mul_left _ _) (Nat.dvd_refl _)
    rw [word, Nat.add_mod]
    cases negative <;> simp [Nat.mod_eq_zero_of_dvd whole]
  have field := magnitude_word negative inside
  rw [magnitude] at field
  simp only [decode, sign, fraction, field, Bool.decide_eq_true]

/-! ## Significands at places -/

theorem decode_place (negative : Bool) {place significand : Nat}
    (fits : format.Fits place significand)
    (finite : place * format.binade + significand < format.infinityBits) :
    format.decode (format.word negative (place * format.binade + significand)) =
      .finite negative significand (format.leastExponent + place) := by
  have some_binade : 0 < format.binade := Nat.zero_lt_of_lt regular.two_le_binade
  rw [regular.decode_word (finite.trans regular.infinityBits_lt)]
  rcases Nat.lt_or_ge significand format.binade with short | long
  · obtain rfl : place = 0 := fits.leading.resolve_right (Nat.not_le.mpr short)
    have top : (0 : Nat) ≠ format.topField := by
      have := regular.three_le_topField
      omega
    rw [Nat.zero_mul, Nat.zero_add, Nat.div_eq_of_lt short, Nat.mod_eq_of_lt short, if_neg top,
      if_pos rfl, Nat.cast_zero, add_zero]
  · obtain ⟨fraction, rfl⟩ := Nat.exists_eq_add_of_le long
    have short : fraction < format.binade := by
      have := fits.small
      omega
    have bits : place * format.binade + (format.binade + fraction) =
        fraction + (place + 1) * format.binade := by
      rw [Nat.add_mul, Nat.one_mul]
      omega
    have below : place + 1 < format.topField := by
      rw [bits, infinityBits] at finite
      exact Nat.lt_of_mul_lt_mul_right (Nat.lt_of_le_of_lt (Nat.le_add_left _ _) finite)
    rw [bits, Nat.add_mul_div_right _ _ some_binade, Nat.add_mul_mod_self_right,
      Nat.div_eq_of_lt short, Nat.mod_eq_of_lt short, Nat.zero_add, if_neg below.ne,
      if_neg (Nat.succ_ne_zero place), Nat.add_sub_cancel]

/-- Magnitude bits are a significand at a place. -/
theorem exists_place (bits : Nat) : ∃ place significand,
    format.Fits place significand ∧ bits = place * format.binade + significand := by
  have some_binade : 0 < format.binade := Nat.zero_lt_of_lt regular.two_le_binade
  have split := Nat.div_add_mod' bits format.binade
  have short := Nat.mod_lt bits some_binade
  rcases field : bits / format.binade with _ | place
  · rw [field, Nat.zero_mul] at split
    exact ⟨0, bits, ⟨by omega, .inl rfl⟩, by omega⟩
  · rw [field, Nat.add_mul, Nat.one_mul] at split
    exact ⟨place, format.binade + bits % format.binade, ⟨by omega, .inr (by omega)⟩, by omega⟩

theorem reading {code : Nat} (inside : code < 2 ^ format.width) : format.Reading code := by
  obtain ⟨negative, bits, within, rfl⟩ := regular.exists_word inside
  rcases Nat.lt_trichotomy bits format.infinityBits with below | rfl | beyond
  · obtain ⟨place, significand, fits, rfl⟩ := regular.exists_place bits
    exact .finite negative fits below
  · exact .infinite negative
  · exact .nan negative beyond within

theorem lastExponent_place {place significand : Nat} (fits : format.Fits place significand)
    (some_bit : significand ≠ 0) :
    format.lastExponent significand (format.leastExponent + place) =
      format.leastExponent + place := by
  have small := fits.small
  rw [regular.two_binades, ← Nat.log2_lt some_bit] at small
  rw [lastExponent]
  rcases fits.leading with rfl | long
  · rw [Nat.cast_zero, add_zero, max_eq_left (by omega)]
  · rw [binade, twoPow_eq, Nat.pow_eq, ← Nat.le_log2 some_bit] at long
    have := regular.precision
    rw [max_eq_right (by omega)]
    omega

theorem magnitudeBits_place {place significand : Nat} (fits : format.Fits place significand)
    (inside : place * format.binade + significand ≤ format.infinityBits) :
    format.magnitudeBits significand (format.leastExponent + place) =
      place * format.binade + significand := by
  rw [magnitudeBits]
  split
  · next none =>
      have := regular.two_le_binade
      obtain rfl : place = 0 := fits.leading.resolve_right (by omega)
      omega
  · next some_bit =>
      have places : (format.leastExponent + place - format.leastExponent).toNat = place := by omega
      simp only [regular.lastExponent_place fits some_bit, sub_self, Int.toNat_zero, twoPow_eq,
        Nat.pow_eq, pow_zero, Nat.mul_one, roundedQuotient_one, places]
      exact Nat.min_eq_right inside

/-! ## Rounding what a word stands for -/

theorem decode_infinity (negative : Bool) :
    format.decode (format.word negative format.infinityBits) = .infinite negative := by
  have some_binade : 0 < format.binade := Nat.zero_lt_of_lt regular.two_le_binade
  rw [regular.decode_word regular.infinityBits_lt, infinityBits, Nat.mul_div_cancel _ some_binade,
    Nat.mul_mod_left, if_pos rfl, if_pos rfl]

/-- Beyond the bits of infinity there are no numbers. -/
theorem decode_nan (negative : Bool) {bits : Nat} (beyond : format.infinityBits < bits)
    (inside : bits < format.signBit) : format.decode (format.word negative bits) = .nan := by
  obtain ⟨fraction, rfl⟩ := Nat.exists_eq_add_of_lt beyond
  have short : fraction + 1 < format.binade := by
    have := regular.signBit_eq
    omega
  have some_binade : 0 < format.binade := Nat.zero_lt_of_lt short
  have bits : format.infinityBits + fraction + 1 =
      fraction + 1 + format.topField * format.binade := by
    rw [infinityBits]
    omega
  rw [regular.decode_word inside, bits, Nat.add_mul_div_right _ _ some_binade,
    Nat.add_mul_mod_self_right, Nat.div_eq_of_lt short, Nat.mod_eq_of_lt short, Nat.zero_add,
    if_pos rfl, if_neg (Nat.succ_ne_zero fraction)]

/-- A word stands for no number exactly if its magnitude bits are beyond those of infinity. -/
theorem decode_eq_nan_iff {code : Nat} (inside : code < 2 ^ format.width) :
    format.decode code = .nan ↔ format.infinityBits < format.magnitude code := by
  cases regular.reading inside with
  | finite negative fits below =>
      rw [regular.decode_place _ fits below,
        magnitude_word _ (below.trans regular.infinityBits_lt)]
      simp [below.le]
  | infinite negative =>
      rw [regular.decode_infinity, magnitude_word _ regular.infinityBits_lt]
      simp
  | nan negative beyond within =>
      rw [regular.decode_nan _ beyond within, magnitude_word _ within]
      exact iff_of_true rfl beyond

/-- A word that stands for a number is what the number is rounded to. -/
theorem round_decode {code : Nat} (inside : code < 2 ^ format.width)
    (number : format.decode code ≠ .nan) : format.round (format.decode code) = code := by
  cases regular.reading inside with
  | finite negative fits below =>
      rw [regular.decode_place _ fits below, round, regular.magnitudeBits_place fits below.le]
      rfl
  | infinite negative =>
      rw [regular.decode_infinity]
      rfl
  | nan negative beyond within => exact absurd (regular.decode_nan _ beyond within) number

/-- Different words stand for different numbers. -/
theorem same_decode_iff {code code' : Nat} (inside : code < 2 ^ format.width)
    (inside' : code' < 2 ^ format.width) (number : format.decode code ≠ .nan) :
    (format.decode code).Same (format.decode code') ↔ code = code' := by
  constructor
  · intro same
    have number' : format.decode code' ≠ .nan := number ∘ same.nan_iff.mpr
    rw [← regular.round_decode inside number, round_congr same,
      regular.round_decode inside' number']
  · rintro rfl
    exact .refl _

/-- The zeros are the words without magnitude bits. -/
theorem isZero_decode_iff {code : Nat} (inside : code < 2 ^ format.width) :
    (format.decode code).IsZero ↔ format.magnitude code = 0 := by
  have two := regular.two_le_binade
  cases regular.reading inside with
  | finite negative fits below =>
      rw [regular.decode_place _ fits below,
        magnitude_word _ (below.trans regular.infinityBits_lt)]
      constructor
      · rintro ⟨_, _, zero⟩
        injection zero with _ none
        have lowest := fits.leading.resolve_right (by omega)
        rw [lowest, none, Nat.zero_mul]
      · intro none
        obtain rfl := (Nat.add_eq_zero_iff.mp none).2
        exact ⟨_, _, rfl⟩
  | infinite negative =>
      have some_bits : format.infinityBits ≠ 0 :=
        Nat.mul_ne_zero (Nat.ne_zero_of_lt regular.three_le_topField) (Nat.ne_zero_of_lt two)
      rw [regular.decode_infinity, magnitude_word _ regular.infinityBits_lt]
      exact iff_of_false (fun ⟨_, _, zero⟩ => by cases zero) some_bits
  | nan negative beyond within =>
      rw [regular.decode_nan _ beyond within, magnitude_word _ within]
      exact iff_of_false (fun ⟨_, _, zero⟩ => by cases zero) (Nat.ne_zero_of_lt beyond)

/-- What is not a number is rounded to a word that stands for none. -/
theorem decode_round_nan : format.decode (format.round .nan) = .nan := by
  have two := regular.two_le_binade
  have all := regular.signBit_eq
  have none : format.decode (format.word false (format.infinityBits + format.binade / 2)) = .nan :=
    regular.decode_nan _ (by omega) (by omega)
  rwa [word, if_neg Bool.false_ne_true, Nat.zero_add] at none

theorem round_lt (number : Number) : format.round number < 2 ^ format.width := by
  have two := regular.two_le_binade
  have all := regular.signBit_eq
  have top := regular.infinityBits_lt
  cases number with
  | nan =>
      rw [round, ← regular.two_signBits]
      omega
  | infinite negative => exact regular.word_lt top
  | finite negative mantissa exponent =>
      refine regular.word_lt (Nat.lt_of_le_of_lt ?_ top)
      rw [magnitudeBits]
      split
      · exact Nat.zero_le _
      · exact Nat.min_le_left _ _

/-! ## Numbers that a format has -/

/-- A number with few enough significant bits, none of them too fine and none too large, is a
significand at a place: its mantissa is shifted up until it fills the precision or comes to the
lowest place. -/
theorem exists_fits {mantissa : Nat} {exponent : Int}
    (small : mantissa < 2 ^ format.precision) (fine : format.leastExponent ≤ exponent)
    (bounded : exponent + (mantissa.log2 + 1) ≤ 2 ^ (format.exponentBits - 1)) :
    ∃ place significand, format.Fits place significand ∧
      place * format.binade + significand < format.infinityBits ∧
        (mantissa : Rat) * 2 ^ exponent = significand * 2 ^ (format.leastExponent + place) := by
  have top := regular.three_le_topField
  have two := regular.two_le_binade
  have below {place significand : Nat} (fits : format.Fits place significand)
      (room : place + 2 ≤ format.topField) :
      place * format.binade + significand < format.infinityBits := by
    have whole := Nat.mul_le_mul_right format.binade room
    have short := fits.small
    rw [Nat.add_mul] at whole
    rw [infinityBits]
    omega
  by_cases none : mantissa = 0
  · have fits : format.Fits 0 0 := ⟨by omega, .inl rfl⟩
    exact ⟨0, 0, fits, below fits (by omega), by simp [none]⟩
  obtain ⟨rise, rfl⟩ := Int.exists_add_of_le fine
  rw [← Nat.log2_lt none] at small
  -- up by the bits that the precision has left, and not below the lowest place
  obtain ⟨shift, shifted⟩ : ∃ shift, shift = min (format.precision - (mantissa.log2 + 1)) rise :=
    ⟨_, rfl⟩
  have fits : format.Fits (rise - shift) (mantissa * 2 ^ shift) := by
    have some_bit : mantissa * 2 ^ shift ≠ 0 := Nat.mul_ne_zero none (Nat.two_pow_pos shift).ne'
    constructor
    · rw [regular.two_binades, ← Nat.log2_lt some_bit, log2_mul_two_pow none]
      omega
    · rw [binade, twoPow_eq, Nat.pow_eq, ← Nat.le_log2 some_bit, log2_mul_two_pow none]
      omega
  refine ⟨rise - shift, mantissa * 2 ^ shift, fits, below fits ?_, ?_⟩
  · have fields := regular.topField_succ
    simp only [leastExponent, twoPow_eq, Nat.pow_eq] at bounded
    push_cast at bounded
    zify at fields
    omega
  · have split : format.leastExponent + (rise : Int) =
        shift + (format.leastExponent + (rise - shift : Nat)) := by omega
    rw [split, zpow_add₀ (by norm_num), zpow_natCast]
    push_cast
    ring

/-- Rounding keeps such a number the same. -/
theorem same_decode_round {negative : Bool} {mantissa : Nat} {exponent : Int}
    (small : mantissa < 2 ^ format.precision) (fine : format.leastExponent ≤ exponent)
    (bounded : exponent + (mantissa.log2 + 1) ≤ 2 ^ (format.exponentBits - 1)) :
    (format.decode (format.round (.finite negative mantissa exponent))).Same
      (.finite negative mantissa exponent) := by
  obtain ⟨place, significand, fits, finite, magnitude⟩ := regular.exists_fits small fine bounded
  rw [round, magnitudeBits_congr magnitude, regular.magnitudeBits_place fits finite.le]
  have decoded := regular.decode_place negative fits finite
  rw [word] at decoded
  rw [decoded]
  exact .finite negative magnitude.symm

theorem length_le {value : Nat} (small : value < 2 ^ format.precision) :
    value.log2 + 1 ≤ format.precision := by
  by_cases none : value = 0
  · have := regular.precision
    rw [none, Nat.log2_zero]
    omega
  · exact (Nat.log2_lt none).mpr small

theorem place_lt {place significand : Nat} (fits : format.Fits place significand)
    (finite : place * format.binade + significand < format.infinityBits) :
    place + 2 ≤ format.topField := by
  have top := regular.three_le_topField
  rcases fits.leading with rfl | long
  · omega
  · have field : (place + 1) * format.binade < format.topField * format.binade := by
      rw [Nat.add_mul, Nat.one_mul]
      exact Nat.lt_of_le_of_lt (Nat.add_le_add_left long _) finite
    have := Nat.lt_of_mul_lt_mul_right field
    omega

end Regular

/-- Rounding to the format keeps the number the same. -/
def Has (format : BinaryFormat) (number : Number) : Prop :=
  (format.decode (format.round number)).Same number

/-- A natural number that is no longer than the precision. -/
theorem Regular.has_natural (regular : format.Regular) {value : Nat}
    (small : value < 2 ^ format.precision)
    (room : format.precision ≤ 2 ^ (format.exponentBits - 1)) (whole : format.leastExponent ≤ 0) :
    format.Has (.finite false value 0) := by
  refine regular.same_decode_round small whole ?_
  have long := regular.length_le small
  have : ((format.precision : Nat) : Int) ≤ 2 ^ (format.exponentBits - 1) := by exact_mod_cast room
  omega

/-- The numbers of a format are numbers of every format with no fewer bits of both kinds. -/
theorem Regular.has_decode {wider : BinaryFormat} (regular : format.Regular)
    (regular' : wider.Regular) (precision : format.precision ≤ wider.precision)
    (exponentBits : format.exponentBits ≤ wider.exponentBits) {code : Nat}
    (inside : code < 2 ^ format.width) : wider.Has (format.decode code) := by
  cases regular.reading inside with
  | finite negative fits below =>
      rw [regular.decode_place _ fits below]
      have last := regular.place_lt fits below
      have fields := regular.topField_succ
      have small := fits.small
      rw [regular.two_binades] at small
      have long := regular.length_le small
      have grows : (2 : Int) ^ (format.exponentBits - 1) ≤ 2 ^ (wider.exponentBits - 1) :=
        pow_le_pow_right₀ (by norm_num) (by omega)
      zify at fields
      refine regular'.same_decode_round
        (small.trans_le (Nat.pow_le_pow_right (by norm_num) precision)) ?_ ?_ <;>
        simp only [leastExponent, twoPow_eq, Nat.pow_eq] <;> push_cast <;> omega
  | infinite negative =>
      rw [regular.decode_infinity, Has]
      have decoded := regular'.decode_infinity negative
      rw [word] at decoded
      rw [round, decoded]
      exact .infinite negative
  | nan negative beyond within =>
      rw [regular.decode_nan _ beyond within, Has, regular'.decode_round_nan]
      exact .nan

end BinaryFormat

end Offload
