/-
# Values of numbers

A finite number stands for a rational number, and its sign is told apart from it because zeros have
one. Comparing two mantissas brought to one exponent is comparing these rational numbers. Beside
equality there is sameness, which also asks for the same sign of a zero and holds of what is not a
number; a conversion that is exact keeps a number the same, though its mantissa and its exponent may
change.
-/

import Mathlib.Algebra.Order.Field.Power
import Mathlib.Algebra.Order.Floor.Semifield
import Mathlib.Data.Rat.Floor
import Mathlib.Tactic.Linarith
import Mathlib.Tactic.Positivity
import Offload.Number.Format

namespace Offload.Number

/-- The rational number `± mantissa · 2 ^ exponent`. -/
def rational (negative : Bool) (mantissa : Nat) (exponent : Int) : Rat :=
  (if negative then -1 else 1) * (mantissa * 2 ^ exponent)

/-- Two mantissas brought to the smaller exponent are equal exactly if their magnitudes are. -/
theorem scaled_eq_iff (mantissa mantissa' : Nat) (exponent exponent' : Int) :
    mantissa * 2 ^ (exponent - min exponent exponent').toNat =
        mantissa' * 2 ^ (exponent' - min exponent exponent').toNat ↔
      (mantissa : Rat) * 2 ^ exponent = mantissa' * 2 ^ exponent' := by
  have scale (size : Nat) (power least : Int) (below : least ≤ power) :
      ((size * 2 ^ (power - least).toNat : Nat) : Rat) * 2 ^ least = size * 2 ^ power := by
    push_cast
    rw [mul_assoc, ← zpow_natCast, ← zpow_add₀ (by norm_num)]
    congr 2
    omega
  rw [← scale mantissa exponent _ (min_le_left exponent exponent'),
    ← scale mantissa' exponent' _ (min_le_right exponent exponent'),
    mul_left_inj' (zpow_ne_zero _ (by norm_num)), Nat.cast_inj]

/-- Finite numbers are equal if their magnitudes are, and their signs unless they are zeros. -/
theorem finiteEqual_iff_magnitude (negative negative' : Bool) (mantissa mantissa' : Nat)
    (exponent exponent' : Int) :
    finiteEqual negative mantissa exponent negative' mantissa' exponent' = true ↔
      (mantissa : Rat) * 2 ^ exponent = mantissa' * 2 ^ exponent' ∧
        (negative = negative' ∨ mantissa = 0) := by
  simp only [finiteEqual, twoPow_eq, Bool.and_eq_true, beq_iff_eq, Bool.or_eq_true, Nat.pow_eq,
    scaled_eq_iff]

theorem magnitude_eq_zero_iff (mantissa : Nat) (exponent : Int) :
    (mantissa : Rat) * 2 ^ exponent = 0 ↔ mantissa = 0 := by
  simp [zpow_ne_zero]

/-- Finite numbers are compared as rational numbers. -/
theorem finiteEqual_iff (negative negative' : Bool) (mantissa mantissa' : Nat)
    (exponent exponent' : Int) :
    finiteEqual negative mantissa exponent negative' mantissa' exponent' = true ↔
      rational negative mantissa exponent = rational negative' mantissa' exponent' := by
  rw [finiteEqual_iff_magnitude, ← magnitude_eq_zero_iff mantissa exponent]
  unfold rational
  have size : (0 : Rat) ≤ mantissa * 2 ^ exponent := by positivity
  have size' : (0 : Rat) ≤ mantissa' * 2 ^ exponent' := by positivity
  rcases negative with _ | _ <;> rcases negative' with _ | _ <;>
    simp only [Bool.false_eq_true, if_false, if_true, one_mul, reduceCtorEq, true_or, and_true,
      false_or, neg_mul, neg_inj]
  all_goals
    constructor
    · rintro ⟨same, none⟩
      linarith
    · intro opposite
      constructor <;> linarith

/-- The rational value of a finite number. -/
def rational? : Number → Option (Bool ⊕ Rat)
  | nan => none
  | infinite negative => some (.inl negative)
  | finite negative mantissa exponent => some (.inr (rational negative mantissa exponent))

/-- Numbers are equal if they have the same value. -/
theorem equal_iff (left right : Number) :
    left.equal right = true ↔ left.rational?.isSome = true ∧ left.rational? = right.rational? := by
  cases left <;> cases right <;> simp [equal, rational?, finiteEqual_iff]

theorem equal_comm (left right : Number) : left.equal right = right.equal left := by
  rw [Bool.eq_iff_iff, equal_iff, equal_iff]
  constructor <;> rintro ⟨some, same⟩ <;> exact ⟨same ▸ some, same.symm⟩

theorem equal_trans {first second third : Number} (same : first.equal second = true)
    (later : second.equal third = true) : first.equal third = true := by
  rw [equal_iff] at *
  exact ⟨same.1, same.2.trans later.2⟩

/-- A number equals itself, and what is not a number does not. -/
theorem equal_self_iff {number : Number} : number.equal number = true ↔ number ≠ .nan := by
  rw [equal_iff]
  cases number <;> simp [rational?]

/-- No number at all twice, one infinity twice, or one magnitude with one sign. -/
inductive Same : Number → Number → Prop where
  | nan : Same nan nan
  | infinite (negative : Bool) : Same (infinite negative) (infinite negative)
  | finite (negative : Bool) {mantissa mantissa' : Nat} {exponent exponent' : Int}
      (magnitude : (mantissa : Rat) * 2 ^ exponent = mantissa' * 2 ^ exponent') :
      Same (finite negative mantissa exponent) (finite negative mantissa' exponent')

namespace Same

variable {number other : Number}

theorem refl : ∀ number : Number, Same number number
  | .nan => .nan
  | .infinite negative => .infinite negative
  | .finite negative _ _ => .finite negative rfl

theorem rational? : Same number other → number.rational? = other.rational?
  | .nan => rfl
  | .infinite _ => rfl
  | .finite negative magnitude => by
      rw [Number.rational?, Number.rational?, rational, rational, magnitude]

theorem nan_iff (same : Same number other) : number = .nan ↔ other = .nan := by
  cases same <;> simp

end Same

/-- A zero of either sign. -/
def IsZero (number : Number) : Prop := ∃ negative exponent, number = .finite negative 0 exponent

theorem same_or_isZero_of_equal : ∀ {left right : Number}, left.equal right = true →
    Same left right ∨ left.IsZero ∧ right.IsZero
  | .infinite negative, .infinite negative', equal => by
      obtain rfl : negative = negative' := beq_iff_eq.mp equal
      exact .inl (.infinite negative)
  | .finite negative mantissa exponent, .finite negative' mantissa' exponent', equal => by
      obtain ⟨magnitude, rfl | rfl⟩ := (finiteEqual_iff_magnitude ..).mp equal
      · exact .inl (.finite negative magnitude)
      · rw [Nat.cast_zero, zero_mul, eq_comm, magnitude_eq_zero_iff] at magnitude
        exact .inr ⟨⟨_, _, rfl⟩, ⟨_, _, by rw [magnitude]⟩⟩
  | .nan, _, different | .infinite _, .nan, different | .infinite _, .finite _ _ _, different
  | .finite _ _ _, .nan, different | .finite _ _ _, .infinite _, different =>
      Bool.noConfusion different

/-- What is equal is the same, but for the signs of zeros. -/
theorem equal_iff_same {left right : Number} : left.equal right = true ↔
    left ≠ .nan ∧ (Same left right ∨ left.IsZero ∧ right.IsZero) := by
  constructor
  · intro equal
    refine ⟨?_, same_or_isZero_of_equal equal⟩
    rintro rfl
    exact Bool.noConfusion equal
  · rintro ⟨number, same | ⟨⟨_, _, rfl⟩, ⟨_, _, rfl⟩⟩⟩
    · rw [equal_iff, same.rational?]
      refine ⟨?_, rfl⟩
      cases same with
      | nan => exact absurd rfl number
      | infinite _ | finite _ _ => rfl
    · exact (finiteEqual_iff_magnitude ..).mpr ⟨by simp, .inr rfl⟩

/-- The magnitude of a finite number as a fraction of natural numbers. -/
theorem magnitude_eq_div (mantissa : Nat) (exponent : Int) :
    (mantissa : Rat) * 2 ^ exponent =
      ((mantissa * 2 ^ exponent.toNat : Nat) : Rat) / ((2 ^ (-exponent).toNat : Nat) : Rat) := by
  push_cast
  rw [mul_div_assoc, ← zpow_natCast, ← zpow_natCast, ← zpow_sub₀ (by norm_num)]
  congr 2
  omega

/-- A finite number is cut off where its magnitude is. -/
theorem truncated_eq (negative : Bool) (mantissa : Nat) (exponent : Int) :
    truncated negative mantissa exponent =
      (if negative then -1 else 1) * (⌊(mantissa : Rat) * 2 ^ exponent⌋₊ : Int) := by
  rw [magnitude_eq_div, Nat.floor_div_eq_div, truncated]
  cases negative <;> simp

/-- Cutting off a number to within a range with a zero is having it within less than one of the
range. -/
theorem truncated_within_iff {negative : Bool} {mantissa : Nat} {exponent low high : Int}
    (lower : low ≤ 0) (upper : 0 ≤ high) :
    (low ≤ truncated negative mantissa exponent ∧ truncated negative mantissa exponent ≤ high) ↔
      (low : Rat) - 1 < rational negative mantissa exponent ∧
        rational negative mantissa exponent < high + 1 := by
  have size : (0 : Rat) ≤ mantissa * 2 ^ exponent := by positivity
  have below {bound : Int} (some_room : 0 ≤ bound) :
      (⌊(mantissa : Rat) * 2 ^ exponent⌋₊ : Int) ≤ bound ↔
        (mantissa : Rat) * 2 ^ exponent < bound + 1 := by
    lift bound to Nat using some_room
    rw [Int.ofNat_le, ← Nat.lt_succ_iff, Nat.floor_lt size]
    push_cast
    rfl
  have lower' : (low : Rat) ≤ 0 := by exact_mod_cast lower
  have upper' : (0 : Rat) ≤ high := by exact_mod_cast upper
  rw [truncated_eq, rational]
  cases negative with
  | false =>
      simp only [Bool.false_eq_true, if_false, one_mul, below upper]
      exact and_congr_left fun _ => iff_of_true (lower.trans (Int.natCast_nonneg _)) (by linarith)
  | true =>
      have turned := below (Int.neg_nonneg.mpr lower)
      push_cast at turned
      simp only [if_true, neg_mul, one_mul]
      rw [← Int.neg_le_neg_iff, neg_neg, turned]
      constructor
      · rintro ⟨inside, -⟩
        constructor <;> linarith
      · rintro ⟨inside, -⟩
        exact ⟨by linarith, by omega⟩

/-- Integers are equal as numbers if they are. -/
theorem equal_ofInt_iff {value value' : Int} : (ofInt value).equal (ofInt value') = true ↔
    value = value' := by
  simp only [ofInt, equal, finiteEqual_iff_magnitude, zpow_zero, mul_one, Nat.cast_inj,
    decide_eq_decide]
  omega

/-- A number that is the same as an integer is cut off to it. -/
theorem truncatedWithin?_of_same {number : Number} {value low high : Int}
    (same : number.Same (.ofInt value)) (above : low ≤ value) (below : value ≤ high) :
    number.truncatedWithin? low high = some value := by
  rw [ofInt] at same
  cases same with
  | @finite _ mantissa _ exponent _ magnitude =>
      have whole : truncated (value < 0) mantissa exponent = value := by
        rw [truncated_eq, magnitude, zpow_zero, mul_one, Nat.floor_natCast]
        simp only [decide_eq_true_eq]
        split <;> omega
      simp only [truncatedWithin?, whole]
      exact if_pos ⟨above, below⟩

/-- Within a range with a zero, a number can be cut off to an integer exactly if it is within less
than one of the range. -/
theorem exists_truncatedWithin?_iff {number : Number} {low high : Int} (lower : low ≤ 0)
    (upper : 0 ≤ high) : (∃ whole, number.truncatedWithin? low high = some whole) ↔
      ∃ value : Rat, number.rational? = some (.inr value) ∧ (low : Rat) - 1 < value ∧
        value < high + 1 := by
  cases number with
  | nan | infinite _ => simp [truncatedWithin?, rational?]
  | finite negative mantissa exponent =>
      simp [truncatedWithin?, rational?, ← truncated_within_iff lower upper]

end Offload.Number
