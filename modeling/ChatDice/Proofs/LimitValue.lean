import ChatDice.Dice.Limit
import Mathlib.Algebra.Order.Field.Basic
import Mathlib.Algebra.Order.Field.Rat
import Mathlib.Order.Compare
import Mathlib.Tactic.NormNum

/-!
# Limits as numbers

A limit that is a number at all is a rational one (`Limit.value?`): an integer, a truth value that
counts as one or zero, or a mantissa times a power of two. Infinities and the binary64 value that is
no number have none. Comparing a limit with an integer is comparing these numbers, nothing is
rounded on the way (`Binary64.compareInt_finite`), and so a limit is between two integers exactly if
its number is (`Limit.between_iff`).
-/

namespace ChatDice

/-! ### Comparing exactly -/

/-- Two comparisons come out the same if both strict orders do. -/
theorem compare_congr {a b : ℤ} {x y : ℚ} (hlt : a < b ↔ x < y) (hgt : b < a ↔ y < x) :
    compare a b = compare x y := by
  rcases lt_trichotomy a b with h | h | h
  · rw [compare_lt_iff_lt.mpr h, compare_lt_iff_lt.mpr (hlt.mp h)]
  · have hle : x ≤ y := not_lt.mp fun hyx => (hgt.mpr hyx).ne' h
    have hge : y ≤ x := not_lt.mp fun hxy => (hlt.mpr hxy).ne h
    rw [compare_eq_iff_eq.mpr h, compare_eq_iff_eq.mpr (le_antisymm hle hge)]
  · rw [compare_gt_iff_gt.mpr h, compare_gt_iff_gt.mpr (hgt.mp h)]

/-- Integers compare as the rational numbers that they are. -/
theorem compare_intCast (a b : ℤ) : compare a b = compare (a : ℚ) (b : ℚ) :=
  compare_congr Int.cast_lt.symm Int.cast_lt.symm

namespace Binary64

/-- The number that a binary64 value is, unless it is infinite or no number. -/
def value? : Binary64 → Option ℚ
  | finite negative mantissa exponent =>
    some ((if negative then -(mantissa : ℚ) else mantissa) * 2 ^ exponent)
  | infinite _ => none
  | nan => none

/-- A power of two is multiplied onto the side where it is whole. -/
theorem compare_mul_zpow (signed n exponent : ℤ) :
    (if 0 ≤ exponent then some (compare (signed * Int.pow 2 exponent.toNat) n)
      else some (compare signed (n * Int.pow 2 (-exponent).toNat))) =
      some (compare ((signed : ℚ) * 2 ^ exponent) (n : ℚ)) := by
  have hpow (k : ℕ) : ((Int.pow 2 k : ℤ) : ℚ) = 2 ^ k := by
    rw [Int.pow_eq]
    push_cast
    rfl
  split_ifs with h
  · obtain ⟨k, rfl⟩ := Int.eq_ofNat_of_zero_le h
    rw [Int.toNat_natCast, compare_intCast, Int.cast_mul, hpow, zpow_natCast]
  · obtain ⟨k, rfl⟩ : ∃ k : ℕ, exponent = -k := ⟨(-exponent).toNat, by omega⟩
    have hpos : (0 : ℚ) < 2 ^ k := by positivity
    rw [neg_neg, Int.toNat_natCast, zpow_neg, zpow_natCast]
    congr 1
    apply compare_congr
    · rw [mul_inv_lt_iff₀ hpos, ← Int.cast_lt (R := ℚ), Int.cast_mul, hpow]
    · rw [lt_mul_inv_iff₀ hpos, ← Int.cast_lt (R := ℚ), Int.cast_mul, hpow]

/-- Nothing is rounded when a value is compared with an integer. -/
theorem compareInt_finite (negative : Bool) (mantissa : ℕ) (exponent n : ℤ) :
    (finite negative mantissa exponent).compareInt n =
      some (compare ((if negative then -(mantissa : ℚ) else mantissa) * 2 ^ exponent) (n : ℚ)) := by
  have hsigned : ((if negative then -(mantissa : ℤ) else mantissa : ℤ) : ℚ) =
      if negative then -(mantissa : ℚ) else mantissa := by
    split_ifs <;> simp
  rw [← hsigned]
  exact compare_mul_zpow _ n exponent

end Binary64

namespace Limit

/-- The number that a limit is, unless it is infinite or no number. -/
def value? : Limit → Option ℚ
  | whole n => some n
  | real x => x.value?
  | flag b => some (if b then 1 else 0)

/-- A limit that is a number compares as this number does. -/
theorem compareInt_of_value? {limit : Limit} {v : ℚ} (h : limit.value? = some v) (n : ℤ) :
    limit.compareInt n = some (compare v (n : ℚ)) := by
  cases limit with
  | whole m =>
    cases h
    exact congrArg some (compare_intCast m n)
  | flag b =>
    cases h
    cases b <;> exact congrArg some (by rw [compare_intCast]; simp)
  | real x =>
    cases x with
    | finite negative mantissa exponent =>
      cases h
      exact Binary64.compareInt_finite negative mantissa exponent n
    | infinite negative => cases h
    | nan => cases h

/-- A limit that is no number compares with all integers alike, if it does so at all. -/
theorem compareInt_of_value?_eq_none {limit : Limit} (h : limit.value? = none) :
    (∀ n, limit.compareInt n = none) ∨ (∀ n, limit.compareInt n = some .lt) ∨
      ∀ n, limit.compareInt n = some .gt := by
  cases limit with
  | whole m => cases h
  | flag b => cases h
  | real x =>
    cases x with
    | finite negative mantissa exponent => cases h
    | infinite negative =>
      cases negative with
      | true => exact .inr (.inl fun n => rfl)
      | false => exact .inr (.inr fun n => rfl)
    | nan => exact .inl fun n => rfl

/-- A limit is between two integers exactly if it is a number and that number is. -/
theorem between_iff {limit : Limit} {low high : ℤ} :
    limit.between low high = true ↔ ∃ v, limit.value? = some v ∧ (low : ℚ) ≤ v ∧ v < high := by
  unfold between
  cases h : limit.value? with
  | none =>
    rcases compareInt_of_value?_eq_none h with hnone | hlt | hgt
    · simp [hnone]
    · simp [hlt]
    · simp [hgt]
  | some v =>
    have hlow : (compare v (low : ℚ) = .gt ∨ compare v (low : ℚ) = .eq) ↔ (low : ℚ) ≤ v := by
      rw [compare_gt_iff_gt, compare_eq_iff_eq, le_iff_lt_or_eq, eq_comm]
    simp only [compareInt_of_value? h, Bool.and_eq_true, Bool.or_eq_true, beq_iff_eq,
      Option.some_inj, hlow, compare_lt_iff_lt]
    simp

end Limit

end ChatDice
