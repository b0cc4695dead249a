import ChatDice.Dice.Rejection
import ChatDice.Dice.Term

/-!
# Combining numbers

Totals are integers of any size. An operator combines the total so far with the value of the next
term; no operator binds more tightly than another. Division drops the fraction, so it goes toward
zero on both sides of it, and division by zero is refused.
-/

namespace ChatDice

/-- The quotient of two numbers without its fraction. Their magnitudes are divided, and the result
is below zero if the two stand on different sides of it. A dividend of zero counts as positive. -/
def wholeQuotient (dividend divisor : Int) : Int :=
  let magnitude : Nat := dividend.natAbs / divisor.natAbs
  if 0 ≤ dividend ↔ 0 < divisor then magnitude else -magnitude

/-- A quotient without its fraction is rounded toward zero. Where a dividend of zero, or a divisor
of zero, makes the test of the sides call for a minus sign, the quotient is zero. -/
theorem wholeQuotient_eq_tdiv (dividend divisor : Int) :
    wholeQuotient dividend divisor = dividend.tdiv divisor := by
  obtain ⟨m, rfl | rfl⟩ := Int.eq_nat_or_neg dividend <;>
    obtain ⟨n, rfl | rfl⟩ := Int.eq_nat_or_neg divisor
  · have hzero : n = 0 → -((m : Int) / n) = m / n := by
      rintro rfl
      simp
    simpa [wholeQuotient] using hzero
  · have hneg : ¬(n : Int) < 0 := by omega
    simp [wholeQuotient, Int.tdiv_neg, hneg]
  · rcases Nat.eq_zero_or_pos m with rfl | hm
    · simp [wholeQuotient]
    · have hzero : n = 0 → (m : Int) / n = -(m / n) := by
        rintro rfl
        simp
      simpa [wholeQuotient, Int.neg_tdiv, Nat.pos_iff_ne_zero.mp hm] using hzero
  · rcases Nat.eq_zero_or_pos m with rfl | hm
    · simp [wholeQuotient]
    · have hneg : ¬(n : Int) < 0 := by omega
      simp [wholeQuotient, Int.neg_tdiv, Int.tdiv_neg, hneg, Nat.pos_iff_ne_zero.mp hm]

namespace Operator

/-- Combines a total with the value of the next term. -/
def apply (operator : Operator) (total value : Int) : Except Failure Int :=
  match operator with
  | add => .ok (total + value)
  | sub => .ok (total - value)
  | mul => .ok (total * value)
  | div => if value = 0 then .error (.rejected .divisionByZero) else .ok (wholeQuotient total value)
  | unknown sign => .error (.malformed (.unknownOperator sign))

/-- What comes of each step when values are combined one after another. A step that is refused
leaves the total as it was. -/
def applyAll : Int → List (Operator × Int) → List (Except Failure Int)
  | _, [] => []
  | total, (operator, value) :: steps =>
    match operator.apply total value with
    | .ok next => .ok next :: applyAll next steps
    | .error failure => .error failure :: applyAll total steps

/-- A sum can always be taken. -/
@[simp] theorem apply_add (total value : Int) : add.apply total value = .ok (total + value) := rfl

/-- So can a difference. -/
@[simp] theorem apply_sub (total value : Int) : sub.apply total value = .ok (total - value) := rfl

/-- So can a product. -/
@[simp] theorem apply_mul (total value : Int) : mul.apply total value = .ok (total * value) := rfl

/-- Nothing is divided by zero. -/
@[simp] theorem apply_div_zero (total : Int) :
    div.apply total 0 = .error (.rejected .divisionByZero) :=
  rfl

/-- By all other numbers, division is toward zero. -/
theorem apply_div {value : Int} (h : value ≠ 0) (total : Int) :
    div.apply total value = .ok (total.tdiv value) := by
  simp [apply, h, wholeQuotient_eq_tdiv]

end Operator

end ChatDice
