import ChatDice.Text.Printable.Ranges

/-!
# Printable characters

A text that is quoted for a log line shows its printable characters as they are and writes the
others as escapes. This file holds the property: ASCII from the space to the tilde, and every
other character outside the ranges of `unprintableRanges`.
-/

namespace ChatDice.Text

/-- Whether a character is shown as it is in a quoted text. -/
def isPrintable (c : Char) : Bool :=
  let n := c.toNat
  if n < 0x80 then 0x20 ≤ n && n ≤ 0x7E
  else unprintableRanges.all fun (low, high) => n < low || high < n

/-- A printable character is no ASCII control. -/
theorem isPrintable_ascii {c : Char} (h : isPrintable c = true) :
    0x20 ≤ c.toNat ∧ c.toNat ≠ 0x7F := by
  unfold isPrintable at h
  by_cases hc : c.toNat < 0x80
  · simp only [hc, if_true, Bool.and_eq_true, decide_eq_true_eq] at h
    omega
  · omega

end ChatDice.Text
