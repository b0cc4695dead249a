import ChatDice.Text.Blank

/-!
# Decimal numerals

Commands write every number as a run of ASCII digits. This file reads such runs and prints whole
numbers:

* `value` is the number that a run of digits stands for;
* `significant` is the run without its leading zeros, and `maxDigits` the number of significant
  digits that a command may use;
* `capped` reads a count: a run with too many significant digits is read as `cap`, a number above
  every configurable limit, so that the range check refuses it later;
* `integer?` reads a run of digits that may have blanks around it;
* `print?` prints a number of at most `maxPrintedDigits` digits and refuses a longer one;
  `isPrintable` is the test.
-/

namespace ChatDice.Numeral

/-- The number of significant digits that sides and literals may have. -/
def maxDigits : Nat := 9

/-- The least number with more than `maxDigits` digits. -/
def cap : Nat := Nat.pow 10 maxDigits

/-- The value of a decimal digit. -/
def digitValue (c : Char) : Nat :=
  c.toNat - 0x30

/-- The number that a run of decimal digits stands for; the empty run stands for zero. -/
def value (digits : List Char) : Nat :=
  digits.foldl (fun n c => 10 * n + digitValue c) 0

/-- A run of digits without its leading zeros; a run of zeros keeps one. -/
def significant (digits : List Char) : List Char :=
  match digits.dropWhile (· == '0') with
  | [] => ['0']
  | rest => rest

/-- A count: the number that the digits stand for, or `cap` when that number is too long. -/
def capped (digits : List Char) : Nat :=
  if (significant digits).length > maxDigits then cap else value (significant digits)

/-- Reads a non-empty run of digits, with blanks allowed on both sides of it. -/
def integer? (text : List Char) : Option Nat :=
  let digits := Text.trim text
  if digits ≠ [] ∧ digits.all Char.isDigit then some (value digits) else none

/-- The number of digits that a printed number may have. -/
def maxPrintedDigits : Nat := 4300

/-- Whether a number has few enough digits to be printed. -/
@[irreducible] def isPrintable (n : Int) : Bool :=
  n.natAbs < Nat.pow 10 maxPrintedDigits

/-- Prints a number in decimal, with a minus sign before a negative one. A number of more than
`maxPrintedDigits` digits has no printed form. -/
def print? (n : Int) : Option String :=
  if isPrintable n then some (toString n) else none

/-- The message about a number that cannot be printed. -/
def unprintableMessage : String :=
  "Exceeds the limit (4300 digits) for integer string conversion; " ++
    "use sys.set_int_max_str_digits() to increase the limit"

/-- No digits stand for zero. -/
@[simp] theorem value_nil : value [] = 0 := rfl

/-- A run of digits without its leading zeros has a digit left. -/
theorem significant_ne_nil (digits : List Char) : significant digits ≠ [] := by
  unfold significant
  split <;> simp_all

/-- A count with too many significant digits is read as the cap. -/
theorem capped_of_long {digits : List Char} (h : maxDigits < (significant digits).length) :
    capped digits = cap :=
  if_pos h

/-- A count with few enough significant digits is read as it is. -/
theorem capped_of_short {digits : List Char} (h : (significant digits).length ≤ maxDigits) :
    capped digits = value (significant digits) :=
  if_neg (Nat.not_lt.2 h)

/-- A number is printable up to its greatest number of digits. -/
theorem isPrintable_iff {n : Int} :
    isPrintable n = true ↔ n.natAbs < Nat.pow 10 maxPrintedDigits := by
  unfold isPrintable
  exact decide_eq_true_iff

/-- A number below the cap has few enough digits by far. -/
theorem isPrintable_of_natAbs_le_cap {n : Int} (h : n.natAbs ≤ cap) : isPrintable n = true := by
  have hdigits : maxDigits < maxPrintedDigits := by decide
  simp only [isPrintable_iff, cap, Nat.pow_eq] at h ⊢
  exact Nat.lt_of_le_of_lt h (Nat.pow_lt_pow_right (by decide) hdigits)

/-- A printable number is printed in decimal. -/
theorem print?_of_isPrintable {n : Int} (h : isPrintable n = true) : print? n = some (toString n) :=
  if_pos h

end ChatDice.Numeral
