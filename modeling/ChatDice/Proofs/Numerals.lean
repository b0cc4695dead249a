import ChatDice.Numeral
import ChatDice.Proofs.Blanks
import Mathlib.Algebra.Group.Nat.Defs

/-!
# What numerals are worth

A run of digits is worth less than ten to its length, and a run that does not begin with a zero is
worth at least ten to one less. So the number of significant digits of a run says how large its
value is (`length_significant_le_iff`). With that both readers of numerals are known exactly: a
count is its value or the cap, whichever is less (`capped_eq_min`), and sides and literals are below
the cap exactly if they have few enough digits.

Numbers that are printed are counted by `digitCount`; their text has as many characters and perhaps
a sign (`length_toString_le`).
-/

namespace ChatDice.Numeral

/-- A text of decimal digits only; it may be empty. -/
def Digits (text : List Char) : Prop :=
  ∀ c ∈ text, c.isDigit = true

/-- A numeral: decimal digits, at least one of them. -/
structure IsNumeral (text : List Char) : Prop where
  /-- It is not empty. -/
  ne_nil : text ≠ []
  /-- All its characters are digits. -/
  digits : Digits text

instance (text : List Char) : Decidable (Digits text) :=
  List.decidableBAll (fun c : Char => c.isDigit = true) text

/-- The empty text has no other characters than digits. -/
@[simp] theorem digits_nil : Digits [] :=
  List.forall_mem_nil _

/-- A text has digits only if its first character is one and the rest has digits only. -/
@[simp] theorem digits_cons {c : Char} {text : List Char} :
    Digits (c :: text) ↔ c.isDigit = true ∧ Digits text :=
  List.forall_mem_cons

/-- A numeral is a text of digits that is not empty. -/
theorem isNumeral_iff {text : List Char} : IsNumeral text ↔ text ≠ [] ∧ Digits text :=
  ⟨fun h => ⟨h.ne_nil, h.digits⟩, fun h => ⟨h.1, h.2⟩⟩

instance (text : List Char) : Decidable (IsNumeral text) :=
  decidable_of_iff _ isNumeral_iff.symm

/-! ### Single digits -/

/-- The digits are the ten characters from the code of the zero on. -/
theorem toNat_of_isDigit {c : Char} (h : c.isDigit = true) : 0x30 ≤ c.toNat ∧ c.toNat ≤ 0x39 := by
  simp only [Char.isDigit, Bool.and_eq_true, decide_eq_true_eq, ge_iff_le, UInt32.le_iff_toNat_le]
    at h
  exact h

/-- A digit is worth less than ten. -/
theorem digitValue_lt {c : Char} (h : c.isDigit = true) : digitValue c < 10 := by
  have := toNat_of_isDigit h
  unfold digitValue
  omega

/-- Zero is the only digit that is worth nothing. -/
theorem digitValue_pos {c : Char} (h : c.isDigit = true) (hc : c ≠ '0') : 0 < digitValue c := by
  have hne : c.toNat ≠ 0x30 := fun h0 => hc (Char.toNat_inj.mp h0)
  have := toNat_of_isDigit h
  unfold digitValue
  omega

/-! ### Runs of digits -/

/-- The first digit counts as often as the digits after it can tell apart. -/
theorem value_cons (c : Char) (text : List Char) :
    value (c :: text) = 10 ^ text.length * digitValue c + value text := by
  have h : value (c :: text) = Nat.ofDigitChars 10 text (0 + digitValue c) := rfl
  rw [h, Nat.ofDigitChars_eq_ofDigitChars_zero, Nat.zero_add]
  rfl

/-- A run of digits is worth less than ten to its length. -/
theorem value_lt_pow {text : List Char} (h : Digits text) : value text < 10 ^ text.length := by
  induction text with
  | nil => decide
  | cons c text ih =>
    rw [digits_cons] at h
    have hc : digitValue c ≤ 9 := Nat.le_of_lt_succ (digitValue_lt h.1)
    calc value (c :: text) = 10 ^ text.length * digitValue c + value text := value_cons c text
      _ < 10 ^ text.length * digitValue c + 10 ^ text.length := Nat.add_lt_add_left (ih h.2) _
      _ ≤ 10 ^ text.length * 9 + 10 ^ text.length :=
        Nat.add_le_add_right (Nat.mul_le_mul_left _ hc) _
      _ = 10 ^ (c :: text).length := by rw [List.length_cons, Nat.pow_succ]; omega

/-- Below the cap, no more digits count than a value below the cap has. -/
theorem value_lt_pow_min {text : List Char} (h : Digits text) (hlt : value text < cap) :
    value text < 10 ^ min text.length maxDigits := by
  rcases Nat.le_total text.length maxDigits with hle | hge
  · rw [Nat.min_eq_left hle]
    exact value_lt_pow h
  · rw [Nat.min_eq_right hge]
    exact hlt

/-- A run that does not begin with a zero uses all its places. -/
theorem pow_le_value_cons {c : Char} {text : List Char} (hc : c.isDigit = true) (h0 : c ≠ '0') :
    10 ^ text.length ≤ value (c :: text) := by
  rw [value_cons]
  exact Nat.le_add_right_of_le (Nat.le_mul_of_pos_right _ (digitValue_pos hc h0))

/-! ### Leading zeros -/

/-- The zeros at the front of a run are worth nothing. -/
theorem value_dropWhile_zero (text : List Char) :
    value (text.dropWhile (· == '0')) = value text := by
  induction text with
  | nil => rfl
  | cons c text ih =>
    by_cases hc : c = '0'
    · subst hc
      have h0 : digitValue '0' = 0 := rfl
      rw [List.dropWhile_cons_of_pos (by rfl), ih, value_cons, h0, Nat.mul_zero, Nat.zero_add]
    · rw [List.dropWhile_cons_of_neg (by simpa using hc)]

/-- Of a run of zeros one zero is left. -/
theorem significant_of_eq_nil {text : List Char} (h : text.dropWhile (· == '0') = []) :
    significant text = ['0'] := by
  simp only [significant, h]

/-- From the first other digit on everything is significant. -/
theorem significant_of_eq_cons {text rest : List Char} {c : Char}
    (h : text.dropWhile (· == '0') = c :: rest) : significant text = c :: rest := by
  simp only [significant, h]

/-- Leading zeros do not count. -/
theorem value_significant (text : List Char) : value (significant text) = value text := by
  rw [← value_dropWhile_zero text]
  cases h : text.dropWhile (· == '0') with
  | nil => rw [significant_of_eq_nil h]; rfl
  | cons c rest => rw [significant_of_eq_cons h]

/-- The significant digits of a run are digits. -/
theorem digits_significant {text : List Char} (h : Digits text) : Digits (significant text) := by
  cases hd : text.dropWhile (· == '0') with
  | nil => rw [significant_of_eq_nil hd]; decide
  | cons c rest =>
    rw [significant_of_eq_cons hd, ← hd]
    exact fun d hm => h d ((List.dropWhile_sublist _).mem hm)

/-- The first significant digit is not a zero, so the value has all the places from there on. -/
theorem pow_le_value_of_dropWhile {text rest : List Char} {c : Char} (h : Digits text)
    (hd : text.dropWhile (· == '0') = c :: rest) : 10 ^ rest.length ≤ value text := by
  have hc : c ≠ '0' := by
    have h0 := List.head?_dropWhile_not (· == '0') text
    rw [hd] at h0
    simpa using h0
  have hmem : c ∈ text.dropWhile (· == '0') := hd ▸ List.mem_cons_self
  have hdigit : c.isDigit = true := h c ((List.dropWhile_sublist _).mem hmem)
  rw [← value_dropWhile_zero text, hd]
  exact pow_le_value_cons hdigit hc

/-- Only zeros are worth nothing. -/
theorem dropWhile_zero_eq_nil_iff {text : List Char} (h : Digits text) :
    text.dropWhile (· == '0') = [] ↔ value text = 0 := by
  constructor
  · intro hnil
    rw [← value_dropWhile_zero text, hnil, value_nil]
  · intro hzero
    cases hd : text.dropWhile (· == '0') with
    | nil => rfl
    | cons c rest =>
      have hle := pow_le_value_of_dropWhile h hd
      have hpos : 0 < 10 ^ rest.length := Nat.pow_pos (Nat.succ_pos 9)
      rw [hzero] at hle
      exact absurd hle (Nat.not_le.mpr hpos)

/-- The number of significant digits of a run is the number of digits of its value. -/
theorem length_significant_le_iff {text : List Char} (h : Digits text) {k : Nat} (hk : 0 < k) :
    (significant text).length ≤ k ↔ value text < 10 ^ k := by
  constructor
  · intro hlen
    calc value text = value (significant text) := (value_significant text).symm
      _ < 10 ^ (significant text).length := value_lt_pow (digits_significant h)
      _ ≤ 10 ^ k := Nat.pow_le_pow_right (by decide) hlen
  · intro hlt
    cases hd : text.dropWhile (· == '0') with
    | nil =>
      rw [significant_of_eq_nil hd]
      exact hk
    | cons c rest =>
      have hle : 10 ^ rest.length ≤ value text := pow_le_value_of_dropWhile h hd
      rw [significant_of_eq_cons hd]
      exact (Nat.pow_lt_pow_iff_right (by decide)).mp (Nat.lt_of_le_of_lt hle hlt)

/-- A run has few enough significant digits exactly if its value is below the cap. -/
theorem length_significant_le_maxDigits_iff {text : List Char} (h : Digits text) :
    (significant text).length ≤ maxDigits ↔ value text < cap :=
  length_significant_le_iff h (by decide)

/-! ### The readers of numerals -/

/-- A count is read as its value, or as the cap if its value is above it. -/
theorem capped_eq_min {text : List Char} (h : Digits text) : capped text = min (value text) cap := by
  rcases Nat.lt_or_ge (value text) cap with hlt | hge
  · rw [capped_of_short ((length_significant_le_maxDigits_iff h).mpr hlt), value_significant]
    exact (Nat.min_eq_left hlt.le).symm
  · have hlong : maxDigits < (significant text).length := by
      rw [← Nat.not_le, length_significant_le_maxDigits_iff h]
      exact Nat.not_lt.mpr hge
    rw [capped_of_long hlong]
    exact (Nat.min_eq_right hge).symm

/-- Below the cap a count is read exactly. -/
theorem capped_eq_value {text : List Char} (h : Digits text) (hlt : capped text < cap) :
    capped text = value text := by
  rw [capped_eq_min h] at hlt ⊢
  omega

/-- A count that is worth less than the cap is read as what it is worth. -/
theorem capped_eq_of_value_lt {text : List Char} (h : Digits text) (hlt : value text < cap) :
    capped text = value text := by
  rw [capped_eq_min h]
  omega

/-- A numeral has no blanks at its ends. -/
theorem IsNumeral.tight {text : List Char} (h : IsNumeral text) : Text.Tight text :=
  Text.Tight.of_forall fun c hc => Text.isBlank_eq_false_of_isDigit (h.digits c hc)

/-- A numeral has no blanks around it, so it is read as its value. -/
theorem integer?_of_isNumeral {text : List Char} (h : IsNumeral text) :
    integer? text = some (value text) := by
  have htrim : Text.trim text = text := Text.trim_eq_self h.tight
  have hcond : text ≠ [] ∧ text.all Char.isDigit = true :=
    ⟨h.ne_nil, List.all_eq_true.mpr h.digits⟩
  simp only [integer?, htrim, if_pos hcond]

/-- The significant digits of a numeral are converted to its value. -/
theorem integer?_significant {text : List Char} (h : IsNumeral text) :
    integer? (significant text) = some (value text) := by
  have hsig : IsNumeral (significant text) :=
    ⟨significant_ne_nil text, digits_significant h.digits⟩
  rw [integer?_of_isNumeral hsig, value_significant]

/-! ### Numbers in print -/

/-- Decimal digits make a numeral. -/
theorem isNumeral_toDigits (n : Nat) : IsNumeral (Nat.toDigits 10 n) :=
  ⟨List.ne_nil_of_length_pos Nat.length_toDigits_pos,
    fun _ hc => Nat.isDigit_of_mem_toDigits (by decide) (by decide) hc⟩

/-- A number is printed as a numeral that is worth it. -/
theorem value_toDigits (n : Nat) : value (Nat.toDigits 10 n) = n :=
  Nat.ofDigitChars_toDigits (by decide) (by decide)

/-- The number of decimal digits of a number, its sign aside; zero has one digit. -/
def digitCount (n : Int) : Nat :=
  (Nat.toDigits 10 n.natAbs).length

/-- Every number has a digit. -/
theorem digitCount_pos (n : Int) : 0 < digitCount n :=
  Nat.length_toDigits_pos

/-- A number has at most some number of digits if it is below ten to that number. -/
theorem digitCount_le_iff {n : Int} {k : Nat} (hk : 0 < k) :
    digitCount n ≤ k ↔ n.natAbs < 10 ^ k :=
  Nat.length_toDigits_le_iff (by decide) hk

/-- A number is below ten to the number of its digits. -/
theorem natAbs_lt_pow_digitCount (n : Int) : n.natAbs < 10 ^ digitCount n :=
  (digitCount_le_iff (digitCount_pos n)).mp (Nat.le_refl _)

/-- Of a numeral below the cap no more digits count than it has, and at most nine. -/
theorem digitCount_value_le {text : List Char} (h : IsNumeral text) (hlt : value text < cap) :
    digitCount (value text) ≤ min text.length maxDigits := by
  have hpos : 0 < min text.length maxDigits :=
    Nat.lt_min.mpr ⟨List.length_pos_of_ne_nil h.ne_nil, by decide⟩
  rw [digitCount_le_iff hpos, Int.natAbs_natCast]
  exact value_lt_pow_min h.digits hlt

/-- The numbers that can be printed are those with few enough digits. -/
theorem isPrintable_iff_digitCount_le {n : Int} :
    isPrintable n = true ↔ digitCount n ≤ maxPrintedDigits := by
  have hpos : 0 < maxPrintedDigits := by decide
  rw [digitCount_le_iff hpos, ← Nat.pow_eq]
  -- The power is compared as it is written, since its value has thousands of digits.
  with_reducible exact isPrintable_iff

/-- A number with no more digits than may be printed is printed. -/
theorem print?_of_digitCount_le {n : Int} (h : digitCount n ≤ maxPrintedDigits) :
    print? n = some (toString n) :=
  print?_of_isPrintable (isPrintable_iff_digitCount_le.mpr h)

/-! ### The text of a printed number -/

/-- A number that is not negative is printed as its decimal digits. -/
theorem toList_toString_natCast (n : Nat) : (toString (n : Int)).toList = Nat.toDigits 10 n :=
  Nat.toList_repr

/-- A negative number is printed with a minus sign and the digits of its magnitude. -/
theorem toList_toString_negSucc (n : Nat) :
    (toString (Int.negSucc n)).toList = '-' :: Nat.toDigits 10 (n + 1) := by
  have hprint : toString (Int.negSucc n) = "-" ++ (n + 1).repr := rfl
  rw [hprint, String.toList_append, Nat.toList_repr]
  rfl

/-- A number is printed with digits and perhaps a minus sign. -/
theorem isDigit_or_eq_minus_of_mem_toString {n : Int} {c : Char} (h : c ∈ (toString n).toList) :
    c.isDigit = true ∨ c = '-' := by
  cases n with
  | ofNat n =>
    have hprint := toList_toString_natCast n
    rw [Int.ofNat_eq_natCast, hprint] at h
    exact .inl ((isNumeral_toDigits n).digits c h)
  | negSucc n =>
    rw [toList_toString_negSucc] at h
    rcases List.mem_cons.mp h with hsign | hdigit
    · exact .inr hsign
    · exact .inl ((isNumeral_toDigits (n + 1)).digits c hdigit)

/-- A number that is not negative is printed in as many characters as it has digits. -/
theorem length_toString_of_nonneg {n : Int} (h : 0 ≤ n) : (toString n).length = digitCount n := by
  obtain ⟨m, rfl⟩ := Int.eq_ofNat_of_zero_le h
  rw [← String.length_toList, toList_toString_natCast]
  rfl

/-- A number is printed with its digits and at most a sign. -/
theorem length_toString_le (n : Int) : (toString n).length ≤ digitCount n + 1 := by
  cases n with
  | ofNat n =>
    rw [Int.ofNat_eq_natCast, length_toString_of_nonneg (Int.natCast_nonneg n)]
    exact Nat.le_succ _
  | negSucc n =>
    rw [← String.length_toList, toList_toString_negSucc]
    exact Nat.le_refl _

/-- A count is printed in at most eleven characters, the cap included. -/
theorem length_toString_le_of_le_cap {n : Int} (hnonneg : 0 ≤ n) (hle : n ≤ cap) :
    (toString n).length ≤ 11 := by
  have hdigits : digitCount n ≤ 10 := by
    have hcap : (cap : Int) = 1000000000 := rfl
    rw [digitCount_le_iff (by decide)]
    omega
  exact Nat.le_trans (length_toString_le n) (Nat.add_le_add_right hdigits 1)

end ChatDice.Numeral
