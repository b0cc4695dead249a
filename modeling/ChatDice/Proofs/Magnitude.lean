import ChatDice.Proofs.Accounts
import ChatDice.Proofs.Rolls
import ChatDice.Proofs.RoundTrip

/-!
# How large totals grow

No total has more digits than the text of its expression accounts for, at a rate of nine digits for
ten characters (`Fits`). A term has at most eighteen digits, nine from its count and nine from its
sides, and the letter between them; a literal has at most nine. An operator never gives more digits
than both its sides have together (`digitCount_apply_le`), and its own character is the tenth of the
next ten. So the rate is kept from term to term (`Fits.apply`).

Main statement (`total_bounded_by_length`): the bound, and what follows from it for commands of chat
length. Their totals can all be printed, so such a command gives a result or is turned down.
-/

namespace ChatDice

open Numeral (IsNumeral cap value digitCount digitCount_le_iff digitCount_pos maxDigits
  natAbs_lt_pow_digitCount)

/-! ### Digits and operators -/

/-- A product has at most the digits of both factors. -/
theorem digitCount_mul_le (m n : Int) : digitCount (m * n) ≤ digitCount m + digitCount n := by
  rw [digitCount_le_iff (Nat.add_pos_left (digitCount_pos m) _), Int.natAbs_mul, Nat.pow_add]
  exact Nat.mul_lt_mul'' (natAbs_lt_pow_digitCount m) (natAbs_lt_pow_digitCount n)

/-- A number no larger than two others together has no more digits than both of them. -/
theorem digitCount_le_of_natAbs_le {m n t : Int} (h : t.natAbs ≤ m.natAbs + n.natAbs) :
    digitCount t ≤ digitCount m + digitCount n := by
  have hm : 2 ≤ 10 ^ digitCount m := Nat.one_lt_pow (digitCount_pos m).ne' (by decide)
  have hn : 2 ≤ 10 ^ digitCount n := Nat.one_lt_pow (digitCount_pos n).ne' (by decide)
  rw [digitCount_le_iff (Nat.add_pos_left (digitCount_pos m) _)]
  calc t.natAbs ≤ m.natAbs + n.natAbs := h
    _ < 10 ^ digitCount m + 10 ^ digitCount n :=
      Nat.add_lt_add (natAbs_lt_pow_digitCount m) (natAbs_lt_pow_digitCount n)
    _ ≤ 10 ^ digitCount m * 10 ^ digitCount n := Nat.add_le_mul hm hn
    _ = 10 ^ (digitCount m + digitCount n) := (Nat.pow_add _ _ _).symm

/-- An operator gives no more digits than both its sides have together. -/
theorem digitCount_apply_le {operator : Operator} {m n t : Int} (h : operator.apply m n = .ok t) :
    digitCount t ≤ digitCount m + digitCount n := by
  cases operator with
  | add =>
    cases h
    exact digitCount_le_of_natAbs_le (Int.natAbs_add_le m n)
  | sub =>
    cases h
    exact digitCount_le_of_natAbs_le (Int.natAbs_sub_le m n)
  | mul =>
    cases h
    exact digitCount_mul_le m n
  | div =>
    by_cases hn : n = 0
    · rw [hn, Operator.apply_div_zero] at h
      cases h
    · rw [Operator.apply_div hn] at h
      cases h
      exact digitCount_le_of_natAbs_le (Nat.le_add_right_of_le (Int.natAbs_tdiv_le_natAbs m n))
  | unknown sign => cases h

/-! ### Numbers that fit a text -/

/-- A number fits a text of some length if it has at most nine digits for each ten characters, one
character more than the text has taken into account. -/
def Fits (n : Int) (length : Nat) : Prop :=
  10 * digitCount n ≤ 9 * (length + 1)

instance (n : Int) (length : Nat) : Decidable (Fits n length) :=
  inferInstanceAs (Decidable (10 * digitCount n ≤ 9 * (length + 1)))

/-- What fits a text fits every longer one. -/
theorem Fits.mono {n : Int} {length length' : Nat} (h : Fits n length) (hle : length ≤ length') :
    Fits n length' := by
  unfold Fits at h ⊢
  omega

/-- Two numbers that fit their texts are combined to a number that fits both texts with the sign of
the operator between them. -/
theorem Fits.apply {operator : Operator} {m n t : Int} {length length' : Nat} (hm : Fits m length)
    (hn : Fits n length') (h : operator.apply m n = .ok t) : Fits t (length + 1 + length') := by
  have hdigits := digitCount_apply_le h
  unfold Fits at hm hn ⊢
  omega

/-! ### What bodies are worth -/

namespace Command

/-- A count below the cap is at most ten to the number of its digits, of which nine count. -/
theorem SpellsCount.natAbs_le {text : List Char} {n : Int} (h : SpellsCount value text n)
    (hlt : n < cap) : n.natAbs ≤ 10 ^ min text.length maxDigits := by
  cases h with
  | omitted => decide
  | written h =>
    rw [Int.natAbs_natCast]
    exact (Numeral.value_lt_pow_min h.digits (Int.ofNat_lt.mp hlt)).le

variable {σ : Type} {g : Generator σ} {limit : Limit}

/-- A group of dice is worth at most its count times its sides. -/
theorem natAbs_value_appraise_le (hg : g.InRange) {spec : DiceSpec} (hspec : spec.WellFormed limit)
    (s : σ) :
    ((Payload.dice spec).appraise g s).1.value.natAbs ≤ spec.count.natAbs * spec.sides.natAbs := by
  have hone : 1 ≤ spec.count := hspec.one_le_count
  have hsides : 0 ≤ spec.sides := Int.le_trans (by decide) hspec.one_le_sides
  have hfaces := hg.forall_mem_roll hspec.one_le_sides spec.count.toNat s
  have hnonneg : 0 ≤ (spec.appraise (g.roll spec.sides spec.count.toNat s).1).value :=
    DiceSpec.value_appraise_nonneg fun face hmem => (hfaces face hmem).1
  have hle := DiceSpec.value_appraise_le hsides fun face hmem => (hfaces face hmem).2
  rw [Generator.length_roll, Int.toNat_of_nonneg (Int.le_trans (by decide) hone)] at hle
  simp only [Payload.appraise]
  rw [← Int.natAbs_mul, ← Int.ofNat_le, Int.natAbs_of_nonneg hnonneg,
    Int.natAbs_of_nonneg (Int.le_trans hnonneg hle)]
  exact hle

/-- A group of dice has no more digits than its count and its sides have together. -/
theorem digitCount_value_appraise_le (hg : g.InRange) (hlimit : limit.BelowCap)
    {count sides : List Char} {n : Int} {m : Option Modifier} (hcount : SpellsCount value count n)
    (hsides : IsNumeral sides)
    (hspec : DiceSpec.WellFormed limit ⟨n, value sides, m⟩) (s : σ) :
    digitCount ((Payload.dice ⟨n, value sides, m⟩).appraise g s).1.value ≤
      min count.length maxDigits + min sides.length maxDigits := by
  have hlt : value sides < cap := Int.ofNat_lt.mp hspec.sides_lt
  have hpos : 0 < min sides.length maxDigits :=
    Nat.lt_min.mpr ⟨List.length_pos_of_ne_nil hsides.ne_nil, by decide⟩
  rw [digitCount_le_iff (Nat.add_pos_right _ hpos), Nat.pow_add]
  calc ((Payload.dice ⟨n, value sides, m⟩).appraise g s).1.value.natAbs
      ≤ n.natAbs * (value sides : Int).natAbs := natAbs_value_appraise_le hg hspec s
    _ = n.natAbs * value sides := by rw [Int.natAbs_natCast]
    _ ≤ 10 ^ min count.length maxDigits * value sides :=
      Nat.mul_le_mul_right _ (hcount.natAbs_le (hlimit.lt_cap hspec.not_exceeded))
    _ < 10 ^ min count.length maxDigits * 10 ^ min sides.length maxDigits :=
      Nat.mul_lt_mul_of_pos_left (Numeral.value_lt_pow_min hsides.digits hlt)
        (Nat.pow_pos (by decide))

/-- What a body is worth fits the body, however the dice fall. -/
theorem SpellsPayload.fits (hg : g.InRange) (hlimit : limit.BelowCap) {body : List Char}
    {p : Payload} (h : SpellsPayload value body p) (hp : p.WellFormed limit) (s : σ) :
    Fits (p.appraise g s).1.value body.length := by
  cases h with
  | literal h hlt =>
    have hdigits := Numeral.digitCount_value_le h hlt
    simp only [Fits, Payload.appraise]
    unfold maxDigits at hdigits
    omega
  | @dice count sides rest c n m hcount hc hsides hlt hrest =>
    have hdigits := digitCount_value_appraise_le hg hlimit hcount hsides hp s
    simp only [Fits, List.length_append, List.length_cons]
    unfold maxDigits at hdigits
    omega

/-! ### Totals of expressions -/

/-- The total fits the expression after every term. -/
theorem SpellsTerms.fits_tally (hg : g.InRange) (hlimit : limit.BelowCap) {expr : List Char}
    {terms : List Term} (h : SpellsTerms value expr terms)
    (hpayload : ∀ term ∈ terms, term.payload.WellFormed limit) (s : σ) {account : Tally}
    (htally : (tally g terms .empty s).outcome = .ok account) :
    Fits account.total expr.length := by
  induction h generalizing account with
  | @first body p hbody =>
    have hp := hpayload _ List.mem_cons_self
    rw [outcome_tally_singleton] at htally
    have htotal : (0 : Int) + (p.appraise g s).1.value = account.total :=
      Except.ok.inj (Tally.apply_of_add_eq_ok htally)
    rw [← htotal, Int.zero_add]
    exact hbody.fits hg hlimit hp s
  | @next expr w₁ w₂ body terms sign operator p h hw₁ hsign hw₂ hbody hplain ih =>
    obtain ⟨hterms, hlast⟩ := List.forall_mem_append.mp hpayload
    have hp := hlast _ List.mem_cons_self
    rw [outcome_tally_concat] at htally
    obtain ⟨mid, hmid, hadd⟩ := bind_eq_ok_iff.mp htally
    have hfits := (ih hterms hmid).apply (hbody.fits hg hlimit hp _)
      (Tally.apply_of_add_eq_ok hadd)
    refine hfits.mono ?_
    simp only [List.length_append, List.length_cons]
    omega

/-- Before its expression a command has a slash, a word and a blank. -/
theorem Invokes.length_add_three_le {command expr : List Char} (h : Invokes command expr) :
    expr.length + 3 ≤ command.length := by
  cases h with
  | @intro w₁ word w₂ expr w₃ hw₁ hword hne hw₂ hexpr htight hw₃ =>
    have hword : 0 < word.length := by
      rw [List.length_pos_iff]
      rintro rfl
      exact absurd hword (by decide)
    have hblank : 0 < w₂.length := List.length_pos_of_ne_nil hne
    simp only [List.length_append, List.length_cons]
    omega

/-- The terms of a command end in a division by zero, or in a total that fits the expression. -/
theorem exists_fits_of_parse (hg : g.InRange) (hlimit : limit.BelowCap) {command : String}
    {terms : List Term} (h : parse limit command.toList = .ok terms) :
    ∃ expr, Invokes command.toList expr ∧ ∀ s,
      (tally g terms .empty s).outcome = .error (.rejected .divisionByZero) ∨
        ∃ account, (tally g terms .empty s).outcome = .ok account ∧
          Fits account.total expr.length := by
  obtain ⟨expr, hinvokes, hterms⟩ := spells_of_parse hlimit h
  have hwf := wellFormed_of_parse h
  refine ⟨expr, hinvokes, fun s => ?_⟩
  cases htally : (tally g terms .empty s).outcome with
  | error failure =>
    rw [(alwaysShown_of_parse hg h).eq_divisionByZero_of_tally hwf.operator_mem htally]
    exact .inl rfl
  | ok account => exact .inr ⟨account, rfl, hterms.fits_tally hg hlimit hwf.payload s htally⟩

/-- Commands of chat length never fail for the length of their totals. -/
theorem evaluate_ok_or_rejected (hg : g.InRange) (hlimit : limit.BelowCap) {command : String}
    (hlength : command.length ≤ 4700) (s : σ) :
    (∃ result, (evaluate g limit command s).outcome = .ok result) ∨
      ∃ why, (evaluate g limit command s).outcome = .error (.rejected why) := by
  cases hparse : parse limit command.toList with
  | error failure =>
    obtain ⟨why, rfl⟩ :=
      exists_rejected_of_parseWith ((parse_eq_rejected_iff hlimit.isPrintable).mp hparse)
    exact .inr ⟨why, outcome_evaluate_of_error hparse s⟩
  | ok terms =>
    rw [outcome_evaluate_of_parse hparse]
    obtain ⟨expr, hinvokes, hall⟩ := exists_fits_of_parse hg hlimit hparse
    rcases hall s with hzero | ⟨account, htally, hfits⟩
    · exact .inr ⟨_, outcome_evaluateTerms_of_error hzero⟩
    · have hlt := hinvokes.length_add_three_le
      rw [String.length_toList] at hlt
      have hdigits : digitCount account.total ≤ Numeral.maxPrintedDigits := by
        unfold Fits at hfits
        unfold Numeral.maxPrintedDigits
        omega
      exact .inl ⟨_, outcome_evaluateTerms_of_ok htally hdigits⟩

/-- **Totals are bounded by the text.** With dice in range, the terms of a command end in a division
by zero or in a total with at most nine digits for ten characters of the expression and one more. So
a command of at most 4700 characters gives a result or is turned down, and its total is never too
long to be printed. -/
theorem total_bounded_by_length (hg : g.InRange) (hlimit : limit.BelowCap) (command : String) :
    (∀ terms, parse limit command.toList = .ok terms →
      ∃ expr, expression? command.toList = some expr ∧ ∀ s,
        (tally g terms .empty s).outcome = .error (.rejected .divisionByZero) ∨
          ∃ account, (tally g terms .empty s).outcome = .ok account ∧
            10 * digitCount account.total ≤ 9 * (expr.length + 1)) ∧
    (command.length ≤ 4700 → ∀ s,
      (∃ result, (evaluate g limit command s).outcome = .ok result) ∨
        ∃ why, (evaluate g limit command s).outcome = .error (.rejected why)) := by
  refine ⟨fun terms h => ?_, fun hlength s => evaluate_ok_or_rejected hg hlimit hlength s⟩
  obtain ⟨expr, hinvokes, hall⟩ := exists_fits_of_parse hg hlimit h
  exact ⟨expr, expression?_eq_some_iff.mpr hinvokes, hall⟩

/-- Dice on their highest face, a thousand of them, give a total of twenty-one digits. -/
theorem total_bounded_by_length_highest :
    Generator.highest.InRange ∧ (Limit.whole 1000).BelowCap ∧
      parse (.whole 1000) "/r 1000d999999999 * 999999999".toList =
        .ok [⟨.add, .dice ⟨1000, 999999999, none⟩⟩, ⟨.mul, .literal 999999999⟩] ∧
      (∃ expr, expression? "/r 1000d999999999 * 999999999".toList = some expr ∧ ∀ s,
        (tally .highest [⟨.add, .dice ⟨1000, 999999999, none⟩⟩, ⟨.mul, .literal 999999999⟩] .empty
            s).outcome = .error (.rejected .divisionByZero) ∨
          ∃ account, (tally .highest [⟨.add, .dice ⟨1000, 999999999, none⟩⟩,
              ⟨.mul, .literal 999999999⟩] .empty s).outcome = .ok account ∧
            10 * digitCount account.total ≤ 9 * (expr.length + 1)) ∧
      "/r 1000d999999999 * 999999999".length ≤ 4700 ∧ ∀ s,
        (∃ result, (evaluate .highest (.whole 1000) "/r 1000d999999999 * 999999999" s).outcome =
          .ok result) ∨
        ∃ why, (evaluate .highest (.whole 1000) "/r 1000d999999999 * 999999999" s).outcome =
          .error (.rejected why) := by
  have hlimit : (Limit.whole 1000).BelowCap := by decide
  have hparse : parse (.whole 1000) "/r 1000d999999999 * 999999999".toList =
      .ok [⟨.add, .dice ⟨1000, 999999999, none⟩⟩, ⟨.mul, .literal 999999999⟩] := by rfl
  have hlength : "/r 1000d999999999 * 999999999".length ≤ 4700 := by decide
  obtain ⟨hbound, hevaluate⟩ := total_bounded_by_length Generator.inRange_highest hlimit
    "/r 1000d999999999 * 999999999"
  exact ⟨Generator.inRange_highest, hlimit, hparse, hbound _ hparse, hlength, hevaluate hlength⟩

end Command

end ChatDice
