import ChatDice.Proofs.Recomputation
import Mathlib.Algebra.Order.Ring.Abs
import Mathlib.Tactic.Ring

/-!
# Division and its one refusal

Division works on magnitudes and puts the sign back by a test of the sides. What it gives is said
here without either (`IsWholeQuotient`): what is left over is smaller than the divisor, and stands
on the dividend's side of zero. Two numbers have one such quotient at most
(`IsWholeQuotient.unique`), because what two of them leave over would differ by a multiple of the
divisor and by less than the divisor. So the law decides the outcome of every division
(`Operator.apply_div_eq_ok_iff`), and how a quotient changes with the signs of its numbers can be
read off the law.

The total that stands after some steps is read off their outcomes (`Operator.standing`), and every
step meets the total that the steps before it leave (`Operator.applyAll_append`). A roll takes its
terms as such steps, up to the first that is refused (`outcome_tally_eq_error_iff_mem_stepsOf`,
`total_eq_standing_of_tally`), or to a term with a number that is too long to be shown.

Main statement (`Operator.toward_zero_and_refused_at_zero`): the law of division with its refusal,
and what follows for steps and for rolls.
-/

namespace ChatDice

/-! ### Quotients -/

/-- A quotient without its fraction: it is the whole number next to the exact quotient, on the way
from there to zero. -/
structure IsWholeQuotient (dividend divisor quotient : Int) : Prop where
  /-- What is left over is smaller than the divisor. -/
  smaller : |dividend - quotient * divisor| < |divisor|
  /-- If anything is left over, it has the sign of the dividend. -/
  side : dividend - quotient * divisor = 0 ∨
    (dividend - quotient * divisor).sign = dividend.sign

namespace IsWholeQuotient

variable {a b q q' : Int}

/-- There is no quotient by zero. -/
theorem divisor_ne_zero (h : IsWholeQuotient a b q) : b ≠ 0 := by
  rintro rfl
  exact absurd h.smaller (by simp)

/-- Of a dividend that is not negative, nothing negative is left over. -/
theorem rest_nonneg (h : IsWholeQuotient a b q) (ha : 0 ≤ a) : 0 ≤ a - q * b := by
  rcases h.side with hzero | hsign
  · exact hzero.ge
  · rwa [← Int.sign_nonneg_iff, hsign, Int.sign_nonneg_iff]

/-- Of a dividend that is not positive, nothing positive is left over. -/
theorem rest_nonpos (h : IsWholeQuotient a b q) (ha : a ≤ 0) : a - q * b ≤ 0 := by
  rcases h.side with hzero | hsign
  · exact hzero.le
  · rwa [← Int.sign_nonpos_iff, hsign, Int.sign_nonpos_iff]

/-- What two quotients of the same numbers leave over stands on one side of zero, so the difference
is smaller than the divisor. -/
theorem abs_rest_sub_lt (h : IsWholeQuotient a b q) (h' : IsWholeQuotient a b q') :
    |(a - q * b) - (a - q' * b)| < |b| := by
  obtain ⟨hlow, hhigh⟩ := abs_lt.mp h.smaller
  obtain ⟨hlow', hhigh'⟩ := abs_lt.mp h'.smaller
  rw [abs_lt]
  rcases le_total 0 a with ha | ha
  · have hrest := h.rest_nonneg ha
    have hrest' := h'.rest_nonneg ha
    constructor <;> omega
  · have hrest := h.rest_nonpos ha
    have hrest' := h'.rest_nonpos ha
    constructor <;> omega

/-- Two numbers have one quotient at most. -/
theorem unique (h : IsWholeQuotient a b q) (h' : IsWholeQuotient a b q') : q' = q := by
  have hrest : (a - q * b) - (a - q' * b) = (q' - q) * b := by ring
  have hdvd : |b| ∣ (a - q * b) - (a - q' * b) := by
    rw [abs_dvd, hrest]
    exact Dvd.intro_left _ rfl
  have hzero := Int.eq_zero_of_abs_lt_dvd hdvd (h.abs_rest_sub_lt h')
  rw [hrest, mul_eq_zero, or_iff_left h.divisor_ne_zero] at hzero
  exact sub_eq_zero.mp hzero

/-- The quotient changes its sign with the dividend. -/
theorem neg_dividend (h : IsWholeQuotient a b q) : IsWholeQuotient (-a) b (-q) := by
  have hrest : -a - -q * b = -(a - q * b) := by ring
  refine ⟨?_, ?_⟩
  · rw [hrest, abs_neg]
    exact h.smaller
  · rw [hrest, Int.neg_eq_zero, Int.sign_neg, Int.sign_neg, neg_inj]
    exact h.side

/-- The quotient changes its sign with the divisor. -/
theorem neg_divisor (h : IsWholeQuotient a b q) : IsWholeQuotient a (-b) (-q) := by
  have hrest : a - -q * -b = a - q * b := by ring
  refine ⟨?_, ?_⟩
  · rw [hrest, abs_neg]
    exact h.smaller
  · rw [hrest]
    exact h.side

end IsWholeQuotient

/-- Dividing the magnitudes and putting the sign back gives a quotient without its fraction. -/
theorem isWholeQuotient_wholeQuotient (a : Int) {b : Int} (hb : b ≠ 0) :
    IsWholeQuotient a b (wholeQuotient a b) := by
  have hrest : a - wholeQuotient a b * b = a.tmod b := by
    rw [wholeQuotient_eq_tdiv, Int.tmod_def, Int.mul_comm]
  refine ⟨?_, ?_⟩
  · rw [hrest, Int.abs_eq_natAbs, Int.abs_eq_natAbs, Int.natAbs_tmod]
    exact Int.ofNat_lt.mpr (Nat.mod_lt _ (Int.natAbs_pos.mpr hb))
  · rw [hrest, Int.sign_tmod]
    by_cases hdvd : b ∣ a
    · exact .inl (Int.tmod_eq_zero_of_dvd hdvd)
    · exact .inr (if_neg hdvd)

namespace Operator

/-! ### One step -/

/-- Division gives a number exactly if that is the quotient without its fraction. -/
theorem apply_div_eq_ok_iff {a b q : Int} : div.apply a b = .ok q ↔ IsWholeQuotient a b q := by
  by_cases hb : b = 0
  · subst hb
    constructor
    · intro h
      rw [apply_div_zero] at h
      cases h
    · intro h
      exact absurd rfl h.divisor_ne_zero
  · have hquotient := isWholeQuotient_wholeQuotient a hb
    rw [apply_div hb, ← wholeQuotient_eq_tdiv, Except.ok.injEq]
    constructor
    · rintro rfl
      exact hquotient
    · intro h
      exact h.unique hquotient

/-- Of all operators only division refuses a value for being zero. -/
theorem apply_eq_divisionByZero_iff {operator : Operator} {total value : Int} :
    operator.apply total value = .error (.rejected .divisionByZero) ↔
      operator = .div ∧ value = 0 := by
  cases operator with
  | unknown sign => simp [apply]
  | _ => simp [apply_eq_error_iff]

/-- The sign of an operator is the character that stands for it. -/
theorem toList_sign_of_ofChar? {c : Char} {operator : Operator} (h : ofChar? c = some operator) :
    operator.sign.toList = [c] := by
  unfold ofChar? at h
  split at h <;> cases h <;> rfl

/-- Each of the four operators has one sign, and no other text stands for it. -/
theorem ofSign_eq_iff {operator : Operator} (hmem : operator ∈ [Operator.add, .sub, .mul, .div])
    {sign : String} : ofSign sign = operator ↔ sign = operator.sign := by
  constructor
  · intro h
    unfold ofSign at h
    split at h
    · next c hc =>
      cases hof : ofChar? c with
      | none =>
        rw [hof, Option.getD_none] at h
        simp [← h] at hmem
      | some operator' =>
        rw [hof, Option.getD_some] at h
        rw [← String.toList_inj, hc, ← toList_sign_of_ofChar? hof, h]
    · simp [← h] at hmem
  · rintro rfl
    simp only [List.mem_cons, List.not_mem_nil, or_false] at hmem
    rcases hmem with rfl | rfl | rfl | rfl <;> rfl

/-! ### Steps one after another -/

/-- The total that stands after some outcomes: that of the last step that was not refused. -/
def standing (start : Int) (outcomes : List (Except Failure Int)) : Int :=
  outcomes.foldl (fun total outcome => outcome.toOption.getD total) start

/-- Without steps the total is the one at the start. -/
@[simp] theorem standing_nil (start : Int) : standing start [] = start := rfl

/-- A step that is not refused sets the total. -/
@[simp] theorem standing_cons_ok (start next : Int) (outcomes : List (Except Failure Int)) :
    standing start (.ok next :: outcomes) = standing next outcomes :=
  rfl

/-- A step that is refused leaves it. -/
@[simp] theorem standing_cons_error (start : Int) (failure : Failure)
    (outcomes : List (Except Failure Int)) :
    standing start (.error failure :: outcomes) = standing start outcomes :=
  rfl

/-- The steps after one that is not refused start with its total. -/
theorem applyAll_cons_of_ok {operator : Operator} {total value next : Int}
    (h : operator.apply total value = .ok next) (steps : List (Operator × Int)) :
    applyAll total ((operator, value) :: steps) = .ok next :: applyAll next steps := by
  rw [applyAll, h]

/-- The steps after one that is refused start with the total before it. -/
theorem applyAll_cons_of_error {operator : Operator} {total value : Int} {failure : Failure}
    (h : operator.apply total value = .error failure) (steps : List (Operator × Int)) :
    applyAll total ((operator, value) :: steps) = .error failure :: applyAll total steps := by
  rw [applyAll, h]

/-- Steps after other steps meet the total that the others leave. -/
theorem applyAll_append (start : Int) (before after : List (Operator × Int)) :
    applyAll start (before ++ after) =
      applyAll start before ++ applyAll (standing start (applyAll start before)) after := by
  induction before generalizing start with
  | nil => rfl
  | cons step before ih =>
    obtain ⟨operator, value⟩ := step
    rw [List.cons_append]
    cases happly : operator.apply start value with
    | ok next =>
      rw [applyAll_cons_of_ok happly, applyAll_cons_of_ok happly, ih, standing_cons_ok,
        List.cons_append]
    | error failure =>
      rw [applyAll_cons_of_error happly, applyAll_cons_of_error happly, ih, standing_cons_error,
        List.cons_append]

/-- A step that divides by zero hands on the total that it met. -/
theorem applyAll_append_div_zero (start : Int) (before after : List (Operator × Int)) :
    applyAll start (before ++ (.div, 0) :: after) =
      applyAll start before ++ .error (.rejected .divisionByZero) ::
        applyAll (standing start (applyAll start before)) after := by
  rw [applyAll_append, applyAll_cons_of_error (apply_div_zero _)]

/-- Every other step hands on what its operator gives. -/
theorem exists_applyAll_append_of_ne {operator : Operator} {value : Int}
    (hmem : operator ∈ [Operator.add, .sub, .mul, .div]) (hne : (operator, value) ≠ (.div, 0))
    (start : Int) (before after : List (Operator × Int)) :
    ∃ next, operator.apply (standing start (applyAll start before)) value = .ok next ∧
      applyAll start (before ++ (operator, value) :: after) =
        applyAll start before ++ .ok next :: applyAll next after := by
  cases happly : operator.apply (standing start (applyAll start before)) value with
  | ok next =>
    refine ⟨next, rfl, ?_⟩
    rw [applyAll_append, applyAll_cons_of_ok happly]
  | error failure =>
    obtain ⟨hdiv, hzero, -⟩ := (apply_eq_error_iff hmem).mp happly
    exact absurd (Prod.ext hdiv hzero) hne

/-- There is an outcome for every step, and it is a refusal exactly where a total is divided by
zero. -/
theorem forall₂_applyAll {steps : List (Operator × Int)}
    (hmem : ∀ step ∈ steps, step.1 ∈ [Operator.add, .sub, .mul, .div]) (start : Int) :
    List.Forall₂ (fun step outcome => ∀ failure, outcome = Except.error failure ↔
      step = (.div, 0) ∧ failure = .rejected .divisionByZero) steps (applyAll start steps) := by
  induction steps generalizing start with
  | nil => exact .nil
  | cons step steps ih =>
    obtain ⟨operator, value⟩ := step
    obtain ⟨hstep, hsteps⟩ := List.forall_mem_cons.mp hmem
    have hiff : ∀ failure, operator.apply start value = .error failure ↔
        (operator, value) = (.div, 0) ∧ failure = .rejected .divisionByZero := fun failure => by
      rw [apply_eq_error_iff hstep, Prod.mk.injEq, and_assoc]
    cases happly : operator.apply start value with
    | ok next =>
      rw [applyAll_cons_of_ok happly]
      exact .cons (by rwa [happly] at hiff) (ih hsteps next)
    | error failure =>
      rw [applyAll_cons_of_error happly]
      exact .cons (by rwa [happly] at hiff) (ih hsteps start)

end Operator

/-! ### Rolls -/

variable {σ : Type} {g : Generator σ}

/-- A payload counts as much as the fragment that shows it. -/
theorem Payload.value_appraise_eq_value_fragment (p : Payload) (s : σ) :
    (p.appraise g s).1.value = (p.fragment g s).value := by
  cases p with
  | literal n => rfl
  | dice spec => exact DiceSpec.value_appraise spec _

/-- The steps of a roll: the operator of every term with what the term is worth. Every term rolls
with the dice as the terms before it left them. -/
def stepsOf (g : Generator σ) (terms : List Term) (s : σ) : List (Operator × Int) :=
  (fragments g terms s).map fun item => (item.1, item.2.value)

/-- The first term makes the first step. -/
theorem stepsOf_cons (term : Term) (terms : List Term) (s : σ) :
    stepsOf g (term :: terms) s =
      (term.operator, (term.payload.appraise g s).1.value) ::
        stepsOf g terms (term.payload.appraise g s).2 := by
  rw [Payload.value_appraise_eq_value_fragment]
  rfl

/-- What the terms of a roll contribute, each with the dice as the terms before it left them. -/
def appraisals (g : Generator σ) : List Term → σ → List Appraisal
  | [], _ => []
  | term :: terms, s =>
    (term.payload.appraise g s).1 :: appraisals g terms (term.payload.appraise g s).2

/-- The account of a roll fails for a step that divides by zero, or for a term that cannot be
shown. -/
theorem mem_of_outcome_tally_eq_error {terms : List Term}
    (hmem : ∀ term ∈ terms, term.operator ∈ [Operator.add, .sub, .mul, .div]) {account : Tally}
    {s : σ} {failure : Failure} (h : (tally g terms account s).outcome = .error failure) :
    failure = .rejected .divisionByZero ∧ (.div, 0) ∈ stepsOf g terms s ∨
      failure = .unprintable ∧ ∃ a ∈ appraisals g terms s, a.shown = .error .unprintable := by
  induction terms generalizing account s with
  | nil => cases h
  | cons term terms ih =>
    obtain ⟨hterm, hterms⟩ := List.forall_mem_cons.mp hmem
    rw [outcome_tally_cons] at h
    rw [stepsOf_cons, appraisals]
    rcases bind_eq_error_iff.mp h with hadd | ⟨next, -, hrest⟩
    · rcases Tally.add_eq_error_iff.mp hadd with hshown | ⟨-, happly⟩
      · obtain rfl := Payload.eq_unprintable_of_shown_appraise hshown
        exact .inr ⟨rfl, _, List.mem_cons_self, hshown⟩
      · obtain ⟨hdiv, hzero, hfailure⟩ := (Operator.apply_eq_error_iff hterm).mp happly
        rw [hdiv, hzero]
        exact .inl ⟨hfailure, List.mem_cons_self⟩
    · rcases ih hterms hrest with ⟨hfailure, hstep⟩ | ⟨hfailure, a, ha, hshown⟩
      · exact .inl ⟨hfailure, List.mem_cons_of_mem _ hstep⟩
      · exact .inr ⟨hfailure, a, List.mem_cons_of_mem _ ha, hshown⟩

/-- Of a roll whose account does not fail no step divides by zero, and every term is shown. -/
theorem of_outcome_tally_eq_ok {terms : List Term} {account next : Tally} {s : σ}
    (h : (tally g terms account s).outcome = .ok next) :
    (.div, 0) ∉ stepsOf g terms s ∧ ∀ a ∈ appraisals g terms s, ∃ text, a.shown = .ok text := by
  induction terms generalizing account s with
  | nil => exact ⟨List.not_mem_nil, List.forall_mem_nil _⟩
  | cons term terms ih =>
    rw [outcome_tally_cons] at h
    obtain ⟨mid, hadd, hrest⟩ := bind_eq_ok_iff.mp h
    obtain ⟨shown, hshown, happly, -, -⟩ := Tally.exists_of_add_eq_ok hadd
    obtain ⟨hsteps, hall⟩ := ih hrest
    rw [stepsOf_cons, appraisals, List.mem_cons, not_or, Prod.mk.injEq, List.forall_mem_cons]
    refine ⟨⟨?_, hsteps⟩, ⟨shown, hshown⟩, hall⟩
    rintro ⟨hdiv, hzero⟩
    rw [← hdiv, ← hzero, Operator.apply_div_zero] at happly
    cases happly

/-- The account of a roll fails exactly if one of its steps divides by zero or one of its terms
cannot be shown. -/
theorem exists_outcome_tally_eq_error_iff {terms : List Term}
    (hmem : ∀ term ∈ terms, term.operator ∈ [Operator.add, .sub, .mul, .div]) {account : Tally}
    {s : σ} :
    (∃ failure, (tally g terms account s).outcome = .error failure) ↔
      (.div, 0) ∈ stepsOf g terms s ∨
        ∃ a ∈ appraisals g terms s, a.shown = .error .unprintable := by
  constructor
  · rintro ⟨failure, h⟩
    rcases mem_of_outcome_tally_eq_error hmem h with ⟨-, hstep⟩ | ⟨-, hshown⟩
    · exact .inl hstep
    · exact .inr hshown
  · intro h
    cases houtcome : (tally g terms account s).outcome with
    | error failure => exact ⟨failure, rfl⟩
    | ok next =>
      obtain ⟨hsteps, hall⟩ := of_outcome_tally_eq_ok houtcome
      rcases h with hstep | ⟨a, ha, hunshown⟩
      · exact absurd hstep hsteps
      · obtain ⟨text, htext⟩ := hall a ha
        rw [hunshown] at htext
        cases htext

/-- If all terms can be shown, the account of a roll fails exactly if one of its steps divides by
zero. -/
theorem outcome_tally_eq_error_iff_mem_stepsOf {terms : List Term}
    (hmem : ∀ term ∈ terms, term.operator ∈ [Operator.add, .sub, .mul, .div]) {account : Tally}
    {s : σ} (hall : ∀ a ∈ appraisals g terms s, ∃ text, a.shown = .ok text) {failure : Failure} :
    (tally g terms account s).outcome = .error failure ↔
      (.div, 0) ∈ stepsOf g terms s ∧ failure = .rejected .divisionByZero := by
  have honly : ∀ {failure}, (tally g terms account s).outcome = .error failure →
      failure = .rejected .divisionByZero ∧ (.div, 0) ∈ stepsOf g terms s := by
    intro failure h
    refine (mem_of_outcome_tally_eq_error hmem h).resolve_right ?_
    rintro ⟨-, a, ha, hunshown⟩
    obtain ⟨text, htext⟩ := hall a ha
    rw [hunshown] at htext
    cases htext
  refine ⟨fun h => (honly h).symm, ?_⟩
  rintro ⟨hstep, rfl⟩
  cases houtcome : (tally g terms account s).outcome with
  | error failure => rw [(honly houtcome).1]
  | ok next => exact absurd hstep (of_outcome_tally_eq_ok houtcome).1

/-- The account of a roll that does not fail comes to the total that stands after its steps. -/
theorem total_eq_standing_of_tally {terms : List Term} {account next : Tally} {s : σ}
    (h : (tally g terms account s).outcome = .ok next) :
    next.total =
      Operator.standing account.total (Operator.applyAll account.total (stepsOf g terms s)) := by
  induction terms generalizing account s with
  | nil =>
    cases h
    rfl
  | cons term terms ih =>
    rw [outcome_tally_cons] at h
    obtain ⟨mid, hadd, hrest⟩ := bind_eq_ok_iff.mp h
    rw [stepsOf_cons, Operator.applyAll_cons_of_ok (Tally.apply_of_add_eq_ok hadd),
      Operator.standing_cons_ok]
    exact ih hrest

/-! ### The law of division -/

namespace Operator

/-- **Toward zero, and refused at zero.** The sign of division gives, for every divisor but zero,
the one quotient without its fraction, and minus that if either side changes its sign. A division by
zero is reported for this sign and the operand zero alone. So of steps with the four operators
exactly those that divide by zero are refused, and each of them hands on the total as the steps
before it left it; every other step hands on what its operator gives. The terms of a roll are such
steps, and the account of a roll fails exactly if one of them is refused or one of the terms cannot
be shown, and for the reason that comes first. -/
theorem toward_zero_and_refused_at_zero :
    (∀ a b : Int, b ≠ 0 → ∃ q, (ofSign "/").apply a b = .ok q ∧
      (∀ q', IsWholeQuotient a b q' ↔ q' = q) ∧
      (ofSign "/").apply (-a) b = .ok (-q) ∧ (ofSign "/").apply a (-b) = .ok (-q)) ∧
    (∀ (sign : String) (a b : Int),
      (ofSign sign).apply a b = .error (.rejected .divisionByZero) ↔ sign = "/" ∧ b = 0) ∧
    (∀ (start : Int) (steps : List (Operator × Int)),
      (∀ step ∈ steps, step.1 ∈ [Operator.add, .sub, .mul, .div]) →
      List.Forall₂ (fun step outcome => ∀ failure, outcome = Except.error failure ↔
        step = (.div, 0) ∧ failure = .rejected .divisionByZero) steps (applyAll start steps) ∧
      ∀ before operator value after, steps = before ++ (operator, value) :: after →
        let total := standing start (applyAll start before)
        ((operator, value) = (.div, 0) → applyAll start steps =
          applyAll start before ++ .error (.rejected .divisionByZero) :: applyAll total after) ∧
        ((operator, value) ≠ (.div, 0) → ∃ next, operator.apply total value = .ok next ∧
          applyAll start steps = applyAll start before ++ .ok next :: applyAll next after)) ∧
    (∀ {σ : Type} (g : Generator σ) (terms : List Term) (account : Tally) (s : σ),
      (∀ term ∈ terms, term.operator ∈ [Operator.add, .sub, .mul, .div]) →
      ((∃ failure, (tally g terms account s).outcome = .error failure) ↔
        (.div, 0) ∈ stepsOf g terms s ∨
          ∃ a ∈ appraisals g terms s, a.shown = .error .unprintable) ∧
      (∀ failure, (tally g terms account s).outcome = .error failure →
        failure = .rejected .divisionByZero ∧ (.div, 0) ∈ stepsOf g terms s ∨
          failure = .unprintable ∧ ∃ a ∈ appraisals g terms s, a.shown = .error .unprintable) ∧
      ((∀ a ∈ appraisals g terms s, ∃ text, a.shown = .ok text) →
        ∀ failure, (tally g terms account s).outcome = .error failure ↔
          (.div, 0) ∈ stepsOf g terms s ∧ failure = .rejected .divisionByZero) ∧
      ∀ next, (tally g terms account s).outcome = .ok next →
        next.total = standing account.total (applyAll account.total (stepsOf g terms s))) := by
  have hslash : ofSign "/" = .div := (ofSign_eq_iff (by decide)).mpr rfl
  refine ⟨fun a b hb => ?_, fun sign a b => ?_, fun start steps hmem => ⟨?_, ?_⟩,
    fun g terms account s hmem => ⟨exists_outcome_tally_eq_error_iff hmem,
      fun failure h => mem_of_outcome_tally_eq_error hmem h, ?_, ?_⟩⟩
  · have hq := isWholeQuotient_wholeQuotient a hb
    rw [hslash]
    refine ⟨_, apply_div_eq_ok_iff.mpr hq, fun q' => ⟨hq.unique, ?_⟩,
      apply_div_eq_ok_iff.mpr hq.neg_dividend, apply_div_eq_ok_iff.mpr hq.neg_divisor⟩
    rintro rfl
    exact hq
  · rw [apply_eq_divisionByZero_iff, ofSign_eq_iff (by decide)]
    rfl
  · exact forall₂_applyAll hmem start
  · rintro before operator value after rfl
    refine ⟨fun hstep => ?_, fun hstep => ?_⟩
    · rw [hstep]
      exact applyAll_append_div_zero start before after
    · have hoperator := hmem (operator, value) (List.mem_append_right _ List.mem_cons_self)
      exact exists_applyAll_append_of_ne hoperator hstep start before after
  · exact fun hall failure => outcome_tally_eq_error_iff_mem_stepsOf hmem hall
  · exact fun next => total_eq_standing_of_tally

/-- Seven and two on all sides of zero, a step refused between two others, and a roll that divides
by zero. -/
theorem toward_zero_with_a_refused_step :
    (ofSign "/").apply (-7) 2 = .ok (-3) ∧ (∀ q, IsWholeQuotient (-7) 2 q ↔ q = -3) ∧
      (ofSign "/").apply 7 2 = .ok 3 ∧ (ofSign "/").apply (-7) (-2) = .ok 3 ∧
      (ofSign "/").apply (-7) 0 = .error (.rejected .divisionByZero) ∧
      applyAll 5 [(.sub, 12), (.div, 0), (.div, -2)] =
        [.ok (-7), .error (.rejected .divisionByZero), .ok 3] ∧
      (tally .highest [⟨.sub, .dice ⟨2, 6, none⟩⟩, ⟨.div, .literal 0⟩] ⟨5, none, none⟩ ()).outcome =
        .error (.rejected .divisionByZero) := by
  obtain ⟨hquotient, hrefused, hsteps, hroll⟩ := toward_zero_and_refused_at_zero
  obtain ⟨q, hq, hunique, hdividend, hdivisor⟩ := hquotient (-7) 2 (by decide)
  have hvalue : q = -3 := (Except.ok.inj hq).symm
  subst hvalue
  obtain ⟨-, hfold⟩ := hsteps 5 [(.sub, 12), (.div, 0), (.div, -2)] (by decide)
  have hkept := (hfold [(.sub, 12)] .div 0 [(.div, -2)] rfl).1 rfl
  have hall : ∀ a ∈ appraisals .highest [⟨.sub, .dice ⟨2, 6, none⟩⟩, ⟨.div, .literal 0⟩] (),
      ∃ text, a.shown = .ok text :=
    List.forall_mem_cons.mpr ⟨⟨"(6 + 6)", by decide +kernel⟩,
      List.forall_mem_singleton.mpr ⟨"0", by decide +kernel⟩⟩
  obtain ⟨-, -, hshown, -⟩ := hroll .highest [⟨.sub, .dice ⟨2, 6, none⟩⟩, ⟨.div, .literal 0⟩]
    ⟨5, none, none⟩ () (by decide)
  have hfailure := hshown hall (.rejected .divisionByZero)
  exact ⟨hq, hunique, hdividend, hdivisor, (hrefused "/" (-7) 0).mpr ⟨rfl, rfl⟩, hkept,
    hfailure.mpr ⟨by decide, rfl⟩⟩

end Operator

end ChatDice
