import ChatDice.Dice.Evaluation
import ChatDice.Proofs.Ranges

/-!
# The account of a roll, term by term

What one term does to the account is said once (`Tally.exists_of_add_eq_ok`,
`Tally.add_eq_error_iff`): a term that is shown can be taken if its operator agrees, and the
operator says what the total is then. A list of terms is taken one after the other
(`outcome_tally_cons`), so a term at its end meets the account, and the dice, that the terms before
it leave (`tally_append_of_ok`, `outcome_tally_concat`); a term that cannot be taken ends the
evaluation (`tally_append_of_error`).

A roll succeeds if all its terms can be taken and the total can be printed
(`outcome_evaluateTerms_of_ok`). Of the terms of a command only one cannot be taken that divides by
zero, or that has a number too long to be printed (`unprintable_or_divisionByZero_of_tally`); dice
that fall on their faces never have such a number (`Command.alwaysShown_of_parse`).
-/

namespace ChatDice

open Numeral (digitCount maxPrintedDigits)

/-! ### One term -/

/-- Of the four operators only division refuses a value, and only zero. -/
theorem Operator.apply_eq_error_iff {operator : Operator}
    (hmem : operator ∈ [Operator.add, .sub, .mul, .div]) {total value : Int} {failure : Failure} :
    operator.apply total value = .error failure ↔
      operator = .div ∧ value = 0 ∧ failure = .rejected .divisionByZero := by
  simp only [List.mem_cons, List.not_mem_nil, or_false] at hmem
  rcases hmem with rfl | rfl | rfl | rfl
  · simp
  · simp
  · simp
  · by_cases hv : value = 0
    · subst hv
      simp [eq_comm]
    · simp [apply_div hv, hv]

namespace Tally

variable {account next : Tally} {operator : Operator} {term : Appraisal} {failure : Failure}

/-- The account with a term taken, once it is shown and its operator has given the total. -/
theorem add_of_apply_eq_ok {shown : String} (hshown : term.shown = .ok shown) {total : Int}
    (h : operator.apply account.total term.value = .ok total) :
    account.add operator term =
      .ok ⟨total, some (extend operator shown account.breakdown),
        term.critical <|> account.critical⟩ := by
  simp only [add, hshown, h]

/-- A term that cannot be shown is not taken. -/
theorem add_of_shown_eq_error (h : term.shown = .error failure) :
    account.add operator term = .error failure := by
  simp only [add, h]

/-- A term that is shown is refused for what its operator says. -/
theorem add_eq_error_iff_of_shown {shown : String} (hshown : term.shown = .ok shown) :
    account.add operator term = .error failure ↔
      operator.apply account.total term.value = .error failure := by
  simp only [add, hshown]
  cases operator.apply account.total term.value <;> simp

/-- A term is not taken because it cannot be shown, or else for what its operator says. -/
theorem add_eq_error_iff :
    account.add operator term = .error failure ↔
      term.shown = .error failure ∨
        (∃ shown, term.shown = .ok shown) ∧
          operator.apply account.total term.value = .error failure := by
  cases hshown : term.shown with
  | error reason => simp [add_of_shown_eq_error hshown]
  | ok shown => simp [add_eq_error_iff_of_shown hshown]

/-- A term that is taken is shown, and its operator gives the total. -/
theorem exists_of_add_eq_ok (h : account.add operator term = .ok next) :
    ∃ shown, term.shown = .ok shown ∧
      operator.apply account.total term.value = .ok next.total ∧
      next.breakdown = some (extend operator shown account.breakdown) ∧
      next.critical = (term.critical <|> account.critical) := by
  cases hshown : term.shown with
  | error reason =>
    rw [add_of_shown_eq_error hshown] at h
    cases h
  | ok shown =>
    cases happly : operator.apply account.total term.value with
    | error reason =>
      rw [(add_eq_error_iff_of_shown hshown).mpr happly] at h
      cases h
    | ok total =>
      rw [add_of_apply_eq_ok hshown happly] at h
      cases h
      exact ⟨shown, rfl, rfl, rfl, rfl⟩

/-- Taking a term gives the total that its operator gives. -/
theorem apply_of_add_eq_ok (h : account.add operator term = .ok next) :
    operator.apply account.total term.value = .ok next.total := by
  obtain ⟨_, _, happly, _⟩ := exists_of_add_eq_ok h
  exact happly

end Tally

/-! ### One list of terms after another -/

variable {σ : Type} {g : Generator σ}

/-- If the first terms can be taken, the others meet the account and the dice that they leave. -/
theorem tally_append_of_ok {terms more : List Term} {account mid : Tally} {s : σ}
    (h : (tally g terms account s).outcome = .ok mid) :
    tally g (terms ++ more) account s =
      { tally g more mid (tally g terms account s).dice with
        log := (tally g terms account s).log ++
          (tally g more mid (tally g terms account s).dice).log } := by
  induction terms generalizing account s with
  | nil =>
    cases h
    rfl
  | cons term terms ih =>
    simp only [tally, List.cons_append] at h ⊢
    cases hadd : account.add term.operator (term.payload.appraise g s).1 with
    | error failure =>
      rw [hadd] at h
      cases h
    | ok next =>
      rw [hadd] at h
      simp only [ih h, List.append_assoc]

/-- A term that cannot be taken ends the evaluation, whatever stands after it. -/
theorem tally_append_of_error {terms : List Term} (more : List Term) {account : Tally} {s : σ}
    {failure : Failure} (h : (tally g terms account s).outcome = .error failure) :
    tally g (terms ++ more) account s = tally g terms account s := by
  induction terms generalizing account s with
  | nil => cases h
  | cons term terms ih =>
    simp only [tally, List.cons_append] at h ⊢
    cases hadd : account.add term.operator (term.payload.appraise g s).1 with
    | error failure => rfl
    | ok next =>
      rw [hadd] at h
      simp only [ih h]

/-- A first term is taken into the account, and the others meet what it leaves. -/
theorem outcome_tally_cons (term : Term) (terms : List Term) (account : Tally) (s : σ) :
    (tally g (term :: terms) account s).outcome =
      account.add term.operator (term.payload.appraise g s).1 >>= fun next =>
        (tally g terms next (term.payload.appraise g s).2).outcome := by
  simp only [tally]
  cases account.add term.operator (term.payload.appraise g s).1 <;> rfl

/-- A single term is taken into the account. -/
theorem outcome_tally_singleton (term : Term) (account : Tally) (s : σ) :
    (tally g [term] account s).outcome =
      account.add term.operator (term.payload.appraise g s).1 := by
  rw [outcome_tally_cons]
  exact bind_pure _

/-- A last term is taken into the account of the terms before it, with the dice as they left
them. -/
theorem outcome_tally_concat (terms : List Term) (term : Term) (account : Tally) (s : σ) :
    (tally g (terms ++ [term]) account s).outcome =
      (tally g terms account s).outcome >>= fun mid =>
        mid.add term.operator (term.payload.appraise g (tally g terms account s).dice).1 := by
  cases h : (tally g terms account s).outcome with
  | error failure =>
    rw [tally_append_of_error [term] h, h]
    rfl
  | ok mid =>
    rw [tally_append_of_ok h]
    exact outcome_tally_singleton term mid _

/-- Terms with one of the four operators can be taken unless a number in them is too long to be
printed, or there is a division by zero. -/
theorem unprintable_or_divisionByZero_of_tally {terms : List Term} {account : Tally} {s : σ}
    {failure : Failure}
    (hmem : ∀ term ∈ terms, term.operator ∈ [Operator.add, .sub, .mul, .div])
    (h : (tally g terms account s).outcome = .error failure) :
    failure = .unprintable ∨ failure = .rejected .divisionByZero := by
  induction terms generalizing account s with
  | nil => cases h
  | cons term terms ih =>
    obtain ⟨hterm, hterms⟩ := List.forall_mem_cons.mp hmem
    rw [outcome_tally_cons] at h
    rcases bind_eq_error_iff.mp h with hadd | ⟨next, -, hrest⟩
    · rcases Tally.add_eq_error_iff.mp hadd with hshown | ⟨-, happly⟩
      · exact .inl (Payload.eq_unprintable_of_shown_appraise hshown)
      · exact .inr ((Operator.apply_eq_error_iff hterm).mp happly).2.2
    · exact ih hterms hrest

/-- Terms that can be shown, however their dice fall. -/
def AlwaysShown (g : Generator σ) (terms : List Term) : Prop :=
  ∀ term ∈ terms, ∀ s, ∃ text, (term.payload.appraise g s).1.shown = .ok text

/-- Of terms that can be shown only those cannot be taken that divide by zero. -/
theorem AlwaysShown.eq_divisionByZero_of_tally {terms : List Term} (hshown : AlwaysShown g terms)
    {account : Tally} {s : σ} {failure : Failure}
    (hmem : ∀ term ∈ terms, term.operator ∈ [Operator.add, .sub, .mul, .div])
    (h : (tally g terms account s).outcome = .error failure) :
    failure = .rejected .divisionByZero := by
  induction terms generalizing account s with
  | nil => cases h
  | cons term terms ih =>
    obtain ⟨hterm, hterms⟩ := List.forall_mem_cons.mp hmem
    obtain ⟨hfirst, hrest⟩ := List.forall_mem_cons.mp hshown
    obtain ⟨text, htext⟩ := hfirst s
    rw [outcome_tally_cons] at h
    rcases bind_eq_error_iff.mp h with hadd | ⟨next, -, hlater⟩
    · have happly := (Tally.add_eq_error_iff_of_shown htext).mp hadd
      exact ((Operator.apply_eq_error_iff hterm).mp happly).2.2
    · exact ih hrest hterms hlater

/-! ### The end of a roll -/

/-- The dice are left as the terms leave them. -/
theorem dice_evaluateTerms (terms : List Term) (s : σ) :
    (evaluateTerms g terms s).dice = (tally g terms .empty s).dice := by
  unfold evaluateTerms
  dsimp only
  split
  · rfl
  · split <;> rfl

/-- A total that is short enough is printed. -/
theorem printTotal_of_digitCount_le {result : RollResult}
    (h : digitCount result.total ≤ maxPrintedDigits) :
    result.printTotal = .ok (toString result.total) :=
  compose_of_forall (List.forall_mem_singleton.mpr (Numeral.isPrintable_iff_digitCount_le.mpr h)) _

/-- A roll succeeds if its terms can be taken and its total is short enough to be printed. -/
theorem outcome_evaluateTerms_of_ok {terms : List Term} {s : σ} {account : Tally}
    (h : (tally g terms .empty s).outcome = .ok account)
    (hdigits : digitCount account.total ≤ maxPrintedDigits) :
    (evaluateTerms g terms s).outcome = .ok account.result := by
  have hprint : account.result.printTotal = .ok (toString account.total) :=
    printTotal_of_digitCount_le hdigits
  unfold evaluateTerms
  dsimp only
  rw [h]
  dsimp only
  rw [hprint]

/-- A roll fails if one of its terms cannot be taken. -/
theorem outcome_evaluateTerms_of_error {terms : List Term} {s : σ} {failure : Failure}
    (h : (tally g terms .empty s).outcome = .error failure) :
    (evaluateTerms g terms s).outcome = .error failure := by
  unfold evaluateTerms
  simp only [h]

/-- The result of a roll is the account of its terms. -/
theorem exists_account_of_evaluateTerms {terms : List Term} {s : σ} {result : RollResult}
    (h : (evaluateTerms g terms s).outcome = .ok result) :
    ∃ account, (tally g terms .empty s).outcome = .ok account ∧ result = account.result := by
  cases htally : (tally g terms .empty s).outcome with
  | error failure =>
    rw [outcome_evaluateTerms_of_error htally] at h
    cases h
  | ok account =>
    refine ⟨account, rfl, ?_⟩
    unfold evaluateTerms at h
    simp only [htally] at h
    split at h <;> cases h
    rfl

variable {limit : Limit} {command : String}

/-- The terms of a command can be shown if its dice fall on their faces. -/
theorem Command.alwaysShown_of_parse (hg : g.InRange) {terms : List Term}
    (h : Command.parse limit command.toList = .ok terms) : AlwaysShown g terms := by
  obtain ⟨hspells, hcheck⟩ := parseWith_eq_ok_iff.mp (parse_eq_ok_iff.mp h)
  have hsmall := natAbs_le_cap_of_readTerms (readTermsWith_eq_ok_iff.mpr hspells)
  rintro ⟨operator, p⟩ hmem s
  cases p with
  | literal n =>
    obtain ⟨expr, -, hterms⟩ := hspells
    obtain ⟨body, hbody⟩ := hterms.exists_spellsPayload _ hmem
    refine ⟨_, compose_of_forall (List.forall_mem_singleton.mpr ?_) _⟩
    apply Numeral.isPrintable_of_natAbs_le_cap
    obtain ⟨-, hlt, rfl⟩ := spellsPayload_literal_iff.mp hbody
    exact Nat.le_of_lt hlt
  | dice spec =>
    have hsides := (DiceSpec.check_eq_ok_iff.mp (hcheck _ hmem)).2.2.1
    exact Payload.exists_shown_appraise_dice hg hsides (hsmall _ hmem spec rfl) s

/-- A command that is parsed is rolled as its terms. -/
theorem outcome_evaluate_of_parse {terms : List Term}
    (h : Command.parse limit command.toList = .ok terms) (s : σ) :
    (evaluate g limit command s).outcome = (evaluateTerms g terms s).outcome := by
  simp only [evaluate, h]

/-- A command that is parsed leaves the dice as its terms leave them. -/
theorem dice_evaluate_of_parse {terms : List Term}
    (h : Command.parse limit command.toList = .ok terms) (s : σ) :
    (evaluate g limit command s).dice = (tally g terms .empty s).dice := by
  rw [← dice_evaluateTerms]
  simp only [evaluate, h]

/-- A command that is not parsed fails as the reader reports. -/
theorem outcome_evaluate_of_error {failure : Failure}
    (h : Command.parse limit command.toList = .error failure) (s : σ) :
    (evaluate g limit command s).outcome = .error failure := by
  simp only [evaluate, h]

/-- A command that is not parsed leaves the dice alone. -/
theorem dice_evaluate_of_error {failure : Failure}
    (h : Command.parse limit command.toList = .error failure) (s : σ) :
    (evaluate g limit command s).dice = s := by
  simp only [evaluate, h]

/-- Only a command that is parsed gives a result, and it is that of its terms. -/
theorem exists_parse_of_evaluate {s : σ} {result : RollResult}
    (h : (evaluate g limit command s).outcome = .ok result) :
    ∃ terms, Command.parse limit command.toList = .ok terms ∧
      (evaluateTerms g terms s).outcome = .ok result := by
  cases hparse : Command.parse limit command.toList with
  | error failure =>
    rw [outcome_evaluate_of_error hparse] at h
    cases h
  | ok terms =>
    rw [outcome_evaluate_of_parse hparse] at h
    exact ⟨terms, rfl, h⟩

end ChatDice
