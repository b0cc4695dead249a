import ChatDice.Proofs.Accounts
import ChatDice.Proofs.Rolls
import ChatDice.Proofs.RoundTrip

/-!
# When a roll is turned down

Dice only ever decide how much a command is worth, never whether it is turned down. The one thing
that a roll can stumble over is a division by zero, and of what may stand after a division sign only
the literal zero is worth nothing: a group of dice in range has at least one die, all its dice
count, because only the first term has a modifier, and each shows at least a one
(`Payload.value_appraise_eq_zero_iff`).

So what one term may be refused for can be read off the term (`Tally.add_eq_error_iff_of_inRange`),
and a list of terms is refused exactly if it divides by the literal zero somewhere
(`outcome_tally_eq_error_iff`).

Main statement (`rejected_whatever_the_dice`): the same for the texts of commands. Two evaluations
of one command, with whatever dice, are turned down for the same reason or not at all.
-/

namespace ChatDice

variable {σ : Type} {g : Generator σ} {limit : Limit}

/-! ### Dice that all count -/

/-- Dice without a modifier are worth at least their number. -/
theorem DiceSpec.length_le_value_appraise {spec : DiceSpec} {faces : List Int}
    (hplain : spec.modifier = none) (hfaces : ∀ face ∈ faces, 1 ≤ face) :
    (faces.length : Int) ≤ (spec.appraise faces).value := by
  have hselect : selectDice faces spec.modifier = faces := by rw [hplain]; rfl
  have hsum := List.card_nsmul_le_sum faces 1 hfaces
  rw [value_appraise, hselect]
  simpa using hsum

/-- A group of dice in range without a modifier is worth something, however its dice fall. -/
theorem DiceSpec.WellFormed.value_appraise_pos (hg : g.InRange) {spec : DiceSpec}
    (hspec : spec.WellFormed limit) (hplain : spec.modifier = none) (s : σ) :
    0 < ((Payload.dice spec).appraise g s).1.value := by
  have hcount := hspec.one_le_count
  have hfaces := hg.forall_mem_roll hspec.one_le_sides spec.count.toNat s
  have hle := length_le_value_appraise hplain fun face hmem => (hfaces face hmem).1
  rw [Generator.length_roll] at hle
  show 0 < (spec.appraise (g.roll spec.sides spec.count.toNat s).1).value
  omega

/-- Of what may be divided by only the literal zero is worth nothing. -/
theorem Payload.value_appraise_eq_zero_iff (hg : g.InRange) {p : Payload} (hp : p.WellFormed limit)
    (hplain : p.IsPlain) (s : σ) : (p.appraise g s).1.value = 0 ↔ p = .literal 0 := by
  cases p with
  | literal n => simp [appraise]
  | dice spec =>
    have hpos := DiceSpec.WellFormed.value_appraise_pos hg hp hplain s
    constructor
    · intro hzero
      omega
    · intro h
      cases h

/-! ### Terms that can be refused -/

/-- Only a term after the first has a division sign, so what it divides by has no modifier. -/
theorem WellFormed.isPlain_of_div {terms : List Term} (h : WellFormed limit terms) :
    ∀ term ∈ terms, term.operator = .div → term.payload.IsPlain := by
  cases terms with
  | nil => exact absurd rfl h.ne_nil
  | cons first rest =>
    have hfirst : first.operator = .add := h.head_add first rfl
    refine List.forall_mem_cons.mpr ⟨fun hdiv => ?_, fun term hmem _ => h.tail_plain term hmem⟩
    rw [hfirst] at hdiv
    cases hdiv

/-- With dice in range, a term that is shown is refused exactly if it divides by the literal zero.
-/
theorem Tally.add_eq_error_iff_of_inRange (hg : g.InRange) {term : Term}
    (hmem : term.operator ∈ [Operator.add, .sub, .mul, .div]) (hp : term.payload.WellFormed limit)
    (hplain : term.operator = .div → term.payload.IsPlain) {account : Tally} {s : σ} {text : String}
    (hshown : (term.payload.appraise g s).1.shown = .ok text) {failure : Failure} :
    account.add term.operator (term.payload.appraise g s).1 = .error failure ↔
      term = ⟨.div, .literal 0⟩ ∧ failure = .rejected .divisionByZero := by
  obtain ⟨operator, p⟩ := term
  rw [add_eq_error_iff_of_shown hshown, Operator.apply_eq_error_iff hmem]
  constructor
  · rintro ⟨hdiv, hzero, hfailure⟩
    have hliteral := (Payload.value_appraise_eq_zero_iff hg hp (hplain hdiv) s).mp hzero
    have hdiv' : operator = .div := hdiv
    have hliteral' : p = .literal 0 := hliteral
    exact ⟨by rw [hdiv', hliteral'], hfailure⟩
  · rintro ⟨hterm, hfailure⟩
    cases hterm
    exact ⟨rfl, rfl, hfailure⟩

/-- A list of terms is refused exactly if one of them divides by the literal zero. -/
theorem outcome_tally_eq_error_iff (hg : g.InRange) {terms : List Term}
    (hshown : AlwaysShown g terms)
    (hmem : ∀ term ∈ terms, term.operator ∈ [Operator.add, .sub, .mul, .div])
    (hp : ∀ term ∈ terms, term.payload.WellFormed limit)
    (hplain : ∀ term ∈ terms, term.operator = .div → term.payload.IsPlain) {account : Tally} {s : σ}
    {failure : Failure} :
    (tally g terms account s).outcome = .error failure ↔
      ⟨.div, .literal 0⟩ ∈ terms ∧ failure = .rejected .divisionByZero := by
  induction terms generalizing account s with
  | nil => simp [tally]
  | cons term terms ih =>
    obtain ⟨hmem₁, hmem⟩ := List.forall_mem_cons.mp hmem
    obtain ⟨hp₁, hp⟩ := List.forall_mem_cons.mp hp
    obtain ⟨hplain₁, hplain⟩ := List.forall_mem_cons.mp hplain
    obtain ⟨hshown₁, hshown⟩ := List.forall_mem_cons.mp hshown
    obtain ⟨text, htext⟩ := hshown₁ s
    have hstep : ∀ {failure}, account.add term.operator (term.payload.appraise g s).1 =
        .error failure ↔ term = ⟨.div, .literal 0⟩ ∧ failure = .rejected .divisionByZero :=
      Tally.add_eq_error_iff_of_inRange hg hmem₁ hp₁ hplain₁ htext
    rw [outcome_tally_cons, bind_eq_error_iff, hstep, List.mem_cons]
    constructor
    · rintro (⟨hterm, hfailure⟩ | ⟨next, -, hrest⟩)
      · exact ⟨.inl hterm.symm, hfailure⟩
      · obtain ⟨hlater, hfailure⟩ := (ih hshown hmem hp hplain).mp hrest
        exact ⟨.inr hlater, hfailure⟩
    · rintro ⟨hterm | hlater, hfailure⟩
      · exact .inl ⟨hterm.symm, hfailure⟩
      · -- The first term may be refused too, and then for the same reason.
        cases hadd : account.add term.operator (term.payload.appraise g s).1 with
        | error failure' => exact .inl ⟨(hstep.mp hadd).1, hfailure⟩
        | ok next => exact .inr ⟨next, rfl, (ih hshown hmem hp hplain).mpr ⟨hlater, hfailure⟩⟩

/-! ### Commands -/

/-- A roll is turned down for its terms; printing its total is no reason. -/
theorem outcome_evaluateTerms_eq_rejected_iff {terms : List Term} {s : σ} {why : Rejection} :
    (evaluateTerms g terms s).outcome = .error (.rejected why) ↔
      (tally g terms .empty s).outcome = .error (.rejected why) := by
  cases htally : (tally g terms .empty s).outcome with
  | error failure =>
    rw [outcome_evaluateTerms_of_error htally]
    simp
  | ok account =>
    unfold evaluateTerms
    simp only [htally]
    cases hprint : account.result.printTotal with
    | error failure =>
      obtain ⟨-, rfl⟩ := compose_eq_error_iff.mp hprint
      simp
    | ok total => simp

/-- Terms that are read off a command are turned down exactly if one divides by the literal zero. -/
theorem outcome_evaluate_eq_rejected_iff_of_parse (hg : g.InRange) {command : String}
    {terms : List Term} (h : Command.parse limit command.toList = .ok terms) {s : σ}
    {why : Rejection} :
    (evaluate g limit command s).outcome = .error (.rejected why) ↔
      ⟨.div, .literal 0⟩ ∈ terms ∧ why = .divisionByZero := by
  have hwf := Command.wellFormed_of_parse h
  rw [outcome_evaluate_of_parse h, outcome_evaluateTerms_eq_rejected_iff,
    outcome_tally_eq_error_iff hg (Command.alwaysShown_of_parse hg h) hwf.operator_mem hwf.payload
      hwf.isPlain_of_div]
  simp

/-- What a command is turned down for, read off the command alone. -/
theorem outcome_evaluate_eq_rejected_iff (hg : g.InRange) {command : String} {s : σ}
    {why : Rejection} :
    (evaluate g limit command s).outcome = .error (.rejected why) ↔
      Command.parse limit command.toList = .error (.rejected why) ∨
        ∃ terms, Command.parse limit command.toList = .ok terms ∧ ⟨.div, .literal 0⟩ ∈ terms ∧
          why = .divisionByZero := by
  cases hparse : Command.parse limit command.toList with
  | error failure =>
    rw [outcome_evaluate_of_error hparse]
    simp
  | ok terms =>
    rw [outcome_evaluate_eq_rejected_iff_of_parse hg hparse]
    simp

/-- Dice that always show their lowest face. -/
def Generator.lowest : Generator Unit where
  draw s low _ := (low, s)

/-- The lowest face is one of the faces. -/
theorem Generator.inRange_lowest : lowest.InRange :=
  fun _ _ _ hle => ⟨Int.le_refl _, hle⟩

/-- **Turned down whatever the dice.** A command is turned down if it is not parsed, and then for
what the reader says, or if it is parsed and divides by the literal zero. Under a limit that can be
printed, the reader fails in no other way. No group of dice that is divided by is worth nothing, and
no fault of form is found after the reader has been content. So two evaluations of one command are
turned down alike, whatever dice in range they are made with. -/
theorem rejected_whatever_the_dice {σ τ : Type} {g : Generator σ} {g' : Generator τ}
    (hg : g.InRange) (hg' : g'.InRange) (limit : Limit) (command : String) (s : σ) (s' : τ) :
    (∀ why, (evaluate g limit command s).outcome = .error (.rejected why) ↔
      Command.parse limit command.toList = .error (.rejected why) ∨
        ∃ terms, Command.parse limit command.toList = .ok terms ∧ ⟨.div, .literal 0⟩ ∈ terms ∧
          why = .divisionByZero) ∧
    (limit.isPrintable = true → ∀ failure, Command.parse limit command.toList = .error failure →
      ∃ why, failure = .rejected why) ∧
    (∀ terms, Command.parse limit command.toList = .ok terms →
      (∀ fault, (evaluate g limit command s).outcome ≠ .error (.malformed fault)) ∧
      ∀ spec, ⟨.div, .dice spec⟩ ∈ terms → ∀ s, 0 < ((Payload.dice spec).appraise g s).1.value) ∧
    ∀ why, (evaluate g limit command s).outcome = .error (.rejected why) ↔
      (evaluate g' limit command s').outcome = .error (.rejected why) := by
  refine ⟨fun why => outcome_evaluate_eq_rejected_iff hg,
    fun hlimit failure h =>
      Command.exists_rejected_of_parseWith ((Command.parse_eq_rejected_iff hlimit).mp h),
    fun terms h => ⟨fun fault => ?_, ?_⟩,
    fun why => ?_⟩
  · intro hfault
    have hwhy := ((outcome_evaluate_eq_rejected_iff_of_parse hg h).mp hfault).2
    cases hwhy
  · intro spec hmem s
    have hwf := Command.wellFormed_of_parse h
    have hplain := hwf.isPlain_of_div _ hmem rfl
    exact DiceSpec.WellFormed.value_appraise_pos hg (hwf.payload _ hmem) hplain s
  · rw [outcome_evaluate_eq_rejected_iff hg, outcome_evaluate_eq_rejected_iff hg']

/-- A command that divides by a die first and by zero after it. -/
theorem rejected_with_highest_and_lowest :
    Generator.highest.InRange ∧ Generator.lowest.InRange ∧
      Command.parse (.whole 1000) "/r 3d6m1 / 1d4 / 00".toList =
        .ok [⟨.add, .dice ⟨3, 6, some ⟨.keepHighest, 1⟩⟩⟩, ⟨.div, .dice ⟨1, 4, none⟩⟩,
          ⟨.div, .literal 0⟩] ∧
      (evaluate .highest (.whole 1000) "/r 3d6m1 / 1d4 / 00" ()).outcome =
        .error (.rejected .divisionByZero) ∧
      (evaluate .lowest (.whole 1000) "/r 3d6m1 / 1d4 / 00" ()).outcome =
        .error (.rejected .divisionByZero) := by
  have hparse : Command.parse (.whole 1000) "/r 3d6m1 / 1d4 / 00".toList =
      .ok [⟨.add, .dice ⟨3, 6, some ⟨.keepHighest, 1⟩⟩⟩, ⟨.div, .dice ⟨1, 4, none⟩⟩,
        ⟨.div, .literal 0⟩] := by rfl
  obtain ⟨hiff, -, -, hsame⟩ := rejected_whatever_the_dice Generator.inRange_highest
    Generator.inRange_lowest (.whole 1000) "/r 3d6m1 / 1d4 / 00" () ()
  have hhighest := (hiff .divisionByZero).mpr (.inr ⟨_, hparse, by decide, rfl⟩)
  exact ⟨Generator.inRange_highest, Generator.inRange_lowest, hparse, hhighest,
    (hsame .divisionByZero).mp hhighest⟩

end ChatDice
