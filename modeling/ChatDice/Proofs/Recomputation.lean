import ChatDice.Proofs.Accounts
import ChatDice.Proofs.BreakdownReading
import ChatDice.Proofs.LeftToRight
import ChatDice.Proofs.Rolls

/-!
# Recomputing a total

The total of a roll and its breakdown are made side by side, the total from the values of the terms
and the breakdown from their texts. Still the breakdown is enough to find the total again: from left
to right, with every group of dice for the sum of the numbers in it (`Breakdown.recompute`).

What an account has shown so far is `Tally.Reads`. The first term establishes it
(`Tally.reads_of_add_empty`), every further term preserves it (`Tally.Reads.add`), and so does a
list of terms (`Tally.Reads.tally`).

Main statement (`breakdown_recomputes_total`): a breakdown is read in one way only, as the literals
and the dice that count of the terms of the command, and what is read makes up the total.
-/

namespace ChatDice

variable {σ : Type} {g : Generator σ} {limit : Limit}

/-! ### What the terms show -/

/-- What a payload shows: a literal as it is, or the dice that count. -/
def Payload.fragment (g : Generator σ) (s : σ) : Payload → Fragment
  | .literal value => .number value
  | .dice spec => .dice (selectDice (g.roll spec.sides spec.count.toNat s).1 spec.modifier)

/-- What a list of terms shows, term by term, each with its operator. Every term rolls with the dice
as the terms before it left them. -/
def fragments (g : Generator σ) : List Term → σ → List (Operator × Fragment)
  | [], _ => []
  | term :: terms, s =>
    (term.operator, term.payload.fragment g s) :: fragments g terms (term.payload.appraise g s).2

/-- Combines fragments from left to right, starting at zero. -/
def Breakdown.recompute (items : List (Operator × Fragment)) : Except Failure Int :=
  items.foldlM (fun total item => item.1.apply total item.2.value) 0

/-- One more fragment is combined with what the others come to. -/
theorem Breakdown.recompute_concat (items : List (Operator × Fragment)) (operator : Operator)
    (fragment : Fragment) :
    recompute (items ++ [(operator, fragment)]) =
      recompute items >>= fun total => operator.apply total fragment.value := by
  simp [recompute, List.foldlM_append]

/-! ### One term -/

/-- A term that shows a fragment, and counts as what the fragment is worth. -/
structure Appraisal.Reads (appraisal : Appraisal) (fragment : Fragment) : Prop where
  /-- Its value is that of the fragment. -/
  value : appraisal.value = fragment.value
  /-- Its text, if there is one, shows the fragment. -/
  shown : ∀ text, appraisal.shown = .ok text → Breakdown.ShowsFragment text.toList fragment

/-- What a payload in range shows has no number below zero. -/
theorem Payload.WellFormed.unsigned_fragment (hg : g.InRange) {p : Payload}
    (hp : p.WellFormed limit) (s : σ) : (p.fragment g s).Unsigned := by
  cases p with
  | literal n => exact hp.1
  | dice spec =>
    have hsides : 1 ≤ spec.sides := DiceSpec.WellFormed.one_le_sides hp
    have hfaces := hg.forall_mem_roll hsides spec.count.toNat s
    intro face hmem
    have hface := hfaces face ((subperm_selectDice _ spec.modifier).subset hmem)
    omega

/-- A payload in range shows its literal, or its dice that count, and is worth what it shows. -/
theorem Payload.WellFormed.reads_appraise (hg : g.InRange) {p : Payload} (hp : p.WellFormed limit)
    (s : σ) : (p.appraise g s).1.Reads (p.fragment g s) := by
  have hshown := Breakdown.showsFragment_text (hp.unsigned_fragment hg s)
  cases p with
  | literal n =>
    refine ⟨rfl, fun text htext => ?_⟩
    rw [(compose_eq_ok_iff.mp htext).2]
    exact hshown
  | dice spec =>
    refine ⟨DiceSpec.value_appraise spec _, fun text htext => ?_⟩
    have hcompose := (spec.shown_appraise _).symm.trans htext
    rw [(compose_eq_ok_iff.mp hcompose).2]
    exact hshown

/-! ### The account of all terms -/

namespace Tally

/-- An account whose breakdown shows fragments, and whose total is what they come to. -/
structure Reads (account : Tally) (items : List (Operator × Fragment)) : Prop where
  /-- The fragments come to the total. -/
  total : Breakdown.recompute items = .ok account.total
  /-- The breakdown shows the fragments. -/
  breakdown : ∃ text, account.breakdown = some text ∧ Breakdown.Shows text.toList items

variable {account next : Tally} {items : List (Operator × Fragment)} {appraisal : Appraisal}
  {fragment : Fragment}

/-- The first term is added to zero, and its text is the whole breakdown. -/
theorem reads_of_add_empty (hread : appraisal.Reads fragment)
    (h : empty.add .add appraisal = .ok next) : next.Reads [(.add, fragment)] := by
  obtain ⟨shown, hshown, htotal, hbreakdown, -⟩ := exists_of_add_eq_ok h
  refine ⟨?_, _, hbreakdown, ?_⟩
  · rw [hread.value] at htotal
    rw [← htotal]
    rfl
  · have hshows := Breakdown.Shows.intro (hread.shown shown hshown) .none
    rw [List.append_nil] at hshows
    exact hshows

/-- Every further term writes its sign and its text after the breakdown. -/
theorem Reads.add (haccount : account.Reads items) {operator : Operator}
    (hmem : operator ∈ [Operator.add, .sub, .mul, .div]) (hread : appraisal.Reads fragment)
    (h : account.add operator appraisal = .ok next) :
    next.Reads (items ++ [(operator, fragment)]) := by
  obtain ⟨htotal, text, hbreakdown, hshows⟩ := haccount
  obtain ⟨sign, hsign, hof⟩ := Operator.exists_sign_eq_singleton hmem
  obtain ⟨shown, hshown, happly, hnext, -⟩ := exists_of_add_eq_ok h
  refine ⟨?_, _, hnext, ?_⟩
  · rw [Breakdown.recompute_concat, htotal, ← happly, hread.value]
    rfl
  · have htext : (extend operator shown account.breakdown).toList =
        text.toList ++ ' ' :: sign :: ' ' :: shown.toList := by
      simp [hbreakdown, extend, hsign]
    rw [htext]
    exact hshows.concat hof (hread.shown shown hshown)

/-- Terms in range show their fragments, after what the account has shown already. -/
theorem Reads.tally (hg : g.InRange) {terms : List Term}
    (hmem : ∀ term ∈ terms, term.operator ∈ [Operator.add, .sub, .mul, .div])
    (hp : ∀ term ∈ terms, term.payload.WellFormed limit) (haccount : account.Reads items) {s : σ}
    (h : (tally g terms account s).outcome = .ok next) :
    next.Reads (items ++ fragments g terms s) := by
  induction terms generalizing account items s with
  | nil =>
    cases h
    rw [fragments, List.append_nil]
    exact haccount
  | cons term terms ih =>
    obtain ⟨hmem₁, hmem⟩ := List.forall_mem_cons.mp hmem
    obtain ⟨hp₁, hp⟩ := List.forall_mem_cons.mp hp
    rw [outcome_tally_cons] at h
    obtain ⟨account', hadd, hrest⟩ := bind_eq_ok_iff.mp h
    have haccount' := haccount.add hmem₁ (hp₁.reads_appraise hg s) hadd
    rw [fragments, List.append_cons]
    exact ih hmem hp haccount' hrest

/-- The account of well-formed terms shows their fragments. -/
theorem reads_of_tally_empty (hg : g.InRange) {terms : List Term} (hwf : WellFormed limit terms)
    {s : σ} (h : (ChatDice.tally g terms .empty s).outcome = .ok account) :
    account.Reads (fragments g terms s) := by
  cases terms with
  | nil => exact absurd rfl hwf.ne_nil
  | cons first rest =>
    obtain ⟨-, hmem⟩ := List.forall_mem_cons.mp hwf.operator_mem
    obtain ⟨hp₁, hp⟩ := List.forall_mem_cons.mp hwf.payload
    have hfirst : first.operator = .add := hwf.head_add first rfl
    rw [outcome_tally_cons, hfirst] at h
    obtain ⟨account', hadd, hrest⟩ := bind_eq_ok_iff.mp h
    rw [fragments, hfirst]
    exact (reads_of_add_empty (hp₁.reads_appraise hg s) hadd).tally hg hmem hp hrest

end Tally

/-! ### Commands -/

/-- **The breakdown recomputes to the total.** With dice in range, the breakdown of a command that
gives a result can be read in one way only: it shows one fragment for every term, in their order and
with their operators, a literal as it is and a group of dice as those that count, in the order in
which the modifier leaves them. Combined from left to right, what is read comes to the total. -/
theorem breakdown_recomputes_total (hg : g.InRange) {command : String} {terms : List Term}
    (hparse : Command.parse limit command.toList = .ok terms) {s : σ} {result : RollResult}
    (h : (evaluate g limit command s).outcome = .ok result) :
    (∀ items, Breakdown.Shows result.breakdown.toList items ↔ items = fragments g terms s) ∧
      Breakdown.read? result.breakdown.toList = some (fragments g terms s) ∧
      Breakdown.recompute (fragments g terms s) = .ok result.total := by
  rw [outcome_evaluate_of_parse hparse] at h
  obtain ⟨account, htally, rfl⟩ := exists_account_of_evaluateTerms h
  obtain ⟨htotal, text, hbreakdown, hshows⟩ :=
    Tally.reads_of_tally_empty hg (Command.wellFormed_of_parse hparse) htally
  have hresult : account.result.breakdown = text := by
    simp only [Tally.result, hbreakdown, Option.getD_some]
  have hread := Breakdown.read?_eq_some_iff.mpr hshows
  rw [hresult]
  refine ⟨fun items => ⟨fun hitems => ?_, ?_⟩, hread, htotal⟩
  · rw [← Breakdown.read?_eq_some_iff, hread] at hitems
    exact (Option.some.inj hitems).symm
  · rintro rfl
    exact hshows

/-- No dice kept, two twenties and a division. -/
theorem breakdown_recomputes_total_highest :
    Generator.highest.InRange ∧
      Command.parse (.whole 1000) "/r 3d6m0 - 2d20 / 007".toList =
        .ok [⟨.add, .dice ⟨3, 6, some ⟨.keepHighest, 0⟩⟩⟩, ⟨.sub, .dice ⟨2, 20, none⟩⟩,
          ⟨.div, .literal 7⟩] ∧
      (evaluate .highest (.whole 1000) "/r 3d6m0 - 2d20 / 007" ()).outcome =
        .ok ⟨-5, "() - (20 + 20) / 7", some .success⟩ ∧
      Breakdown.read? "() - (20 + 20) / 7".toList =
        some [(.add, .dice []), (.sub, .dice [20, 20]), (.div, .number 7)] ∧
      Breakdown.recompute [(.add, .dice []), (.sub, .dice [20, 20]), (.div, .number 7)] =
        .ok (-5) := by
  have hparse : Command.parse (.whole 1000) "/r 3d6m0 - 2d20 / 007".toList =
      .ok [⟨.add, .dice ⟨3, 6, some ⟨.keepHighest, 0⟩⟩⟩, ⟨.sub, .dice ⟨2, 20, none⟩⟩,
        ⟨.div, .literal 7⟩] := by rfl
  -- Sorting does not evaluate; dice in order are left as they are.
  have hselect : selectDice [6, 6, 6] (some ⟨.keepHighest, 0⟩) = [] := by
    rw [selectDice, List.mergeSort_of_pairwise (by decide)]
    rfl
  have hfragments : fragments .highest [⟨.add, .dice ⟨3, 6, some ⟨.keepHighest, 0⟩⟩⟩,
      ⟨.sub, .dice ⟨2, 20, none⟩⟩, ⟨.div, .literal 7⟩] () =
        [(.add, .dice []), (.sub, .dice [20, 20]), (.div, .number 7)] := by
    show (Operator.add, Fragment.dice (selectDice [6, 6, 6] (some ⟨.keepHighest, 0⟩))) :: _ = _
    rw [hselect]
    rfl
  have hshown : (DiceSpec.appraise ⟨3, 6, some ⟨.keepHighest, 0⟩⟩ [6, 6, 6]).shown = .ok "()" := by
    rw [DiceSpec.shown_appraise, hselect]
    exact compose_of_forall (by decide +kernel) _
  have hvalue : (DiceSpec.appraise ⟨3, 6, some ⟨.keepHighest, 0⟩⟩ [6, 6, 6]).value = 0 := by
    rw [DiceSpec.value_appraise, hselect]
    rfl
  have happraise : (Payload.dice ⟨3, 6, some ⟨.keepHighest, 0⟩⟩).appraise .highest () =
      (⟨0, .ok "()", none,
        (DiceSpec.appraise ⟨3, 6, some ⟨.keepHighest, 0⟩⟩ [6, 6, 6]).log⟩, ()) :=
    congrArg₂ (fun value shown => ((⟨value, shown, _, _⟩ : Appraisal), ())) hvalue hshown
  have htally : (tally .highest [⟨.add, .dice ⟨3, 6, some ⟨.keepHighest, 0⟩⟩⟩,
      ⟨.sub, .dice ⟨2, 20, none⟩⟩, ⟨.div, .literal 7⟩] .empty ()).outcome =
        .ok ⟨-5, some "() - (20 + 20) / 7", some .success⟩ := by
    simp only [tally, happraise]
    decide +kernel
  have heval : (evaluate .highest (.whole 1000) "/r 3d6m0 - 2d20 / 007" ()).outcome =
      .ok ⟨-5, "() - (20 + 20) / 7", some .success⟩ := by
    rw [outcome_evaluate_of_parse hparse]
    exact outcome_evaluateTerms_of_ok htally (by decide)
  obtain ⟨-, hread, htotal⟩ := breakdown_recomputes_total Generator.inRange_highest hparse heval
  rw [hfragments] at hread htotal
  exact ⟨Generator.inRange_highest, hparse, heval, hread, htotal⟩

end ChatDice
