import ChatDice.Proofs.Accounts
import ChatDice.Proofs.KeptDice

/-!
# Outstanding rolls by counting

A roll is outstanding for a twenty or a one among the dice that count. On twenty-sided dice these
are the faces at the two ends, so it need not be looked at which dice count: the number of dice that
show such a face says how far it reaches from its end (`mem_near_iff`, `mem_far_iff`). The rule for
a group of dice that follows is `DiceSpec.outstanding`, and it is written with numbers of dice
alone.

The announcement of a command is that of the last group of dice which has one. A term puts its own
outstanding roll in the place of an earlier one, if it has any (`Tally.critical_of_add_eq_ok`), and
from this follows what the account of a list of terms announces (`critical_tally`).

Main statement (`announced_by_counts`): both rules, for single groups and for commands.
-/

namespace ChatDice

/-! ### A face at one end -/

section Ends

variable {near far : Multiset Int} {face : Int}

/-- A face that comes before all others from the near end is among the near dice exactly if there
are near dice, and a die with this face at all. -/
theorem mem_near_iff (h : face ∈ far → ∀ x ∈ near, x = face) :
    face ∈ near ↔ 1 ≤ near.card ∧ 1 ≤ (far + near).count face := by
  rw [Nat.one_le_iff_ne_zero, ← Nat.pos_iff_ne_zero, Multiset.card_pos_iff_exists_mem,
    Multiset.one_le_count_iff_mem, Multiset.mem_add]
  constructor
  · intro hnear
    exact ⟨⟨face, hnear⟩, .inr hnear⟩
  · rintro ⟨⟨x, hx⟩, hfar | hnear⟩
    · exact h hfar x hx ▸ hx
    · exact hnear

/-- Such a face is among the far dice exactly if these are more than the dice without it. -/
theorem mem_far_iff (h : face ∈ far → ∀ x ∈ near, x = face) :
    face ∈ far ↔ (far + near).card - (far + near).count face < far.card := by
  have hle : far.count face ≤ far.card := Multiset.count_le_card face far
  have hle' : near.count face ≤ near.card := Multiset.count_le_card face near
  rw [Multiset.card_add, Multiset.count_add]
  constructor
  · intro hfar
    have hnear : near.count face = near.card :=
      Multiset.count_eq_card.mpr fun x hx => (h hfar x hx).symm
    have hpos : 0 < far.count face := Multiset.count_pos.mpr hfar
    omega
  · intro hlt
    by_contra hfar
    have hzero : far.count face = 0 := Multiset.count_eq_zero.mpr hfar
    omega

end Ends

namespace Divides

variable {dice low high : Multiset Int} {face : Int} (h : Divides dice low high)
include h

/-- If the lower part has the greatest face, the upper part has no other. -/
theorem eq_of_greatest_mem_low (htop : ∀ x ∈ dice, x ≤ face) (hface : face ∈ low) :
    ∀ x ∈ high, x = face := by
  intro x hx
  have hdice : x ∈ dice := by
    rw [← h.add_eq]
    exact Multiset.mem_add.mpr (.inr hx)
  exact Int.le_antisymm (htop x hdice) (h.le face hface x hx)

/-- If the upper part has the least face, the lower part has no other. -/
theorem eq_of_least_mem_high (hbottom : ∀ x ∈ dice, face ≤ x) (hface : face ∈ high) :
    ∀ x ∈ low, x = face := by
  intro x hx
  have hdice : x ∈ dice := by
    rw [← h.add_eq]
    exact Multiset.mem_add.mpr (.inl hx)
  exact Int.le_antisymm (h.le x hx face hface) (hbottom x hdice)

/-- The upper part has the greatest face if there is such a die, and it has any die. -/
theorem greatest_mem_high_iff (htop : ∀ x ∈ dice, x ≤ face) :
    face ∈ high ↔ 1 ≤ high.card ∧ 1 ≤ dice.count face := by
  rw [← h.add_eq]
  exact mem_near_iff (h.eq_of_greatest_mem_low htop)

/-- The lower part has the greatest face if the other dice are too few to fill it. -/
theorem greatest_mem_low_iff (htop : ∀ x ∈ dice, x ≤ face) :
    face ∈ low ↔ dice.card - dice.count face < low.card := by
  rw [← h.add_eq]
  exact mem_far_iff (h.eq_of_greatest_mem_low htop)

/-- The lower part has the least face if there is such a die, and it has any die. -/
theorem least_mem_low_iff (hbottom : ∀ x ∈ dice, face ≤ x) :
    face ∈ low ↔ 1 ≤ low.card ∧ 1 ≤ dice.count face := by
  rw [← h.add_eq, add_comm low high]
  exact mem_near_iff (h.eq_of_least_mem_high hbottom)

/-- The upper part has the least face if the other dice are too few to fill it. -/
theorem least_mem_high_iff (hbottom : ∀ x ∈ dice, face ≤ x) :
    face ∈ high ↔ dice.card - dice.count face < high.card := by
  rw [← h.add_eq, add_comm low high]
  exact mem_far_iff (h.eq_of_least_mem_high hbottom)

end Divides

/-! ### The rule for a group of dice -/

/-- An outstanding roll with a success where there is cause for one, else with a failure where there
is cause for that. -/
def Critical.judge (success failure : Prop) [Decidable success] [Decidable failure] :
    Option Critical :=
  if success then some .success else if failure then some .failure else none

/-- Only whether there is a success or a failure matters. -/
theorem Critical.judge_congr {success failure success' failure' : Prop} [Decidable success]
    [Decidable failure] [Decidable success'] [Decidable failure'] (hsuccess : success ↔ success')
    (hfailure : failure ↔ failure') : judge success failure = judge success' failure' := by
  simp only [judge, hsuccess, hfailure]

/-- The outstanding roll of a group of dice, from how many dice are rolled, how many of them show a
twenty and how many a one. -/
def DiceSpec.outstanding (spec : DiceSpec) (size twenties ones : Nat) : Option Critical :=
  if spec.sides = 20 then
    match spec.modifier with
    | none => Critical.judge (1 ≤ twenties) (1 ≤ ones)
    | some m =>
      let kept := m.kind.keptCount m.count.toNat size
      if m.kind.keepsHigh then Critical.judge (1 ≤ kept ∧ 1 ≤ twenties) (size - ones < kept)
      else Critical.judge (size - twenties < kept) (1 ≤ kept ∧ 1 ≤ ones)
  else none

/-- Only dice with twenty sides have outstanding rolls. -/
theorem Critical.detect_of_ne {sides : Int} (h : sides ≠ 20) (selected : List Int) :
    detect sides selected = none :=
  if_pos h

/-- With twenty sides, a twenty is a success and a one is a failure. -/
theorem Critical.detect_twenty (selected : List Int) :
    detect 20 selected = judge (20 ∈ selected) (1 ∈ selected) :=
  rfl

/-- A twenty is among the highest dice if any die shows one; a one is if they reach down to it. -/
theorem detect_highest {kind : ModifierKind} (hkind : kind.keepsHigh = true) {faces : List Int}
    (hfaces : ∀ face ∈ faces, 1 ≤ face ∧ face ≤ 20) (count : Nat) :
    Critical.detect 20 (selectDice faces (some ⟨kind, count⟩)) =
      Critical.judge (1 ≤ kind.keptCount count faces.length ∧ 1 ≤ faces.count 20)
        (faces.length - faces.count 1 < kind.keptCount count faces.length) := by
  obtain ⟨rest, hdivides⟩ := exists_divides_of_keepsHigh hkind faces count
  have htwenty := hdivides.greatest_mem_high_iff fun face hface => (hfaces face hface).2
  have hone := hdivides.least_mem_high_iff fun face hface => (hfaces face hface).1
  rw [Multiset.mem_coe, Multiset.coe_card, Multiset.coe_count, length_selectDice] at htwenty
  rw [Multiset.mem_coe, Multiset.coe_card, Multiset.coe_card, Multiset.coe_count,
    length_selectDice] at hone
  rw [Critical.detect_twenty, Critical.judge_congr htwenty hone]

/-- A one is among the lowest dice if any die shows one; a twenty is if they reach up to it. -/
theorem detect_lowest {kind : ModifierKind} (hkind : kind.keepsHigh = false) {faces : List Int}
    (hfaces : ∀ face ∈ faces, 1 ≤ face ∧ face ≤ 20) (count : Nat) :
    Critical.detect 20 (selectDice faces (some ⟨kind, count⟩)) =
      Critical.judge (faces.length - faces.count 20 < kind.keptCount count faces.length)
        (1 ≤ kind.keptCount count faces.length ∧ 1 ≤ faces.count 1) := by
  obtain ⟨rest, hdivides⟩ := exists_divides_of_not_keepsHigh hkind faces count
  have htwenty := hdivides.greatest_mem_low_iff fun face hface => (hfaces face hface).2
  have hone := hdivides.least_mem_low_iff fun face hface => (hfaces face hface).1
  rw [Multiset.mem_coe, Multiset.coe_card, Multiset.coe_card, Multiset.coe_count,
    length_selectDice] at htwenty
  rw [Multiset.mem_coe, Multiset.coe_card, Multiset.coe_count, length_selectDice] at hone
  rw [Critical.detect_twenty, Critical.judge_congr htwenty hone]

/-- A group of dice has the outstanding roll that the rule gives it. -/
theorem DiceSpec.critical_appraise {spec : DiceSpec} (hcount : ∀ m ∈ spec.modifier, 0 ≤ m.count)
    {faces : List Int} (hfaces : spec.sides = 20 → ∀ face ∈ faces, 1 ≤ face ∧ face ≤ 20) :
    (spec.appraise faces).critical =
      spec.outstanding faces.length (faces.count 20) (faces.count 1) := by
  obtain ⟨dice, sides, modifier⟩ := spec
  show Critical.detect sides (selectDice faces modifier) = _
  unfold outstanding
  by_cases hsides : sides = 20
  · subst hsides
    have hrange : ∀ face ∈ faces, 1 ≤ face ∧ face ≤ 20 := hfaces rfl
    rw [if_pos rfl]
    cases modifier with
    | none =>
      have hcount : ∀ face : Int, face ∈ faces ↔ 1 ≤ faces.count face := fun _ =>
        List.one_le_count_iff.symm
      exact Critical.judge_congr (hcount 20) (hcount 1)
    | some m =>
      obtain ⟨kind, count⟩ := m
      obtain ⟨count, rfl⟩ := Int.eq_ofNat_of_zero_le (hcount _ rfl)
      cases hkind : kind.keepsHigh with
      | true =>
        rw [detect_highest hkind hrange]
        simp [hkind]
      | false =>
        rw [detect_lowest hkind hrange]
        simp [hkind]
  · rw [Critical.detect_of_ne hsides, if_neg hsides]

/-! ### The rule for a list of terms -/

variable {σ : Type} {g : Generator σ} {limit : Limit}

/-- The group of dice in a payload, if it is one, with the faces that its dice show. -/
def Payload.rolled (g : Generator σ) (s : σ) : Payload → List (DiceSpec × List Int)
  | .literal _ => []
  | .dice spec => [(spec, (g.roll spec.sides spec.count.toNat s).1)]

/-- The groups of dice in a list of terms, each with the faces that its dice show. Every term rolls
with the dice as the terms before it left them. -/
def groupsRolled (g : Generator σ) : List Term → σ → List (DiceSpec × List Int)
  | [], _ => []
  | term :: terms, s =>
    term.payload.rolled g s ++ groupsRolled g terms (term.payload.appraise g s).2

/-- The outstanding roll in a group of dice with the faces that its dice show. -/
def criticalOf (roll : DiceSpec × List Int) : Option Critical :=
  (roll.1.appraise roll.2).critical

/-- The outstanding roll of a payload is that of the dice it rolls. -/
theorem Payload.critical_appraise (p : Payload) (s : σ) :
    (p.appraise g s).1.critical = ((p.rolled g s).filterMap criticalOf).getLast? := by
  cases p with
  | literal n => rfl
  | dice spec =>
    simp only [rolled, List.filterMap_cons, List.filterMap_nil]
    cases hcritical : criticalOf (spec, (g.roll spec.sides spec.count.toNat s).1) with
    | none => exact hcritical
    | some critical => exact hcritical

/-- A term announces its own outstanding roll, and if it has none, the one before it. -/
theorem Tally.critical_of_add_eq_ok {account next : Tally} {operator : Operator} {term : Appraisal}
    (h : account.add operator term = .ok next) :
    next.critical = (term.critical <|> account.critical) := by
  obtain ⟨_, _, _, _, hcritical⟩ := exists_of_add_eq_ok h
  exact hcritical

/-- Terms announce the last outstanding roll of their groups of dice, and if they have none, the one
before them. -/
theorem critical_tally {terms : List Term} {account last : Tally} {s : σ}
    (h : (tally g terms account s).outcome = .ok last) :
    last.critical =
      (((groupsRolled g terms s).filterMap criticalOf).getLast? <|> account.critical) := by
  induction terms generalizing account s with
  | nil =>
    cases h
    rfl
  | cons term terms ih =>
    rw [outcome_tally_cons] at h
    obtain ⟨next, hadd, hrest⟩ := bind_eq_ok_iff.mp h
    rw [ih hrest, Tally.critical_of_add_eq_ok hadd, Payload.critical_appraise, groupsRolled,
      List.filterMap_append, List.getLast?_append]
    simp only [Option.orElse_eq_orElse, Option.orElse_eq_or, Option.or_assoc]

/-! ### Commands -/

/-- What is announced about a group of dice with the faces that its dice show; nothing if its roll
is not outstanding. -/
def announced (roll : DiceSpec × List Int) : String :=
  Critical.note (criticalOf roll)

/-- The announcements that say anything are those of the outstanding rolls. -/
theorem filter_announced_ne_empty (rolls : List (DiceSpec × List Int)) :
    (rolls.map announced).filter (· ≠ "") = (rolls.filterMap criticalOf).map Critical.message := by
  induction rolls with
  | nil => rfl
  | cons roll rolls ih =>
    have hmessage : ∀ critical : Critical, critical.message ≠ "" := by
      intro critical
      cases critical <;> decide
    cases hcritical : criticalOf roll with
    | none =>
      have hempty : announced roll = "" := by rw [announced, hcritical]; rfl
      rw [List.map_cons, List.filterMap_cons_none hcritical,
        List.filter_cons_of_neg (by simp [hempty]), ih]
    | some critical =>
      have htext : announced roll = critical.message := by rw [announced, hcritical]; rfl
      rw [List.map_cons, List.filterMap_cons_some hcritical,
        List.filter_cons_of_pos (by simp [htext, hmessage critical]), ih, htext, List.map_cons]

/-- The last announcement that is not empty announces the last outstanding roll. -/
theorem getLast?_filter_announced (rolls : List (DiceSpec × List Int)) :
    ((rolls.map announced).filter (· ≠ "")).getLast?.getD "" =
      Critical.note (rolls.filterMap criticalOf).getLast? := by
  rw [filter_announced_ne_empty, List.getLast?_map]
  cases (rolls.filterMap criticalOf).getLast? <;> rfl

/-- **Outstanding rolls by counting.** Whether a group of dice has an outstanding roll, and which,
is told by how many dice it has, how many of them show a twenty and how many a one, for each
modifier and for none. A command that gives a result announces what the last of its groups of dice
announces that announces anything, and nothing if none does. -/
theorem announced_by_counts :
    (∀ (spec : DiceSpec) (faces : List Int), (∀ m ∈ spec.modifier, 0 ≤ m.count) →
      (spec.sides = 20 → ∀ face ∈ faces, 1 ≤ face ∧ face ≤ 20) →
      (spec.appraise faces).critical =
        spec.outstanding faces.length (faces.count 20) (faces.count 1)) ∧
    ∀ {σ : Type} (g : Generator σ) (limit : Limit) (command : String) (terms : List Term) (s : σ)
      (result : RollResult), Command.parse limit command.toList = .ok terms →
      (evaluate g limit command s).outcome = .ok result →
      Critical.note result.critical =
        (((groupsRolled g terms s).map announced).filter (· ≠ "")).getLast?.getD "" := by
  refine ⟨fun spec faces hcount hfaces => DiceSpec.critical_appraise hcount hfaces, ?_⟩
  intro σ g limit command terms s result hparse h
  rw [outcome_evaluate_of_parse hparse] at h
  obtain ⟨account, htally, rfl⟩ := exists_account_of_evaluateTerms h
  have hcritical := critical_tally htally
  simp only [Tally.empty, Option.orElse_eq_orElse, Option.orElse_eq_or, Option.or_none] at hcritical
  rw [getLast?_filter_announced, ← hcritical]
  rfl

/-- Dropping the highest of a one and two twenties leaves a twenty; the one rolled after it is
announced, and the die after that has nothing to announce. -/
theorem announced_by_counts_scripted :
    (DiceSpec.appraise ⟨3, 20, some ⟨.dropHighest, 1⟩⟩ [1, 20, 20]).critical = some .success ∧
      Command.parse (.whole 1000) "/r 3d20sM1 + 2d20 - 1d6".toList =
        .ok [⟨.add, .dice ⟨3, 20, some ⟨.dropHighest, 1⟩⟩⟩, ⟨.add, .dice ⟨2, 20, none⟩⟩,
          ⟨.sub, .dice ⟨1, 6, none⟩⟩] ∧
      (evaluate (.scripted #[1, 20, 20, 7, 1, 1]) (.whole 1000)
          "/r 3d20sM1 + 2d20 - 1d6" 0).outcome =
        .ok ⟨28, "(1 + 20) + (7 + 1) - (1)", some .failure⟩ ∧
      (groupsRolled (.scripted #[1, 20, 20, 7, 1, 1])
        [⟨.add, .dice ⟨3, 20, some ⟨.dropHighest, 1⟩⟩⟩, ⟨.add, .dice ⟨2, 20, none⟩⟩,
          ⟨.sub, .dice ⟨1, 6, none⟩⟩] 0).map announced =
        ["🎯 CRÍTICO! Acerto Natural 20!", "💀 FALHA CRÍTICA! 1 Natural!", ""] ∧
      Critical.note (some .failure) =
        (["🎯 CRÍTICO! Acerto Natural 20!", "💀 FALHA CRÍTICA! 1 Natural!", ""].filter
          (· ≠ "")).getLast?.getD "" := by
  obtain ⟨hcounts, hcommands⟩ := announced_by_counts
  have hfirst : (DiceSpec.appraise ⟨3, 20, some ⟨.dropHighest, 1⟩⟩ [1, 20, 20]).critical =
      some .success := by
    rw [hcounts _ _ (by decide) (by decide)]
    rfl
  have hparse : Command.parse (.whole 1000) "/r 3d20sM1 + 2d20 - 1d6".toList =
      .ok [⟨.add, .dice ⟨3, 20, some ⟨.dropHighest, 1⟩⟩⟩, ⟨.add, .dice ⟨2, 20, none⟩⟩,
        ⟨.sub, .dice ⟨1, 6, none⟩⟩] := by rfl
  -- Sorting does not evaluate; dice in order are left as they are.
  have hselect : selectDice [1, 20, 20] (some ⟨.dropHighest, 1⟩) = [1, 20] := by
    rw [selectDice, List.mergeSort_of_pairwise (by decide)]
    rfl
  have hshown : (DiceSpec.appraise ⟨3, 20, some ⟨.dropHighest, 1⟩⟩ [1, 20, 20]).shown =
      .ok "(1 + 20)" := by
    rw [DiceSpec.shown_appraise, hselect]
    exact compose_of_forall (by decide +kernel) _
  have hvalue : (DiceSpec.appraise ⟨3, 20, some ⟨.dropHighest, 1⟩⟩ [1, 20, 20]).value = 21 := by
    rw [DiceSpec.value_appraise, hselect]
    rfl
  have happraise : (Payload.dice ⟨3, 20, some ⟨.dropHighest, 1⟩⟩).appraise
      (.scripted #[1, 20, 20, 7, 1, 1]) 0 = (⟨21, .ok "(1 + 20)", some .success,
        (DiceSpec.appraise ⟨3, 20, some ⟨.dropHighest, 1⟩⟩ [1, 20, 20]).log⟩, 3) := by
    rw [← hvalue, ← hshown, ← hfirst]
    rfl
  have htally : (tally (.scripted #[1, 20, 20, 7, 1, 1])
      [⟨.add, .dice ⟨3, 20, some ⟨.dropHighest, 1⟩⟩⟩, ⟨.add, .dice ⟨2, 20, none⟩⟩,
        ⟨.sub, .dice ⟨1, 6, none⟩⟩] .empty 0).outcome =
        .ok ⟨28, some "(1 + 20) + (7 + 1) - (1)", some .failure⟩ := by
    simp only [tally, happraise]
    decide +kernel
  have heval : (evaluate (.scripted #[1, 20, 20, 7, 1, 1]) (.whole 1000)
      "/r 3d20sM1 + 2d20 - 1d6" 0).outcome =
        .ok ⟨28, "(1 + 20) + (7 + 1) - (1)", some .failure⟩ := by
    rw [outcome_evaluate_of_parse hparse]
    exact outcome_evaluateTerms_of_ok htally (by decide)
  have hrolls : (groupsRolled (.scripted #[1, 20, 20, 7, 1, 1])
      [⟨.add, .dice ⟨3, 20, some ⟨.dropHighest, 1⟩⟩⟩, ⟨.add, .dice ⟨2, 20, none⟩⟩,
        ⟨.sub, .dice ⟨1, 6, none⟩⟩] 0).map announced =
      ["🎯 CRÍTICO! Acerto Natural 20!", "💀 FALHA CRÍTICA! 1 Natural!", ""] := by
    show [Critical.note (DiceSpec.appraise ⟨3, 20, some ⟨.dropHighest, 1⟩⟩ [1, 20, 20]).critical,
      Critical.note (DiceSpec.appraise ⟨2, 20, none⟩ [7, 1]).critical,
      Critical.note (DiceSpec.appraise ⟨1, 6, none⟩ [1]).critical] = _
    rw [hfirst]
    rfl
  have hannounced := hcommands _ _ _ _ _ _ hparse heval
  rw [hrolls] at hannounced
  exact ⟨hfirst, hparse, heval, hrolls, hannounced⟩

end ChatDice
