import ChatDice.Dice.Evaluation
import Mathlib.Algebra.Order.BigOperators.Group.List
import Mathlib.Algebra.Order.Group.Int
import Mathlib.Algebra.Ring.Int.Defs

/-!
# What dice are worth

A generator that keeps to the bounds rolls faces between one and the number of sides
(`Generator.InRange.forall_mem_roll`). A modifier neither makes faces up nor counts one twice
(`subperm_selectDice`). So a group of dice is worth nothing at the least, and at the most what all
its dice are worth together on their highest face (`DiceSpec.value_appraise_nonneg`,
`DiceSpec.value_appraise_le`). Such faces can be printed, and with them what is shown of the group
(`Payload.exists_shown_appraise_dice`); a generator that answers at will may give a number that has
too many digits for it.
-/

namespace ChatDice

/-! ### The faces rolled -/

/-- Dice roll one of their faces. -/
theorem Generator.InRange.forall_mem_roll {σ : Type} {g : Generator σ} (hg : g.InRange)
    {sides : Int} (hsides : 1 ≤ sides) (count : Nat) (s : σ) :
    ∀ face ∈ (g.roll sides count s).1, 1 ≤ face ∧ face ≤ sides := by
  induction count generalizing s with
  | zero => exact List.forall_mem_nil _
  | succ count ih =>
    rw [roll_succ]
    exact List.forall_mem_cons.mpr ⟨hg s 1 sides hsides, ih _⟩

/-- Dice that always show their highest face. -/
def Generator.highest : Generator Unit where
  draw s _ high := (high, s)

/-- The highest face is one of the faces. -/
theorem Generator.inRange_highest : highest.InRange :=
  fun _ _ _ hle => ⟨hle, Int.le_refl _⟩

/-! ### The dice that count -/

/-- The beginning of a list is a part of it. -/
theorem Slice.sublist_upTo {α : Type} (bound : Int) (xs : List α) : (upTo bound xs).Sublist xs :=
  List.take_sublist _ _

/-- The rest of a list is a part of it. -/
theorem Slice.sublist_onward {α : Type} (bound : Int) (xs : List α) :
    (onward bound xs).Sublist xs :=
  List.drop_sublist _ _

/-- A modifier keeps a part of the ordered dice. -/
theorem ModifierKind.sublist_select (kind : ModifierKind) (count : Int) (ordered : List Int) :
    (kind.select count ordered).Sublist ordered := by
  cases kind with
  | keepHighest => exact Slice.sublist_onward _ _
  | keepLowest => exact Slice.sublist_upTo _ _
  | dropHighest => exact Slice.sublist_upTo _ _
  | dropLowest => exact Slice.sublist_onward _ _

/-- The dice that count are some of the dice rolled, in some order. -/
theorem subperm_selectDice (faces : List Int) (modifier : Option Modifier) :
    (selectDice faces modifier).Subperm faces := by
  cases modifier with
  | none => exact List.Subperm.refl faces
  | some m =>
    have hsub := m.kind.sublist_select (min m.count faces.length) faces.mergeSort
    exact hsub.subperm.trans (List.mergeSort_perm faces _).subperm

/-! ### Their worth -/

namespace DiceSpec

variable {spec : DiceSpec} {faces : List Int}

/-- A group of dice is worth the sum of the dice that count. -/
theorem value_appraise (spec : DiceSpec) (faces : List Int) :
    (spec.appraise faces).value = (selectDice faces spec.modifier).sum :=
  List.sum_eq_foldl.symm

/-- A group of dice whose faces begin at one is worth nothing at the least. -/
theorem value_appraise_nonneg (hfaces : ∀ face ∈ faces, 1 ≤ face) :
    0 ≤ (spec.appraise faces).value := by
  rw [value_appraise]
  refine List.sum_nonneg fun face hmem => ?_
  have hface := hfaces face ((subperm_selectDice faces spec.modifier).subset hmem)
  omega

/-- A group of dice is worth at most all its dice on their highest face. -/
theorem value_appraise_le (hsides : 0 ≤ spec.sides) (hfaces : ∀ face ∈ faces, face ≤ spec.sides) :
    (spec.appraise faces).value ≤ faces.length * spec.sides := by
  have hsub := subperm_selectDice faces spec.modifier
  calc (spec.appraise faces).value = (selectDice faces spec.modifier).sum := value_appraise spec faces
    _ ≤ (selectDice faces spec.modifier).length * spec.sides := by
      rw [← Int.nsmul_eq_mul]
      exact List.sum_le_card_nsmul _ _ fun face hmem => hfaces face (hsub.subset hmem)
    _ ≤ faces.length * spec.sides :=
      Int.mul_le_mul_of_nonneg_right (Int.ofNat_le.mpr hsub.length_le) hsides

end DiceSpec

/-! ### What is shown of them -/

/-- Where nothing is noted, one goes on at once. -/
theorem noteAll_nil_bind (next : Except Failure String) :
    ((noteAll []).1.bind fun _ => next) = next :=
  rfl

/-- Where several texts are noted, one goes on once the first has been composed and the others have
been noted. -/
theorem noteAll_cons_bind (text : Except Failure String) (texts : List (Except Failure String))
    (next : Except Failure String) :
    ((noteAll (text :: texts)).1.bind fun _ => next) =
      text.bind fun _ => (noteAll texts).1.bind fun _ => next := by
  cases text <;> rfl

namespace DiceSpec

/-- The numbers that are put in print for a group of dice: what is asked for, and all its faces. -/
def numbers (spec : DiceSpec) (faces : List Int) : List Int :=
  spec.count :: spec.sides :: (spec.modifier.toList.map Modifier.count ++ faces)

/-- A group of dice is shown as its dice that count, if its numbers can be printed. The dice that
count are printed again, so that they add nothing to what must be printed. -/
theorem shown_appraise (spec : DiceSpec) (faces : List Int) :
    (spec.appraise faces).shown =
      compose (spec.numbers faces) (showDice (selectDice faces spec.modifier)) := by
  have hsub := (subperm_selectDice faces spec.modifier).subset
  cases hm : spec.modifier with
  | none =>
    rw [hm] at hsub
    simp only [appraise, notes, numbers, hm, noteAll_cons_bind, noteAll_nil_bind,
      compose_bind_compose]
    refine compose_congr ?_ _
    simp only [List.cons_append, List.forall_mem_cons, List.forall_mem_append, Option.toList_none,
      List.map_nil, List.nil_append]
    exact ⟨fun h => ⟨h.1, h.2.1, h.2.2.1⟩,
      fun h => ⟨h.1, h.2.1, h.2.2, fun n hn => h.2.2 n (hsub hn)⟩⟩
  | some m =>
    rw [hm] at hsub
    simp only [appraise, notes, numbers, hm, noteAll_cons_bind, noteAll_nil_bind,
      compose_bind_compose]
    refine compose_congr ?_ _
    simp only [List.cons_append, List.forall_mem_cons, List.forall_mem_append, Option.toList_some,
      List.map_cons, List.map_nil, List.nil_append]
    exact ⟨fun h => ⟨h.1, h.2.1, h.2.2.2.1, h.2.2.1⟩,
      fun h => ⟨h.1, h.2.1, h.2.2.2, h.2.2.1, fun n hn => h.2.2.2 n (hsub hn),
        fun n hn => h.2.2.2 n (hsub hn)⟩⟩

end DiceSpec

namespace Payload

variable {σ : Type} {g : Generator σ} {p : Payload} {s : σ}

/-- There is one reason only for which a payload cannot be shown. -/
theorem eq_unprintable_of_shown_appraise {failure : Failure}
    (h : (p.appraise g s).1.shown = .error failure) : failure = .unprintable := by
  cases p with
  | literal n => exact (compose_eq_error_iff.mp h).2
  | dice spec =>
    have hcompose := spec.shown_appraise (g.roll spec.sides spec.count.toNat s).1
    exact (compose_eq_error_iff.mp (hcompose.symm.trans h)).2

/-- A group of dice can be shown if what it asks for is short enough and its dice fall on their
faces. -/
theorem exists_shown_appraise_dice (hg : g.InRange) {spec : DiceSpec} (hsides : 1 ≤ spec.sides)
    (hnumbers : ∀ n ∈ spec.numbers [], n.natAbs ≤ Numeral.cap) (s : σ) :
    ∃ text, ((Payload.dice spec).appraise g s).1.shown = .ok text := by
  refine ⟨_, (spec.shown_appraise _).trans (compose_of_forall (fun n hn => ?_) _)⟩
  apply Numeral.isPrintable_of_natAbs_le_cap
  have hsmall : spec.sides.natAbs ≤ Numeral.cap :=
    hnumbers _ (List.mem_cons_of_mem _ List.mem_cons_self)
  simp only [DiceSpec.numbers, List.append_nil, List.mem_cons, List.mem_append] at hn hnumbers
  rcases hn with hn | hn | hn | hface
  · exact hnumbers n (.inl hn)
  · exact hnumbers n (.inr (.inl hn))
  · exact hnumbers n (.inr (.inr hn))
  · have hrange := hg.forall_mem_roll hsides spec.count.toNat s n hface
    omega

end Payload

end ChatDice
