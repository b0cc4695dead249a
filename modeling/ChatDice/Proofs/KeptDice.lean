import ChatDice.Proofs.Rolls
import Mathlib.Algebra.BigOperators.Group.Multiset.Basic
import Mathlib.Algebra.Order.BigOperators.Group.Multiset
import Mathlib.Algebra.Order.Group.Multiset
import Mathlib.Data.List.Sort
import Mathlib.Data.Multiset.UnionInter
import Mathlib.Order.Bounds.Basic

/-!
# Which dice a modifier keeps

A modifier divides the dice rolled: in ascending order it keeps those at one end, and how many it
keeps depends on its count and on the number of dice alone (`ModifierKind.keptCount`). So only two
things are kept, the highest dice (`selectDice_of_keepsHigh`) or the lowest ones
(`selectDice_of_not_keepsHigh`), whether a modifier is written as what to keep or as what to drop.

`Divides` says what such a division is like, without the order in which dice are sorted: no die of
the lower part shows more than one of the upper part. That is enough to compare a part with any
other choice of as many dice (`Divides.sum_low_le`, `Divides.sum_le_sum_high`): the dice that only
the one has can be exchanged for those that only the other has.

Main statement (`kept_dice_extremal`): what each of the four modifiers selects of any dice.
-/

namespace ChatDice

/-! ### Dice in two parts -/

/-- Dice divided into a lower and an upper part. -/
structure Divides (dice low high : Multiset Int) : Prop where
  /-- Every die is in one of the parts. -/
  add_eq : low + high = dice
  /-- No die of the lower part shows more than one of the upper part. -/
  le : ∀ x ∈ low, ∀ y ∈ high, x ≤ y

namespace Divides

variable {dice low high chosen : Multiset Int}

/-- The dice of both parts together are as many as the dice. -/
theorem card_add (h : Divides dice low high) : low.card + high.card = dice.card := by
  rw [← Multiset.card_add, h.add_eq]

/-- No other choice of as many dice comes to less than the lower part. -/
theorem sum_low_le (h : Divides dice low high) (hle : chosen ≤ dice)
    (hcard : chosen.card = low.card) : low.sum ≤ chosen.sum := by
  -- The dice that both have count on both sides; the others are exchanged.
  have hlow : low - chosen + (low ∩ chosen) = low := Multiset.sub_add_inter low chosen
  have hchosen : chosen - low + (low ∩ chosen) = chosen := by
    rw [Multiset.inter_comm]
    exact Multiset.sub_add_inter chosen low
  have hupper : chosen - low ≤ high := by
    rw [tsub_le_iff_left, h.add_eq]
    exact hle
  have hexchange : (low - chosen).sum ≤ (chosen - low).sum := by
    refine Multiset.sum_le_sum_of_rel_le (Multiset.rel_of_forall (fun x y hx hy => ?_) ?_)
    · have hxlow : x ∈ low := Multiset.mem_of_le (Multiset.sub_le_self _ _) hx
      exact h.le x hxlow y (Multiset.mem_of_le hupper hy)
    · have hcardLow := congrArg Multiset.card hlow
      have hcardChosen := congrArg Multiset.card hchosen
      rw [Multiset.card_add] at hcardLow hcardChosen
      omega
  calc low.sum = (low - chosen).sum + (low ∩ chosen).sum := by rw [← Multiset.sum_add, hlow]
    _ ≤ (chosen - low).sum + (low ∩ chosen).sum := Int.add_le_add_right hexchange _
    _ = chosen.sum := by rw [← Multiset.sum_add, hchosen]

/-- No other choice of as many dice comes to more than the upper part. -/
theorem sum_le_sum_high (h : Divides dice low high) (hle : chosen ≤ dice)
    (hcard : chosen.card = high.card) : chosen.sum ≤ high.sum := by
  have hrest : dice - chosen + chosen = dice := tsub_add_cancel_of_le hle
  have hcardRest : (dice - chosen).card = low.card := by
    rw [Multiset.card_sub hle, ← h.card_add, hcard, Nat.add_sub_cancel_right]
  have hlow := h.sum_low_le (Multiset.sub_le_self dice chosen) hcardRest
  have hsum : low.sum + high.sum = (dice - chosen).sum + chosen.sum := by
    rw [← Multiset.sum_add, ← Multiset.sum_add, h.add_eq, hrest]
  omega

end Divides

/-! ### Dice in ascending order -/

/-- Sorted faces are in order. -/
theorem pairwise_mergeSort_le (faces : List Int) : faces.mergeSort.Pairwise (· ≤ ·) :=
  List.pairwise_mergeSort' (· ≤ ·) faces

/-- The order in which dice fall does not show once they are sorted. -/
theorem mergeSort_eq_of_perm {faces faces' : List Int} (h : faces.Perm faces') :
    faces.mergeSort = faces'.mergeSort := by
  have hperm : faces.mergeSort.Perm faces'.mergeSort :=
    (List.mergeSort_perm faces _).trans (h.trans (List.mergeSort_perm faces' _).symm)
  exact hperm.eq_of_pairwise (fun _ _ _ _ => Int.le_antisymm) (pairwise_mergeSort_le faces)
    (pairwise_mergeSort_le faces')

/-- Dice in ascending order, divided at any place. -/
theorem divides_take_drop (faces : List Int) (n : Nat) :
    Divides faces (faces.mergeSort.take n : List Int) (faces.mergeSort.drop n : List Int) where
  add_eq := by
    rw [Multiset.coe_add, List.take_append_drop, Multiset.coe_eq_coe]
    exact List.mergeSort_perm faces _
  le := by
    have hsplit : faces.mergeSort.take n ++ faces.mergeSort.drop n = faces.mergeSort :=
      List.take_append_drop n _
    have hsorted := pairwise_mergeSort_le faces
    rw [← hsplit, List.pairwise_append] at hsorted
    exact hsorted.2.2

/-! ### What the modifiers keep -/

namespace ModifierKind

/-- Whether the highest dice are kept, and not the lowest. -/
def keepsHigh : ModifierKind → Bool
  | keepHighest | dropLowest => true
  | keepLowest | dropHighest => false

/-- How many of a number of dice are kept. -/
def keptCount (kind : ModifierKind) (count size : Nat) : Nat :=
  match kind with
  | keepHighest | keepLowest => min count size
  | dropHighest | dropLowest => size - min count size

/-- No more dice are kept than there are. -/
theorem keptCount_le (kind : ModifierKind) (count size : Nat) :
    kind.keptCount count size ≤ size := by
  cases kind with
  | keepHighest | keepLowest => exact Nat.min_le_right _ _
  | dropHighest | dropLowest => exact Nat.sub_le _ _

end ModifierKind

variable {kind : ModifierKind}

/-- A kind that keeps the highest dice keeps the end of their ascending order. -/
theorem selectDice_of_keepsHigh (hkind : kind.keepsHigh = true) (faces : List Int) (count : Nat) :
    selectDice faces (some ⟨kind, count⟩) =
      faces.mergeSort.drop (faces.length - kind.keptCount count faces.length) := by
  have hlength : faces.mergeSort.length = faces.length := List.length_mergeSort faces
  have hmin : min (count : Int) faces.length = (min count faces.length : Nat) := by omega
  simp only [selectDice, hmin]
  cases kind with
  | keepHighest =>
    have hbound : (faces.length : Int) - (min count faces.length : Nat) =
        (faces.length - min count faces.length : Nat) := by omega
    simp only [ModifierKind.select, hlength, hbound, Slice.onward_natCast, ModifierKind.keptCount]
  | dropLowest =>
    have hbound : faces.length - (faces.length - min count faces.length) =
        min count faces.length := by omega
    simp only [ModifierKind.select, Slice.onward_natCast, ModifierKind.keptCount, hbound]
  | keepLowest | dropHighest => cases hkind

/-- Every other kind keeps the beginning of their ascending order. -/
theorem selectDice_of_not_keepsHigh (hkind : kind.keepsHigh = false) (faces : List Int)
    (count : Nat) :
    selectDice faces (some ⟨kind, count⟩) =
      faces.mergeSort.take (kind.keptCount count faces.length) := by
  have hlength : faces.mergeSort.length = faces.length := List.length_mergeSort faces
  have hmin : min (count : Int) faces.length = (min count faces.length : Nat) := by omega
  simp only [selectDice, hmin]
  cases kind with
  | keepLowest => simp only [ModifierKind.select, Slice.upTo_natCast, ModifierKind.keptCount]
  | dropHighest =>
    have hbound : (faces.length : Int) - (min count faces.length : Nat) =
        (faces.length - min count faces.length : Nat) := by omega
    simp only [ModifierKind.select, hlength, hbound, Slice.upTo_natCast, ModifierKind.keptCount]
  | keepHighest | dropLowest => cases hkind

/-- The highest dice are kept, and no other die shows more than one of them. -/
theorem exists_divides_of_keepsHigh (hkind : kind.keepsHigh = true) (faces : List Int)
    (count : Nat) :
    ∃ rest, Divides faces rest (selectDice faces (some ⟨kind, count⟩) : List Int) := by
  rw [selectDice_of_keepsHigh hkind]
  exact ⟨_, divides_take_drop faces _⟩

/-- The lowest dice are kept, and no other die shows less than one of them. -/
theorem exists_divides_of_not_keepsHigh (hkind : kind.keepsHigh = false) (faces : List Int)
    (count : Nat) :
    ∃ rest, Divides faces (selectDice faces (some ⟨kind, count⟩) : List Int) rest := by
  rw [selectDice_of_not_keepsHigh hkind]
  exact ⟨_, divides_take_drop faces _⟩

/-- As many dice are kept as the kind says. -/
theorem length_selectDice (kind : ModifierKind) (faces : List Int) (count : Nat) :
    (selectDice faces (some ⟨kind, count⟩)).length = kind.keptCount count faces.length := by
  have hlength : faces.mergeSort.length = faces.length := List.length_mergeSort faces
  have hle := kind.keptCount_le count faces.length
  cases hkind : kind.keepsHigh with
  | true =>
    rw [selectDice_of_keepsHigh hkind, List.length_drop, hlength]
    omega
  | false =>
    rw [selectDice_of_not_keepsHigh hkind, List.length_take, hlength]
    omega

/-- Kept dice stand in ascending order. -/
theorem pairwise_selectDice (kind : ModifierKind) (faces : List Int) (count : Nat) :
    (selectDice faces (some ⟨kind, count⟩)).Pairwise (· ≤ ·) :=
  (pairwise_mergeSort_le faces).sublist (kind.sublist_select _ _)

/-- Dice are kept alike in whatever order they fall. -/
theorem selectDice_of_perm {faces faces' : List Int} (h : faces.Perm faces') (modifier : Modifier) :
    selectDice faces (some modifier) = selectDice faces' (some modifier) := by
  simp only [selectDice, h.length_eq, mergeSort_eq_of_perm h]

/-- What is kept and what is dropped are all the dice: the one begins where the other ends. -/
theorem perm_append_selectDice {kept dropped : ModifierKind} (hkept : kept.keepsHigh = true)
    (hdropped : dropped.keepsHigh = false) {faces : List Int} {count : Nat}
    (hcount : kept.keptCount count faces.length + dropped.keptCount count faces.length =
      faces.length) :
    (selectDice faces (some ⟨kept, count⟩) ++
      selectDice faces (some ⟨dropped, count⟩)).Perm faces := by
  have hplace : faces.length - kept.keptCount count faces.length =
      dropped.keptCount count faces.length := by omega
  rw [selectDice_of_keepsHigh hkept, selectDice_of_not_keepsHigh hdropped, hplace]
  refine List.perm_append_comm.trans ?_
  rw [List.take_append_drop]
  exact List.mergeSort_perm faces _

/-! ### The worth of a choice -/

/-- What a number of dice, chosen freely among those rolled, can come to. -/
def choiceSums (faces : List Int) (size : Nat) : Set Int :=
  {total | ∃ chosen : Multiset Int, chosen ≤ faces ∧ chosen.card = size ∧ chosen.sum = total}

/-- The dice that count are one choice of as many dice. -/
theorem sum_selectDice_mem_choiceSums (kind : ModifierKind) (faces : List Int) (count : Nat) :
    (selectDice faces (some ⟨kind, count⟩)).sum ∈
      choiceSums faces (kind.keptCount count faces.length) := by
  refine ⟨selectDice faces (some ⟨kind, count⟩), ?_, ?_, Multiset.sum_coe _⟩
  · exact Multiset.coe_le.mpr (subperm_selectDice faces _)
  · rw [Multiset.coe_card, length_selectDice]

/-- The highest dice come to the most that as many dice can come to. -/
theorem isGreatest_sum_selectDice (hkind : kind.keepsHigh = true) (faces : List Int) (count : Nat) :
    IsGreatest (choiceSums faces (kind.keptCount count faces.length))
      (selectDice faces (some ⟨kind, count⟩)).sum := by
  refine ⟨sum_selectDice_mem_choiceSums kind faces count, ?_⟩
  rintro total ⟨chosen, hle, hcard, rfl⟩
  obtain ⟨rest, hdivides⟩ := exists_divides_of_keepsHigh hkind faces count
  rw [← length_selectDice kind faces count] at hcard
  exact hdivides.sum_le_sum_high hle hcard

/-- The lowest dice come to the least that as many dice can come to. -/
theorem isLeast_sum_selectDice (hkind : kind.keepsHigh = false) (faces : List Int) (count : Nat) :
    IsLeast (choiceSums faces (kind.keptCount count faces.length))
      (selectDice faces (some ⟨kind, count⟩)).sum := by
  refine ⟨sum_selectDice_mem_choiceSums kind faces count, ?_⟩
  rintro total ⟨chosen, hle, hcard, rfl⟩
  obtain ⟨rest, hdivides⟩ := exists_divides_of_not_keepsHigh hkind faces count
  rw [← length_selectDice kind faces count] at hcard
  exact hdivides.sum_low_le hle hcard

/-- **What modifiers select.** Each kind selects some of the dice, in ascending order, and the same
ones in whatever order the dice fall. To keep the highest dice is to choose as many as are asked
for, or all if there are fewer, so that they come to the most; to keep the lowest, so that they come
to the least. Keeping and dropping at one end select all dice between them, and come to what all
dice come to. A group of dice is worth what its selected dice come to; without a modifier these are
all dice, as they fell. -/
theorem kept_dice_extremal (faces : List Int) (count : Nat) :
    (∀ kind : ModifierKind, (selectDice faces (some ⟨kind, count⟩)).Pairwise (· ≤ ·) ∧
      (selectDice faces (some ⟨kind, count⟩) : Multiset Int) ≤ faces ∧
      ∀ faces', faces.Perm faces' →
        selectDice faces' (some ⟨kind, count⟩) = selectDice faces (some ⟨kind, count⟩)) ∧
    ((selectDice faces (some ⟨.keepHighest, count⟩)).length = min count faces.length ∧
      IsGreatest (choiceSums faces (min count faces.length))
        (selectDice faces (some ⟨.keepHighest, count⟩)).sum) ∧
    ((selectDice faces (some ⟨.keepLowest, count⟩)).length = min count faces.length ∧
      IsLeast (choiceSums faces (min count faces.length))
        (selectDice faces (some ⟨.keepLowest, count⟩)).sum) ∧
    ((selectDice faces (some ⟨.keepHighest, count⟩) ++
        selectDice faces (some ⟨.dropHighest, count⟩)).Perm faces ∧
      (selectDice faces (some ⟨.keepHighest, count⟩)).sum +
        (selectDice faces (some ⟨.dropHighest, count⟩)).sum = faces.sum) ∧
    ((selectDice faces (some ⟨.keepLowest, count⟩) ++
        selectDice faces (some ⟨.dropLowest, count⟩)).Perm faces ∧
      (selectDice faces (some ⟨.keepLowest, count⟩)).sum +
        (selectDice faces (some ⟨.dropLowest, count⟩)).sum = faces.sum) ∧
    (∀ spec : DiceSpec, (spec.appraise faces).value = (selectDice faces spec.modifier).sum) ∧
    selectDice faces none = faces := by
  have hmin := Nat.min_le_right count faces.length
  have hhighest : (selectDice faces (some ⟨.keepHighest, count⟩) ++
      selectDice faces (some ⟨.dropHighest, count⟩)).Perm faces :=
    perm_append_selectDice rfl rfl (Nat.add_sub_cancel' hmin)
  have hlowest : (selectDice faces (some ⟨.keepLowest, count⟩) ++
      selectDice faces (some ⟨.dropLowest, count⟩)).Perm faces :=
    List.perm_append_comm.trans (perm_append_selectDice rfl rfl (Nat.sub_add_cancel hmin))
  refine ⟨fun kind => ⟨pairwise_selectDice kind faces count, ?_, fun faces' hperm => ?_⟩,
    ⟨length_selectDice .keepHighest faces count, ?_⟩,
    ⟨length_selectDice .keepLowest faces count, ?_⟩,
    ⟨hhighest, ?_⟩, ⟨hlowest, ?_⟩, fun spec => DiceSpec.value_appraise spec faces, rfl⟩
  · exact Multiset.coe_le.mpr (subperm_selectDice faces _)
  · exact (selectDice_of_perm hperm _).symm
  · have hkeeps : ModifierKind.keepHighest.keepsHigh = true := rfl
    exact isGreatest_sum_selectDice hkeeps faces count
  · have hkeeps : ModifierKind.keepLowest.keepsHigh = false := rfl
    exact isLeast_sum_selectDice hkeeps faces count
  · rw [← List.sum_append]
    exact hhighest.sum_eq
  · rw [← List.sum_append]
    exact hlowest.sum_eq

/-- Four dice of which the two highest are kept, as they fall and in order. -/
theorem kept_dice_extremal_four :
    [4, 1, 6, 3].Perm [1, 3, 4, (6 : Int)] ∧
      selectDice [4, 1, 6, 3] (some ⟨.keepHighest, 2⟩) = [4, 6] ∧
      IsGreatest (choiceSums [4, 1, 6, 3] 2) 10 ∧
      (selectDice [4, 1, 6, 3] (some ⟨.dropHighest, 2⟩)).sum = 4 := by
  have hperm : [4, 1, 6, 3].Perm [1, 3, 4, (6 : Int)] := by decide
  -- Sorting does not evaluate; dice in order are left as they are.
  have hsorted : selectDice [1, 3, 4, 6] (some ⟨.keepHighest, 2⟩) = [4, 6] := by
    rw [selectDice, List.mergeSort_of_pairwise (by decide)]
    rfl
  obtain ⟨hkinds, ⟨-, hgreatest⟩, -, ⟨-, hsum⟩, -⟩ := kept_dice_extremal [4, 1, 6, 3] 2
  have hselect : selectDice [4, 1, 6, 3] (some ⟨.keepHighest, 2⟩) = [4, 6] := by
    rw [← hsorted]
    exact ((hkinds .keepHighest).2.2 _ hperm).symm
  have htotal : (selectDice [4, 1, 6, 3] (some ⟨.keepHighest, 2⟩)).sum = 10 := by
    rw [hselect]
    rfl
  have hall : (selectDice [4, 1, 6, 3] (some ⟨.keepHighest, 2⟩)).sum +
      (selectDice [4, 1, 6, 3] (some ⟨.dropHighest, 2⟩)).sum = 14 := hsum
  refine ⟨hperm, hselect, htotal ▸ hgreatest, ?_⟩
  rw [htotal] at hall
  omega

end ChatDice
