import ChatDice.Proofs.Draws
import Mathlib.Data.List.Sort

/-!
# Better rolls

Dice that fall better never make a group worth less. Without a modifier that is plain; with one the
dice are sorted first, and the sorted dice are better too, place by place (`forall₂_mergeSort`), so
that the places a modifier keeps hold better dice (`forall₂_selectDice`).

Totals follow the groups as long as no term turns the order around: a term that is added or
multiplied keeps it, since no group and no literal is worth less than nothing, and so does a divisor
that no dice decide (`Term.IsRising`). One such term keeps totals in order
(`Term.IsRising.add_mono`), and so do all of them (`total_tally_mono`).

Main statement (`total_mono`): of two evaluations of such a command, the one with the better draws
has the greater total, and both lie between the totals of dice on their lowest and on their highest
face.
-/

namespace ChatDice

open List (Forall₂)

/-! ### Dice in order -/

/-- A least element is put at the front. -/
theorem orderedInsert_of_pairwise {x : Int} {xs : List Int} (h : (x :: xs).Pairwise (· ≤ ·)) :
    xs.orderedInsert (· ≤ ·) x = x :: xs := by
  cases xs with
  | nil => rfl
  | cons y ys =>
    exact List.orderedInsert_cons_of_le _ _ (List.rel_of_pairwise_cons h List.mem_cons_self)

/-- A better die in its place among better dice. Where the two places differ, the die that is passed
by stands for the one that is put in. -/
theorem forall₂_orderedInsert {xs ys : List Int} (h : Forall₂ (· ≤ ·) xs ys)
    (hxs : xs.Pairwise (· ≤ ·)) (hys : ys.Pairwise (· ≤ ·)) {a b : Int} (hab : a ≤ b) :
    Forall₂ (· ≤ ·) (xs.orderedInsert (· ≤ ·) a) (ys.orderedInsert (· ≤ ·) b) := by
  induction h generalizing a b with
  | nil => exact .cons hab .nil
  | @cons x y xs ys hxy hrest ih =>
    have ih := fun {a b : Int} (hab : a ≤ b) => ih hxs.of_cons hys.of_cons hab
    by_cases ha : a ≤ x
    · rw [List.orderedInsert_cons_of_le _ _ ha]
      by_cases hb : b ≤ y
      · rw [List.orderedInsert_cons_of_le _ _ hb]
        exact .cons hab (.cons hxy hrest)
      · rw [List.orderedInsert_of_not_le _ _ hb, ← orderedInsert_of_pairwise hxs]
        exact .cons (ha.trans hxy) (ih (hxy.trans (not_le.mp hb).le))
    · rw [List.orderedInsert_of_not_le _ _ ha]
      by_cases hb : b ≤ y
      · rw [List.orderedInsert_cons_of_le _ _ hb, ← orderedInsert_of_pairwise hys]
        exact .cons ((not_le.mp ha).le.trans hab) (ih (hab.trans hb))
      · rw [List.orderedInsert_of_not_le _ _ hb]
        exact .cons hxy (ih hab)

/-- Better dice are better in order, place by place. -/
theorem forall₂_mergeSort {xs ys : List Int} (h : Forall₂ (· ≤ ·) xs ys) :
    Forall₂ (· ≤ ·) xs.mergeSort ys.mergeSort := by
  rw [List.mergeSort_eq_insertionSort (· ≤ ·) xs, List.mergeSort_eq_insertionSort (· ≤ ·) ys]
  induction h with
  | nil => exact .nil
  | cons hab _ ih =>
    exact forall₂_orderedInsert ih (List.pairwise_insertionSort _ _)
      (List.pairwise_insertionSort _ _) hab

/-! ### Dice that count -/

section Relation

variable {α β : Type} {R : α → β → Prop} {xs : List α} {ys : List β}

/-- Related lists are related up to any bound. -/
theorem Slice.forall₂_upTo (h : Forall₂ R xs ys) (bound : Int) :
    Forall₂ R (upTo bound xs) (upTo bound ys) := by
  unfold upTo
  rw [h.length_eq]
  exact List.forall₂_take _ h

/-- Related lists are related from any bound on. -/
theorem Slice.forall₂_onward (h : Forall₂ R xs ys) (bound : Int) :
    Forall₂ R (onward bound xs) (onward bound ys) := by
  unfold onward
  rw [h.length_eq]
  exact List.forall₂_drop _ h

/-- Two lists that correspond do so in their beginnings and in the rests. -/
theorem forall₂_of_append {xs' : List α} {ys' : List β} (hlength : xs.length = ys.length)
    (h : Forall₂ R (xs ++ xs') (ys ++ ys')) : Forall₂ R xs ys ∧ Forall₂ R xs' ys' := by
  have htake := List.forall₂_take xs.length h
  have hdrop := List.forall₂_drop xs.length h
  rw [List.take_left, List.take_left' hlength.symm] at htake
  rw [List.drop_left, List.drop_left' hlength.symm] at hdrop
  exact ⟨htake, hdrop⟩

end Relation

/-- Of better dice in order, better dice are kept. -/
theorem ModifierKind.forall₂_select (kind : ModifierKind) (count : Int) {xs ys : List Int}
    (h : Forall₂ (· ≤ ·) xs ys) :
    Forall₂ (· ≤ ·) (kind.select count xs) (kind.select count ys) := by
  unfold select
  rw [h.length_eq]
  cases kind with
  | keepHighest => exact Slice.forall₂_onward h _
  | keepLowest => exact Slice.forall₂_upTo h _
  | dropHighest => exact Slice.forall₂_upTo h _
  | dropLowest => exact Slice.forall₂_onward h _

/-- Of better dice, better dice count. -/
theorem forall₂_selectDice {faces faces' : List Int} (h : Forall₂ (· ≤ ·) faces faces')
    (modifier : Option Modifier) :
    Forall₂ (· ≤ ·) (selectDice faces modifier) (selectDice faces' modifier) := by
  cases modifier with
  | none => exact h
  | some m =>
    unfold selectDice
    rw [h.length_eq]
    exact m.kind.forall₂_select _ (forall₂_mergeSort h)

/-! ### One term -/

variable {σ τ : Type} {g : Generator σ} {g' : Generator τ} {limit : Limit}

/-- A draw with an answer no greater than that of another. -/
def Draw.AtMost (draw draw' : Draw) : Prop :=
  draw.answer ≤ draw'.answer

namespace Payload

/-- A well-formed payload counts as no negative number when its dice are in range. -/
theorem value_appraise_nonneg (hg : g.InRange) {p : Payload} (hp : p.WellFormed limit) (s : σ) :
    0 ≤ (p.appraise g s).1.value := by
  cases p with
  | literal n => exact hp.1
  | dice spec =>
    have hfaces := hg.forall_mem_roll (DiceSpec.WellFormed.one_le_sides hp) spec.count.toNat s
    exact DiceSpec.value_appraise_nonneg fun face hmem => (hfaces face hmem).1

/-- With better draws a payload is worth no less. -/
theorem value_appraise_mono {p : Payload} {s : σ} {s' : τ}
    (h : Forall₂ Draw.AtMost (p.draws g s) (p.draws g' s')) :
    (p.appraise g s).1.value ≤ (p.appraise g' s').1.value := by
  cases p with
  | literal n => exact le_rfl
  | dice spec =>
    simp only [draws, List.forall₂_map_left_iff, List.forall₂_map_right_iff, Draw.AtMost] at h
    simp only [appraise, DiceSpec.value_appraise]
    exact (forall₂_selectDice h spec.modifier).sum_le_sum

/-- What a payload draws depends on it alone in number. -/
theorem length_draws (p : Payload) (s : σ) : (p.draws g s).length = p.asks.length := by
  rw [← map_bounds_draws p s, List.length_map]

end Payload

namespace Term

/-- A term that keeps totals in order: it is added or multiplied, or it is a divisor that no dice
decide, and not zero. -/
def IsRising (term : Term) : Prop :=
  term.operator = .add ∨ term.operator = .mul ∨
    term.operator = .div ∧ ∃ n, n ≠ 0 ∧ term.payload = .literal n

/-- Such a term, met with better draws by a greater account, leaves a greater one. No total is less
than nothing on the way. -/
theorem IsRising.add_mono (hg : g.InRange) {term : Term} (hrising : term.IsRising)
    (hp : term.payload.WellFormed limit) {s : σ} {s' : τ}
    (hdraws : Forall₂ Draw.AtMost (term.payload.draws g s) (term.payload.draws g' s'))
    {account account' next next' : Tally} (hnonneg : 0 ≤ account.total)
    (hle : account.total ≤ account'.total)
    (h : account.add term.operator (term.payload.appraise g s).1 = .ok next)
    (h' : account'.add term.operator (term.payload.appraise g' s').1 = .ok next') :
    0 ≤ next.total ∧ next.total ≤ next'.total := by
  have hvalue := Payload.value_appraise_nonneg hg hp s
  have hvalues := Payload.value_appraise_mono hdraws
  have happly := Tally.apply_of_add_eq_ok h
  have happly' := Tally.apply_of_add_eq_ok h'
  rcases hrising with hadd | hmul | ⟨hdiv, n, hn, hliteral⟩
  · rw [hadd, Operator.apply_add, Except.ok.injEq] at happly happly'
    omega
  · rw [hmul, Operator.apply_mul, Except.ok.injEq] at happly happly'
    rw [← happly, ← happly']
    exact ⟨Int.mul_nonneg hnonneg hvalue,
      Int.mul_le_mul hle hvalues hvalue (hnonneg.trans hle)⟩
  · rw [hliteral] at hp happly happly'
    have hpos : 0 < n := lt_of_le_of_ne hp.1 hn.symm
    rw [hdiv] at happly happly'
    simp only [Payload.appraise, Operator.apply_div hn, Except.ok.injEq] at happly happly'
    rw [← happly, ← happly']
    exact ⟨Int.tdiv_nonneg hnonneg hpos.le, Int.tdiv_le_tdiv hpos hle⟩

end Term

/-! ### All terms -/

/-- Terms that keep totals in order, met with better draws, end in a greater total. -/
theorem total_tally_mono (hg : g.InRange) {terms : List Term}
    (hrising : ∀ term ∈ terms, term.IsRising)
    (hp : ∀ term ∈ terms, term.payload.WellFormed limit) {account account' : Tally} {s : σ} {s' : τ}
    (hdraws : Forall₂ Draw.AtMost (drawsFor g terms account s) (drawsFor g' terms account' s'))
    (hnonneg : 0 ≤ account.total) (hle : account.total ≤ account'.total) {last last' : Tally}
    (h : (tally g terms account s).outcome = .ok last)
    (h' : (tally g' terms account' s').outcome = .ok last') : last.total ≤ last'.total := by
  induction terms generalizing account account' s s' with
  | nil =>
    cases h
    cases h'
    exact hle
  | cons term terms ih =>
    obtain ⟨hrising₁, hrising⟩ := List.forall_mem_cons.mp hrising
    obtain ⟨hp₁, hp⟩ := List.forall_mem_cons.mp hp
    rw [outcome_tally_cons] at h h'
    obtain ⟨next, hadd, hrest⟩ := bind_eq_ok_iff.mp h
    obtain ⟨next', hadd', hrest'⟩ := bind_eq_ok_iff.mp h'
    rw [drawsFor_cons_of_ok hadd, drawsFor_cons_of_ok hadd'] at hdraws
    have hlength : (term.payload.draws g s).length = (term.payload.draws g' s').length := by
      rw [Payload.length_draws, Payload.length_draws]
    obtain ⟨hdraws₁, hdraws⟩ := forall₂_of_append hlength hdraws
    obtain ⟨hnonneg', hle'⟩ := hrising₁.add_mono hg hp₁ hdraws₁ hnonneg hle hadd hadd'
    exact ih hrising hp hdraws hnonneg' hle' hrest hrest'

/-! ### Draws of the same terms -/

/-- Every draw is an answer of the generator in some state. -/
theorem Generator.exists_draw_of_mem_roll {sides : Int} {count : Nat} {s : σ} :
    ∀ face ∈ (g.roll sides count s).1, ∃ t, face = (g.draw t 1 sides).1 := by
  induction count generalizing s with
  | zero => exact List.forall_mem_nil _
  | succ count ih =>
    rw [roll_succ]
    exact List.forall_mem_cons.mpr ⟨⟨s, rfl⟩, ih⟩

/-- Every draw for a payload was answered by the generator. -/
theorem Payload.exists_draw_of_mem_draws {p : Payload} {s : σ} :
    ∀ draw ∈ p.draws g s, ∃ t, draw.answer = (g.draw t draw.low draw.high).1 := by
  cases p with
  | literal n => exact List.forall_mem_nil _
  | dice spec => exact List.forall_mem_map.mpr Generator.exists_draw_of_mem_roll

/-- Every draw for some terms was answered by the generator. -/
theorem exists_draw_of_mem_drawsFor {terms : List Term} {account : Tally} {s : σ} :
    ∀ draw ∈ drawsFor g terms account s, ∃ t, draw.answer = (g.draw t draw.low draw.high).1 := by
  induction terms generalizing account s with
  | nil => exact List.forall_mem_nil _
  | cons term terms ih =>
    cases hadd : account.add term.operator (term.payload.appraise g s).1 with
    | error failure =>
      rw [drawsFor_cons_of_error hadd]
      exact Payload.exists_draw_of_mem_draws
    | ok next =>
      rw [drawsFor_cons_of_ok hadd]
      exact List.forall_mem_append.mpr ⟨Payload.exists_draw_of_mem_draws, ih⟩

/-- Terms in range ask for nothing but numbers that there are. -/
theorem low_le_high_of_mem_asks {terms : List Term}
    (hp : ∀ term ∈ terms, term.payload.WellFormed limit) :
    ∀ bounds ∈ terms.flatMap (·.payload.asks), bounds.1 ≤ bounds.2 := by
  intro bounds hmem
  obtain ⟨term, hterm, hasks⟩ := List.mem_flatMap.mp hmem
  have hwf := hp term hterm
  cases hpayload : term.payload with
  | literal n =>
    rw [hpayload] at hasks
    cases hasks
  | dice spec =>
    rw [hpayload] at hasks hwf
    rw [List.eq_of_mem_replicate hasks]
    exact DiceSpec.WellFormed.one_le_sides hwf

section evaluate

variable {command : String} {terms : List Term} {s : σ} {s' : τ} {result result' : RollResult}

/-- A result comes of terms that could all be taken, and they made the draws that they ask for. -/
theorem map_bounds_draws_of_ok (hparse : Command.parse limit command.toList = .ok terms)
    (h : (evaluate g limit command s).outcome = .ok result) :
    (draws g limit command s).map Draw.bounds = terms.flatMap (·.payload.asks) := by
  rw [outcome_evaluate_of_parse hparse] at h
  obtain ⟨account, htally, -⟩ := exists_account_of_evaluateTerms h
  rw [draws_of_parse hparse]
  exact bounds_drawsFor_of_ok htally

/-- A generator whose answers are never greater than those of another gives no better draws. -/
theorem atMost_of_forall_draw
    (hdraw : ∀ t t' low high, low ≤ high → (g.draw t low high).1 ≤ (g'.draw t' low high).1)
    (hparse : Command.parse limit command.toList = .ok terms)
    (h : (evaluate g limit command s).outcome = .ok result)
    (h' : (evaluate g' limit command s').outcome = .ok result') (i : Nat) (draw draw' : Draw)
    (hi : (draws g limit command s)[i]? = some draw)
    (hi' : (draws g' limit command s')[i]? = some draw') : draw.AtMost draw' := by
  have hasks := map_bounds_draws_of_ok hparse h
  have hasks' := map_bounds_draws_of_ok hparse h'
  have hbounds : draw.bounds = draw'.bounds := by
    have hmap : ((draws g limit command s).map Draw.bounds)[i]? =
        ((draws g' limit command s').map Draw.bounds)[i]? := by rw [hasks, hasks']
    simpa [hi, hi'] using hmap
  have hlow : draw.low = draw'.low := congrArg Prod.fst hbounds
  have hhigh : draw.high = draw'.high := congrArg Prod.snd hbounds
  have hle : draw.low ≤ draw.high := by
    refine low_le_high_of_mem_asks (Command.wellFormed_of_parse hparse).payload draw.bounds ?_
    rw [← hasks]
    exact List.mem_map_of_mem (List.mem_of_getElem? hi)
  rw [draws_of_parse hparse] at hi hi'
  obtain ⟨t, ht⟩ := exists_draw_of_mem_drawsFor draw (List.mem_of_getElem? hi)
  obtain ⟨t', ht'⟩ := exists_draw_of_mem_drawsFor draw' (List.mem_of_getElem? hi')
  rw [Draw.AtMost, ht, ht', ← hlow, ← hhigh]
  exact hdraw t t' _ _ hle

/-! ### Commands -/

/-- The first term of a command is added, so it keeps totals in order in any case. -/
theorem WellFormed.isRising (hwf : WellFormed limit terms)
    (hrising : ∀ term ∈ terms.tail, term.IsRising) : ∀ term ∈ terms, term.IsRising := by
  cases terms with
  | nil => exact List.forall_mem_nil _
  | cons first rest => exact List.forall_mem_cons.mpr ⟨.inl (hwf.head_add first rfl), hrising⟩

/-- Draws that are at most the others, one by one, make a total that is at most the other. -/
theorem total_le_of_atMost (hg : g.InRange)
    (hparse : Command.parse limit command.toList = .ok terms)
    (hrising : ∀ term ∈ terms.tail, term.IsRising)
    (h : (evaluate g limit command s).outcome = .ok result)
    (h' : (evaluate g' limit command s').outcome = .ok result')
    (hdraws : ∀ (i : Nat) (draw draw' : Draw), (draws g limit command s)[i]? = some draw →
      (draws g' limit command s')[i]? = some draw' → draw.AtMost draw') :
    result.total ≤ result'.total := by
  have hwf := Command.wellFormed_of_parse hparse
  have hlength : (draws g limit command s).length = (draws g' limit command s').length := by
    have hasks := map_bounds_draws_of_ok hparse h
    rw [← map_bounds_draws_of_ok hparse h'] at hasks
    simpa using congrArg List.length hasks
  have hforall : Forall₂ Draw.AtMost (draws g limit command s) (draws g' limit command s') :=
    List.forall₂_of_length_eq_of_get hlength fun i hi hi' =>
      hdraws i _ _ (List.getElem?_eq_getElem hi) (List.getElem?_eq_getElem hi')
  rw [draws_of_parse hparse, draws_of_parse hparse] at hforall
  rw [outcome_evaluate_of_parse hparse] at h h'
  obtain ⟨account, htally, rfl⟩ := exists_account_of_evaluateTerms h
  obtain ⟨account', htally', rfl⟩ := exists_account_of_evaluateTerms h'
  exact total_tally_mono hg (hwf.isRising hrising) hwf.payload hforall le_rfl le_rfl htally htally'

end evaluate

/-- **Better rolls never lower the result.** Let every term after the first be added, multiplied, or
a literal divisor other than zero. If every draw of one evaluation is at most the draw of another at
the same place, then so is its total. And every total lies between those of dice that always show a
one and of dice that always show their highest face. -/
theorem total_mono (hg : g.InRange) {command : String} {terms : List Term}
    (hparse : Command.parse limit command.toList = .ok terms)
    (hrising : ∀ term ∈ terms.tail, term.operator = .add ∨ term.operator = .mul ∨
      term.operator = .div ∧ ∃ n, n ≠ 0 ∧ term.payload = .literal n)
    {s : σ} {result : RollResult} (h : (evaluate g limit command s).outcome = .ok result) :
    (∀ {τ : Type} (g' : Generator τ) (s' : τ) (result' : RollResult),
      (evaluate g' limit command s').outcome = .ok result' →
      (∀ (i : Nat) (draw draw' : Draw), (draws g limit command s)[i]? = some draw →
        (draws g' limit command s')[i]? = some draw' → draw.answer ≤ draw'.answer) →
      result.total ≤ result'.total) ∧
    (∀ least, (evaluate .lowest limit command ()).outcome = .ok least →
      least.total ≤ result.total) ∧
    ∀ greatest, (evaluate .highest limit command ()).outcome = .ok greatest →
      result.total ≤ greatest.total := by
  refine ⟨fun g' s' result' h' hdraws => total_le_of_atMost hg hparse hrising h h' hdraws,
    fun least hleast => ?_, fun greatest hgreatest => ?_⟩
  · refine total_le_of_atMost Generator.inRange_lowest hparse hrising hleast h ?_
    exact atMost_of_forall_draw (fun _ t' low high hle => (hg t' low high hle).1) hparse hleast h
  · refine total_le_of_atMost hg hparse hrising h hgreatest ?_
    exact atMost_of_forall_draw (fun t _ low high hle => (hg t low high hle).2) hparse h hgreatest

/-- Twenty-sided dice on their lowest and on their highest face, multiplied, divided and raised. -/
theorem total_mono_lowest_highest :
    Generator.lowest.InRange ∧
      Command.parse (.whole 1000) "/r 2d20 * 2d6 / 3 + 7".toList =
        .ok [⟨.add, .dice ⟨2, 20, none⟩⟩, ⟨.mul, .dice ⟨2, 6, none⟩⟩, ⟨.div, .literal 3⟩,
          ⟨.add, .literal 7⟩] ∧
      (evaluate .lowest (.whole 1000) "/r 2d20 * 2d6 / 3 + 7" ()).outcome =
        .ok ⟨8, "(1 + 1) * (1 + 1) / 3 + 7", some .failure⟩ ∧
      (evaluate .highest (.whole 1000) "/r 2d20 * 2d6 / 3 + 7" ()).outcome =
        .ok ⟨167, "(20 + 20) * (6 + 6) / 3 + 7", some .success⟩ ∧
      (∀ (i : Nat) (draw draw' : Draw),
        (draws .lowest (.whole 1000) "/r 2d20 * 2d6 / 3 + 7" ())[i]? = some draw →
        (draws .highest (.whole 1000) "/r 2d20 * 2d6 / 3 + 7" ())[i]? = some draw' →
          draw.answer ≤ draw'.answer) ∧
      (8 : Int) ≤ 167 := by
  have hparse : Command.parse (.whole 1000) "/r 2d20 * 2d6 / 3 + 7".toList =
      .ok [⟨.add, .dice ⟨2, 20, none⟩⟩, ⟨.mul, .dice ⟨2, 6, none⟩⟩, ⟨.div, .literal 3⟩,
        ⟨.add, .literal 7⟩] := by rfl
  have hrising : ∀ term ∈ ([⟨.mul, .dice ⟨2, 6, none⟩⟩, ⟨.div, .literal 3⟩,
      ⟨.add, .literal 7⟩] : List Term), term.operator = .add ∨ term.operator = .mul ∨
        term.operator = .div ∧ ∃ n, n ≠ 0 ∧ term.payload = .literal n := by
    simp
  have hlowest : (evaluate .lowest (.whole 1000) "/r 2d20 * 2d6 / 3 + 7" ()).outcome =
      .ok ⟨8, "(1 + 1) * (1 + 1) / 3 + 7", some .failure⟩ := by decide +kernel
  have hhighest : (evaluate .highest (.whole 1000) "/r 2d20 * 2d6 / 3 + 7" ()).outcome =
      .ok ⟨167, "(20 + 20) * (6 + 6) / 3 + 7", some .success⟩ := by decide +kernel
  have hdraws := atMost_of_forall_draw (fun _ _ _ _ hle => hle) hparse hlowest hhighest
  obtain ⟨hmono, -, -⟩ := total_mono Generator.inRange_lowest hparse hrising hlowest
  exact ⟨Generator.inRange_lowest, hparse, hlowest, hhighest, hdraws,
    hmono .highest () _ hhighest hdraws⟩

end ChatDice
