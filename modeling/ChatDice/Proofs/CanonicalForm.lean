import ChatDice.Proofs.LeftToRight

/-!
# The canonical form of a calculation

A command without dice is a calculation with numbers, and nothing about it is left to chance: it
comes to the same whatever generator is asked (`outcome_tally_of_literals`).

Its breakdown spells it. The first term writes its number (`Tally.rewrites_of_add_empty`), every
further term writes its sign between single blanks and its number after what is there
(`Tally.Rewrites.add`), and so do all terms of a command one after another
(`Tally.Rewrites.tally`). Of the numbers only the leading zeros of the command are gone, so each is
in range as it was.

Main statement (`breakdown_is_canonical`): after a command word, the breakdown is read as the same
terms and evaluated to the same result. So it is a command for the calculation, the one without
spare blanks and zeros.
-/

namespace ChatDice

open Command (SpellsPayload SpellsTerms parse)
open Numeral (capped)

/-- A payload that is a number. -/
def Payload.IsLiteral (p : Payload) : Prop :=
  ∃ n, p = .literal n

/-- A literal in range is spelled by its decimal digits. -/
theorem Payload.spellsPayload_toString {limit : Limit} {n : Int}
    (h : (literal n).WellFormed limit) :
    SpellsPayload capped (toString n).toList (.literal n) := by
  obtain ⟨hnonneg, hlt⟩ := h
  obtain ⟨k, rfl⟩ := Int.eq_ofNat_of_zero_le hnonneg
  have hvalue := Numeral.value_toDigits k
  have hcap : Numeral.value (Nat.toDigits 10 k) < Numeral.cap := by
    rw [hvalue]
    exact Int.ofNat_lt.mp hlt
  have hspells : SpellsPayload capped (Nat.toDigits 10 k)
      (.literal (Numeral.value (Nat.toDigits 10 k))) :=
    .literal (Numeral.isNumeral_toDigits k) hcap
  rw [hvalue] at hspells
  rw [Numeral.toList_toString_natCast]
  exact hspells

/-! ### Breakdowns that spell -/

variable {σ τ : Type} {g : Generator σ} {g' : Generator τ} {limit : Limit}

namespace Tally

/-- An account of numbers whose breakdown spells them. -/
structure Rewrites (account : Tally) (terms : List Term) : Prop where
  /-- Numbers are never outstanding. -/
  critical : account.critical = none
  /-- The breakdown spells the terms. -/
  breakdown : ∃ text, account.breakdown = some text ∧ SpellsTerms capped text.toList terms

variable {account next : Tally} {terms : List Term} {n : Int}

/-- The first number is the whole breakdown. -/
theorem rewrites_of_add_empty (hn : (Payload.literal n).WellFormed limit) {s : σ}
    (h : empty.add .add ((Payload.literal n).appraise g s).1 = .ok next) :
    next.Rewrites [⟨.add, .literal n⟩] := by
  obtain ⟨shown, hshown, -, hbreakdown, hcritical⟩ := exists_of_add_eq_ok h
  obtain rfl : shown = toString n := (compose_eq_ok_iff.mp hshown).2
  exact ⟨hcritical, _, hbreakdown, .first (Payload.spellsPayload_toString hn)⟩

/-- Every further number writes its sign and itself after the breakdown, with single blanks. -/
theorem Rewrites.add (haccount : account.Rewrites terms) {operator : Operator}
    (hmem : operator ∈ [Operator.add, .sub, .mul, .div])
    (hn : (Payload.literal n).WellFormed limit) {s : σ}
    (h : account.add operator ((Payload.literal n).appraise g s).1 = .ok next) :
    next.Rewrites (terms ++ [⟨operator, .literal n⟩]) := by
  obtain ⟨hcritical, text, hbreakdown, hspells⟩ := haccount
  obtain ⟨sign, hsign, hof⟩ := Operator.exists_sign_eq_singleton hmem
  have hblank : Text.Blanks [' '] := by decide
  obtain ⟨shown, hshown, -, hnext, hnextCritical⟩ := exists_of_add_eq_ok h
  obtain rfl : shown = toString n := (compose_eq_ok_iff.mp hshown).2
  refine ⟨?_, _, hnext, ?_⟩
  · rw [hnextCritical]
    exact hcritical
  · have htext : (extend operator (toString n) account.breakdown).toList =
        text.toList ++ ([' '] ++ sign :: ([' '] ++ (toString n).toList)) := by
      simp [hbreakdown, extend, hsign]
    show SpellsTerms capped (extend operator (toString n) account.breakdown).toList _
    rw [htext]
    exact hspells.next hblank hof hblank (Payload.spellsPayload_toString hn) trivial

/-- Numbers in range go on spelling what the account has spelled already. -/
theorem Rewrites.tally {more : List Term} (haccount : account.Rewrites terms)
    (hmem : ∀ term ∈ more, term.operator ∈ [Operator.add, .sub, .mul, .div])
    (hliteral : ∀ term ∈ more, term.payload.IsLiteral)
    (hpayload : ∀ term ∈ more, term.payload.WellFormed limit) {s : σ} {final : Tally}
    (h : (ChatDice.tally g more account s).outcome = .ok final) :
    final.Rewrites (terms ++ more) := by
  induction more generalizing account terms s with
  | nil =>
    cases h
    rwa [List.append_nil]
  | cons term more ih =>
    obtain ⟨⟨n, hn⟩, hliterals⟩ := List.forall_mem_cons.mp hliteral
    obtain ⟨hp, hpayloads⟩ := List.forall_mem_cons.mp hpayload
    obtain ⟨hoperator, hoperators⟩ := List.forall_mem_cons.mp hmem
    obtain ⟨operator, p⟩ := term
    obtain rfl : p = .literal n := hn
    rw [outcome_tally_cons] at h
    obtain ⟨next, hadd, hrest⟩ := bind_eq_ok_iff.mp h
    have hnext := haccount.add hoperator hp hadd
    rw [List.append_cons]
    exact ih hnext hoperators hliterals hpayloads hrest

end Tally

/-- Numbers that are evaluated from the beginning are spelled by the breakdown. -/
theorem rewrites_tally {terms : List Term} (hterms : WellFormed limit terms)
    (hliteral : ∀ term ∈ terms, term.payload.IsLiteral) {s : σ} {final : Tally}
    (h : (tally g terms .empty s).outcome = .ok final) : final.Rewrites terms := by
  cases terms with
  | nil => exact absurd rfl hterms.ne_nil
  | cons term terms =>
    obtain ⟨⟨n, hn⟩, hliterals⟩ := List.forall_mem_cons.mp hliteral
    obtain ⟨hp, hpayloads⟩ := List.forall_mem_cons.mp hterms.payload
    have hoperators := (List.forall_mem_cons.mp hterms.operator_mem).2
    obtain ⟨operator, p⟩ := term
    obtain rfl : p = .literal n := hn
    obtain rfl : operator = .add := hterms.head_add _ rfl
    rw [outcome_tally_cons] at h
    obtain ⟨next, hadd, hrest⟩ := bind_eq_ok_iff.mp h
    have hnext := Tally.rewrites_of_add_empty hp hadd
    exact hnext.tally hoperators hliterals hpayloads hrest

/-! ### Nothing left to chance -/

/-- Numbers are combined alike whatever generator stands by. -/
theorem outcome_tally_of_literals {terms : List Term}
    (h : ∀ term ∈ terms, term.payload.IsLiteral) (account : Tally) (s : σ) (s' : τ) :
    (tally g terms account s).outcome = (tally g' terms account s').outcome := by
  induction terms generalizing account with
  | nil => rfl
  | cons term terms ih =>
    obtain ⟨⟨n, hn⟩, hterms⟩ := List.forall_mem_cons.mp h
    rw [outcome_tally_cons, outcome_tally_cons, hn]
    exact congrArg _ (funext fun next => ih hterms next)

/-- The result of a list of terms is settled by their account. -/
theorem outcome_evaluateTerms_congr {terms : List Term} {s : σ} {s' : τ}
    (h : (tally g terms .empty s).outcome = (tally g' terms .empty s').outcome) :
    (evaluateTerms g terms s).outcome = (evaluateTerms g' terms s').outcome := by
  unfold evaluateTerms
  dsimp only
  rw [h]
  cases (tally g' terms .empty s').outcome with
  | error failure => rfl
  | ok account =>
    dsimp only
    cases account.result.printTotal <;> rfl

/-! ### Commands -/

/-- An expression after a command word and a blank is a command, and literals are in range of every
limit. -/
theorem parse_append_of_literals {expr : String} {terms : List Term}
    (h : SpellsTerms capped expr.toList terms)
    (hliteral : ∀ term ∈ terms, term.payload.IsLiteral) (limit : Limit) :
    parse limit ("/r " ++ expr).toList = .ok terms := by
  have hblank : Text.Blanks [' '] := by decide
  have hword : ['r'].map Char.toLower ∈ Command.words := by decide
  have hinvokes := Command.Invokes.intro Text.blanks_nil hword (List.cons_ne_nil ' ' []) hblank
    h.ne_nil h.tight Text.blanks_nil
  have htext : ("/r " ++ expr).toList = [] ++ '/' :: (['r'] ++ ([' '] ++ (expr.toList ++ []))) := by
    simp
  rw [htext]
  refine Command.parse_eq_ok_iff.mpr
    (Command.parseWith_eq_ok_iff.mpr ⟨⟨expr.toList, hinvokes, h⟩, ?_⟩)
  intro term hterm
  obtain ⟨n, hn⟩ := hliteral term hterm
  simp only [Command.checkTerm, hn]

/-- **The breakdown of a calculation is a command for it.** Whenever a command that has no dice
gives a result, no roll in it is outstanding, and its breakdown after `/r` is read, under any limit,
as the same terms in the same order. Whatever generator then stands by, the result is the same in
all its parts. -/
theorem breakdown_is_canonical {command : String} {terms : List Term}
    (hparse : parse limit command.toList = .ok terms)
    (hliteral : ∀ term ∈ terms, term.payload.IsLiteral) {s : σ} {result : RollResult}
    (h : (evaluate g limit command s).outcome = .ok result) :
    result.critical = none ∧
      (∀ limit' : Limit, parse limit' ("/r " ++ result.breakdown).toList = .ok terms) ∧
      ∀ {τ : Type} (g' : Generator τ) (limit' : Limit) (s' : τ),
        (evaluate g' limit' ("/r " ++ result.breakdown) s').outcome = .ok result := by
  rw [outcome_evaluate_of_parse hparse] at h
  obtain ⟨account, htally, hresult⟩ := exists_account_of_evaluateTerms h
  obtain ⟨hcritical, text, hbreakdown, hspells⟩ :=
    rewrites_tally (Command.wellFormed_of_parse hparse) hliteral htally
  have htext : result.breakdown = text := by
    rw [hresult, Tally.result, hbreakdown]
    rfl
  have hread (limit' : Limit) : parse limit' ("/r " ++ result.breakdown).toList = .ok terms := by
    rw [htext]
    exact parse_append_of_literals hspells hliteral limit'
  refine ⟨?_, hread, fun g' limit' s' => ?_⟩
  · rw [hresult]
    exact hcritical
  · have hsame : (tally g' terms .empty s').outcome = (tally g terms .empty s).outcome :=
      outcome_tally_of_literals hliteral .empty s' s
    rw [outcome_evaluate_of_parse (hread limit'), outcome_evaluateTerms_congr hsame, h]

/-- Spare blanks and zeros are gone from the canonical form. -/
theorem breakdown_is_canonical_spare :
    parse (.whole 1000) "  /ROLAR 007+ 2 *03/2 -0  ".toList =
        .ok [⟨.add, .literal 7⟩, ⟨.add, .literal 2⟩, ⟨.mul, .literal 3⟩, ⟨.div, .literal 2⟩,
          ⟨.sub, .literal 0⟩] ∧
      (evaluate .highest (.whole 1000) "  /ROLAR 007+ 2 *03/2 -0  " ()).outcome =
        .ok ⟨13, "7 + 2 * 3 / 2 - 0", none⟩ ∧
      (evaluate (.scripted #[]) (.whole 1) "/r 7 + 2 * 3 / 2 - 0" 0).outcome =
        .ok ⟨13, "7 + 2 * 3 / 2 - 0", none⟩ := by
  have hparse : parse (.whole 1000) "  /ROLAR 007+ 2 *03/2 -0  ".toList =
      .ok [⟨.add, .literal 7⟩, ⟨.add, .literal 2⟩, ⟨.mul, .literal 3⟩, ⟨.div, .literal 2⟩,
        ⟨.sub, .literal 0⟩] := by rfl
  have heval : (evaluate .highest (.whole 1000) "  /ROLAR 007+ 2 *03/2 -0  " ()).outcome =
      .ok ⟨13, "7 + 2 * 3 / 2 - 0", none⟩ := by
    decide +kernel
  have hliteral : ∀ term ∈ ([⟨.add, .literal 7⟩, ⟨.add, .literal 2⟩, ⟨.mul, .literal 3⟩,
      ⟨.div, .literal 2⟩, ⟨.sub, .literal 0⟩] : List Term), term.payload.IsLiteral := by
    simp [Payload.IsLiteral]
  obtain ⟨-, -, hagain⟩ := breakdown_is_canonical hparse hliteral heval
  exact ⟨hparse, heval, hagain (.scripted #[]) (.whole 1) 0⟩

end ChatDice
