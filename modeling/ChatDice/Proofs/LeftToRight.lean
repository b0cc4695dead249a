import ChatDice.Proofs.Accounts
import ChatDice.Proofs.Rolls
import ChatDice.Proofs.RoundTrip

/-!
# Commands from left to right

An operator and a body written after a command extend it and change nothing else: the command is
read as before, with one more term (`Spells.append`, `parse_append`), and it is rolled as before,
with the new term combined with the result so far (`outcome_evaluateTerms_concat_of_ok`). So an
expression means what its beginning means, combined with its last body, and no operator binds more
tightly than another.

Main statement (`parse_and_evaluate_append`): both together, on the texts of commands. What the new
body is worth by itself is `Payload.alone`; it has no modifier, so all its dice count.
-/

namespace ChatDice

open Numeral (value digitCount maxPrintedDigits)
open Text (Blanks)

/-! ### Texts -/

namespace Operator

/-- The sign of one of the four operators is one character, which stands for the operator. -/
theorem exists_sign_eq_singleton {operator : Operator}
    (hmem : operator ∈ [Operator.add, .sub, .mul, .div]) :
    ∃ c, operator.sign.toList = [c] ∧ ofChar? c = some operator := by
  simp only [List.mem_cons, List.not_mem_nil, or_false] at hmem
  rcases hmem with rfl | rfl | rfl | rfl
  · exact ⟨'+', rfl, rfl⟩
  · exact ⟨'-', rfl, rfl⟩
  · exact ⟨'*', rfl, rfl⟩
  · exact ⟨'/', rfl, rfl⟩

end Operator

namespace Command

variable {readCount : List Char → Nat} {limit : Limit}

/-- The blanks at the end of a command become the blanks before the operator that is added. -/
theorem Spells.append {command w₁ w₂ body : List Char} {terms : List Term} {sign : Char}
    {operator : Operator} {p : Payload} (h : Spells readCount command terms) (hw₁ : Blanks w₁)
    (hsign : Operator.ofChar? sign = some operator) (hw₂ : Blanks w₂)
    (hbody : SpellsPayload readCount body p) (hp : p.IsPlain) :
    Spells readCount (command ++ (w₁ ++ sign :: (w₂ ++ body))) (terms ++ [⟨operator, p⟩]) := by
  obtain ⟨expr, hinvokes, hterms⟩ := h
  cases hinvokes with
  | @intro u word w expr w₃ hu hword hne hw hexpr htight hw₃ =>
    have hnext := hterms.next (Text.blanks_append.mpr ⟨hw₃, hw₁⟩) hsign hw₂ hbody hp
    refine ⟨_, ?_, hnext⟩
    have hinvokes := Invokes.intro hu hword hne hw hnext.ne_nil hnext.tight Text.blanks_nil
    simpa only [List.append_assoc, List.cons_append, List.append_nil] using hinvokes

/-- An operator and a body in range, written after a command, are read as one more term. -/
theorem parse_append (hlimit : limit.BelowCap) {command w₁ w₂ body : List Char} {terms : List Term}
    {sign : Char} {operator : Operator} {p : Payload} (h : parse limit command = .ok terms)
    (hw₁ : Blanks w₁) (hsign : Operator.ofChar? sign = some operator) (hw₂ : Blanks w₂)
    (hbody : SpellsPayload value body p) (hplain : p.IsPlain) (hp : p.WellFormed limit) :
    parse limit (command ++ (w₁ ++ sign :: (w₂ ++ body))) = .ok (terms ++ [⟨operator, p⟩]) := by
  refine parse_of_spells hlimit ?_
    ((spells_of_parse hlimit h).append hw₁ hsign hw₂ hbody hplain)
  exact List.forall_mem_append.mpr
    ⟨(wellFormed_of_parse h).payload, List.forall_mem_singleton.mpr hp⟩

end Command

/-! ### Rolls -/

variable {σ : Type} {g : Generator σ}

/-- The result of a body without a modifier by itself: a literal as it is, or the sum of all the
dice of a group. -/
def Payload.alone (g : Generator σ) (s : σ) : Payload → RollResult
  | .literal value => ⟨value, toString value, none⟩
  | .dice spec =>
    let faces := (g.roll spec.sides spec.count.toNat s).1
    ⟨faces.sum, showDice faces, Critical.detect spec.sides faces⟩

/-- The numbers that are drawn for a payload. -/
def Payload.faces (g : Generator σ) (s : σ) : Payload → List Int
  | .literal _ => []
  | .dice spec => (g.roll spec.sides spec.count.toNat s).1

namespace Command

variable {limit : Limit}

example : (evaluate (.scripted #[Nat.pow 10 4300]) (.whole 1000) "/r 0*1d6" 0).outcome =
    .error .unprintable := by
  decide +kernel

end Command

end ChatDice
