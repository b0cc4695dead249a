import ChatDice.Command.Terms
import ChatDice.Proofs.Numerals

/-!
# How terms are spelled

The relations of this file say which texts stand for which terms. They are written down without the
readers: a text is put together from its parts, left to right, and its meaning along with it.

* `SpellsCount` and `SpellsModifier`: the optional parts of a group of dice;
* `SpellsPayload`: the body of one term;
* `SpellsTerms`: an expression, one operator and one body at a time;
* `Invokes`: a command with its expression, and `Spells`: a command with its terms.

A term list has many spellings, since blanks, leading zeros, letter case and a count of one are left
to whoever writes. The worth of a count is a parameter, `readCount`, as it is for the readers:
`Numeral.value` is what the digits say, `Numeral.capped` what the reader of commands makes of them.
-/

namespace ChatDice

/-- A payload without a modifier. -/
def Payload.IsPlain : Payload → Prop
  | .dice spec => spec.modifier = none
  | .literal _ => True

namespace Command

open Numeral (IsNumeral Digits cap value)
open Text (Blanks Tight isBlank)

variable (readCount : List Char → Nat)

/-- The text of a count: nothing, which stands for one, or a numeral. -/
inductive SpellsCount : List Char → Int → Prop
  | omitted : SpellsCount [] 1
  | written {digits : List Char} (h : IsNumeral digits) : SpellsCount digits (readCount digits)

/-- The text of a modifier: nothing, or the letters of its kind with a numeral. -/
inductive SpellsModifier : List Char → Option Modifier → Prop
  | absent : SpellsModifier [] none
  | present (kind : ModifierKind) {digits : List Char} (h : IsNumeral digits) :
      SpellsModifier (kind.letters ++ digits) (some ⟨kind, readCount digits⟩)

/-- The body of a term: a literal, or a group of dice. -/
inductive SpellsPayload : List Char → Payload → Prop
  | literal {digits : List Char} (h : IsNumeral digits) (hlt : value digits < cap) :
      SpellsPayload digits (.literal (value digits))
  | dice {count sides rest : List Char} {c : Char} {n : Int} {m : Option Modifier}
      (hcount : SpellsCount readCount count n) (hc : isSeparator c = true)
      (hsides : IsNumeral sides) (hlt : value sides < cap)
      (hrest : SpellsModifier readCount rest m) :
      SpellsPayload (count ++ c :: (sides ++ rest)) (.dice ⟨n, value sides, m⟩)

/-- An expression: a body, then operators with bodies that have no modifier. Blanks may stand on
both sides of an operator. -/
inductive SpellsTerms : List Char → List Term → Prop
  | first {body : List Char} {p : Payload} (hbody : SpellsPayload readCount body p) :
      SpellsTerms body [⟨.add, p⟩]
  | next {expr w₁ w₂ body : List Char} {terms : List Term} {sign : Char} {operator : Operator}
      {p : Payload} (h : SpellsTerms expr terms) (hw₁ : Blanks w₁)
      (hsign : Operator.ofChar? sign = some operator) (hw₂ : Blanks w₂)
      (hbody : SpellsPayload readCount body p) (hp : p.IsPlain) :
      SpellsTerms (expr ++ (w₁ ++ sign :: (w₂ ++ body))) (terms ++ [⟨operator, p⟩])

/-- A command with its expression: the slash and a command word in any case, at least one blank, and
the expression. Blanks may stand before and after all of it. -/
inductive Invokes : List Char → List Char → Prop
  | intro {w₁ word w₂ expr w₃ : List Char} (hw₁ : Blanks w₁)
      (hword : word.map Char.toLower ∈ words) (hne : w₂ ≠ []) (hw₂ : Blanks w₂)
      (hexpr : expr ≠ []) (htight : Tight expr) (hw₃ : Blanks w₃) :
      Invokes (w₁ ++ '/' :: (word ++ (w₂ ++ (expr ++ w₃)))) expr

/-- A command with its terms. -/
def Spells (command : List Char) (terms : List Term) : Prop :=
  ∃ expr, Invokes command expr ∧ SpellsTerms readCount expr terms

variable {readCount}

/-! ### The characters of a body -/

/-- The characters that bodies are made of. -/
def isBodyChar (c : Char) : Bool :=
  c.isDigit || isSeparator c || isModifierLetter c

/-- A count is spelled with digits, or with nothing. -/
theorem SpellsCount.digits {text : List Char} {n : Int} (h : SpellsCount readCount text n) :
    Digits text := by
  cases h with
  | omitted => exact Numeral.digits_nil
  | written h => exact h.digits

/-- The letters of a modifier are modifier letters. -/
theorem isModifierLetter_of_mem_letters {kind : ModifierKind} :
    ∀ c ∈ kind.letters, isModifierLetter c = true := by
  apply List.all_eq_true.mp
  cases kind <;> rfl

/-- A modifier is made of characters of a body. -/
theorem SpellsModifier.forall_isBodyChar {text : List Char} {m : Option Modifier}
    (h : SpellsModifier readCount text m) : ∀ c ∈ text, isBodyChar c = true := by
  cases h with
  | absent => exact List.forall_mem_nil _
  | present kind h =>
    intro c hc
    rcases List.mem_append.mp hc with hc | hc
    · simp [isBodyChar, isModifierLetter_of_mem_letters c hc]
    · simp [isBodyChar, h.digits c hc]

/-- A body is made of characters of a body. -/
theorem SpellsPayload.forall_isBodyChar {body : List Char} {p : Payload}
    (h : SpellsPayload readCount body p) : ∀ c ∈ body, isBodyChar c = true := by
  intro c hc
  cases h with
  | literal h hlt => simp [isBodyChar, h.digits c hc]
  | dice hcount hsep hsides hlt hrest =>
    rcases List.mem_append.mp hc with hc | hc
    · simp [isBodyChar, hcount.digits c hc]
    rcases List.mem_cons.mp hc with rfl | hc
    · simp [isBodyChar, hsep]
    rcases List.mem_append.mp hc with hc | hc
    · simp [isBodyChar, hsides.digits c hc]
    · exact hrest.forall_isBodyChar c hc

/-- No payload is spelled with nothing. -/
theorem SpellsPayload.ne_nil {body : List Char} {p : Payload}
    (h : SpellsPayload readCount body p) : body ≠ [] := by
  cases h with
  | literal h hlt => exact h.ne_nil
  | dice => simp

/-- No character of a body is a blank. -/
theorem isBlank_eq_false_of_isBodyChar {c : Char} (h : isBodyChar c = true) :
    isBlank c = false := by
  simp only [isBodyChar, isSeparator, isModifierLetter, Bool.or_eq_true, beq_iff_eq] at h
  rcases h with (h | rfl | rfl) | (rfl | rfl) | rfl
  · exact Text.isBlank_eq_false_of_isDigit h
  all_goals rfl

/-- A body is tight: it has no blank at all. -/
theorem SpellsPayload.tight {body : List Char} {p : Payload} (h : SpellsPayload readCount body p) :
    Tight body :=
  Text.Tight.of_forall fun c hc => isBlank_eq_false_of_isBodyChar (h.forall_isBodyChar c hc)

/-! ### The signs of operators -/

/-- There are four signs. -/
theorem isSign_iff {c : Char} :
    Operator.isSign c = true ↔ c = '+' ∨ c = '-' ∨ c = '*' ∨ c = '/' := by
  constructor
  · intro h
    unfold Operator.isSign Operator.ofChar? at h
    split at h <;> simp_all
  · rintro (rfl | rfl | rfl | rfl) <;> rfl

/-- A body contains no sign. -/
theorem SpellsPayload.forall_isSign_eq_false {body : List Char} {p : Payload}
    (h : SpellsPayload readCount body p) : ∀ c ∈ body, Operator.isSign c = false := by
  intro c hc
  have hb := h.forall_isBodyChar c hc
  rw [← Bool.not_eq_true, isSign_iff]
  rintro (rfl | rfl | rfl | rfl) <;> exact absurd hb (by decide)

/-- A blank is no sign. -/
theorem isSign_eq_false_of_isBlank {c : Char} (h : isBlank c = true) :
    Operator.isSign c = false := by
  rw [← Bool.not_eq_true, isSign_iff]
  rintro (rfl | rfl | rfl | rfl) <;> exact absurd h (by decide)

/-! ### Expressions -/

/-- No terms are spelled with nothing. -/
theorem SpellsTerms.ne_nil {expr : List Char} {terms : List Term}
    (h : SpellsTerms readCount expr terms) : expr ≠ [] := by
  cases h with
  | first hbody => exact hbody.ne_nil
  | next => simp

/-- An expression begins with its first body and ends with its last one. -/
theorem SpellsTerms.tight {expr : List Char} {terms : List Term}
    (h : SpellsTerms readCount expr terms) : Tight expr := by
  induction h with
  | first hbody => exact hbody.tight
  | @next expr w₁ w₂ body terms sign operator p h _ _ _ hbody _ ih =>
    rw [show expr ++ (w₁ ++ sign :: (w₂ ++ body)) = expr ++ (w₁ ++ sign :: w₂) ++ body by simp]
    refine Text.Tight.append ?_ (by simp) hbody.ne_nil hbody.tight.2
    rw [List.head?_append_of_ne_nil _ h.ne_nil]
    exact ih.1

end Command

end ChatDice
