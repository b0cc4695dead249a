import ChatDice.Text.Blank
import Mathlib.Data.List.DropRight
import Mathlib.Data.List.TakeWhile

/-!
# What trimming takes away

`Blanks w` says that a text is nothing but blanks, and `Tight s` that a text neither begins nor ends
with one. Trimming splits every text in these terms, and in one way only:

* `exists_eq_append_trim`: a text is blanks, its trimmed form, and blanks again;
* `tight_trim`: the trimmed form is tight;
* `trim_append_append`: a tight text between blanks trims to itself.
-/

namespace ChatDice.Text

/-- A text of blanks only; it may be empty. -/
def Blanks (w : List Char) : Prop :=
  ∀ c ∈ w, isBlank c = true

/-- A text without blanks at its ends. -/
def Tight (s : List Char) : Prop :=
  (∀ c ∈ s.head?, isBlank c = false) ∧ ∀ c ∈ s.getLast?, isBlank c = false

instance (w : List Char) : Decidable (Blanks w) :=
  List.decidableBAll (fun c => isBlank c = true) w

/-- The empty text is blank. -/
@[simp] theorem blanks_nil : Blanks [] :=
  List.forall_mem_nil _

/-- A text is blank if its first character and the rest are. -/
@[simp] theorem blanks_cons {c : Char} {w : List Char} :
    Blanks (c :: w) ↔ isBlank c = true ∧ Blanks w :=
  List.forall_mem_cons

/-- Two texts together are blank if both are. -/
@[simp] theorem blanks_append {w₁ w₂ : List Char} : Blanks (w₁ ++ w₂) ↔ Blanks w₁ ∧ Blanks w₂ :=
  List.forall_mem_append

/-- The visible characters of ASCII are not blank. -/
theorem isBlank_eq_false_of_visible {c : Char} (h₁ : 0x21 ≤ c.toNat) (h₂ : c.toNat ≤ 0x7E) :
    isBlank c = false := by
  simp only [isBlank, Bool.or_eq_false_iff, Bool.and_eq_false_iff, decide_eq_false_iff_not,
    beq_eq_false_iff_ne]
  omega

/-- A digit is not blank. -/
theorem isBlank_eq_false_of_isDigit {c : Char} (h : c.isDigit = true) : isBlank c = false := by
  simp only [Char.isDigit, Bool.and_eq_true, decide_eq_true_eq, ge_iff_le, UInt32.le_iff_toNat_le]
    at h
  exact isBlank_eq_false_of_visible (le_trans (by decide) h.1) (le_trans h.2 (by decide))

/-! ### The cuts at one end -/

/-- Blanks at the front do not matter. -/
theorem trimStart_append {w : List Char} (hw : Blanks w) (s : List Char) :
    trimStart (w ++ s) = trimStart s :=
  List.dropWhile_append_of_pos hw

/-- A text that begins with no blank keeps its front. -/
theorem trimStart_eq_self {s : List Char} (hs : ∀ c ∈ s.head?, isBlank c = false) :
    trimStart s = s := by
  cases s with
  | nil => rfl
  | cons c s => exact trimStart_cons_of_not_blank (hs c rfl) s

/-- Blanks at the end do not matter. -/
theorem trimEnd_append {w : List Char} (hw : Blanks w) (s : List Char) :
    trimEnd (s ++ w) = trimEnd s := by
  unfold trimEnd
  rw [List.reverse_append, List.dropWhile_append_of_pos]
  intro c hc
  exact hw c (List.mem_reverse.mp hc)

/-- A text that ends in no blank keeps its end. -/
theorem trimEnd_eq_self {s : List Char} (hs : ∀ c ∈ s.getLast?, isBlank c = false) :
    trimEnd s = s := by
  have h : trimStart s.reverse = s.reverse := trimStart_eq_self (by simpa using hs)
  unfold trimEnd
  unfold trimStart at h
  rw [h, List.reverse_reverse]

/-- Nothing stays exactly of the blank texts. -/
theorem trimEnd_eq_nil_iff {s : List Char} : trimEnd s = [] ↔ Blanks s := by
  simp only [trimEnd, List.reverse_eq_nil_iff, List.dropWhile_eq_nil_iff, List.mem_reverse]
  rfl

/-- The cut at the end does not reach past a character that is not blank. -/
theorem trimEnd_append_of_not_blanks {t : List Char} (ht : ¬Blanks t) (s : List Char) :
    trimEnd (s ++ t) = s ++ trimEnd t := by
  have hne : t.reverse.dropWhile isBlank ≠ [] := fun h =>
    ht (trimEnd_eq_nil_iff.mp (List.reverse_eq_nil_iff.mpr h))
  rw [trimEnd, List.reverse_append, List.dropWhile_append, if_neg (by simpa using hne),
    List.reverse_append, List.reverse_reverse]
  rfl

/-- What the cut at the front takes away is blank. -/
theorem exists_eq_append_trimStart (s : List Char) : ∃ w, Blanks w ∧ s = w ++ trimStart s :=
  ⟨s.takeWhile isBlank, fun _ hc => List.mem_takeWhile_imp hc,
    List.takeWhile_append_dropWhile.symm⟩

/-- What the cut at the end takes away is blank. -/
theorem exists_eq_append_trimEnd (s : List Char) : ∃ w, Blanks w ∧ s = trimEnd s ++ w := by
  obtain ⟨w, hw, h⟩ := exists_eq_append_trimStart s.reverse
  refine ⟨w.reverse, fun c hc => hw c (List.mem_reverse.mp hc), ?_⟩
  rw [← List.reverse_inj, h]
  simp [trimEnd, trimStart]

/-- What stays begins with no blank. -/
theorem head?_trimStart (s : List Char) : ∀ c ∈ (trimStart s).head?, isBlank c = false := by
  intro c hc
  have h := List.head?_dropWhile_not isBlank s
  rw [show (s.dropWhile isBlank).head? = some c from hc] at h
  exact h

/-- What stays ends in no blank. -/
theorem getLast?_trimEnd (s : List Char) : ∀ c ∈ (trimEnd s).getLast?, isBlank c = false := by
  intro c hc
  apply head?_trimStart s.reverse
  simpa [trimEnd, trimStart] using hc

/-! ### Both ends -/

/-- The blanks at either end of a text, and what is between them. -/
theorem exists_eq_append_trim (s : List Char) :
    ∃ w₁ w₂, Blanks w₁ ∧ Blanks w₂ ∧ s = w₁ ++ (trim s ++ w₂) := by
  obtain ⟨w₁, hw₁, h₁⟩ := exists_eq_append_trimStart s
  obtain ⟨w₂, hw₂, h₂⟩ := exists_eq_append_trimEnd (trimStart s)
  refine ⟨w₁, w₂, hw₁, hw₂, ?_⟩
  rw [trim, ← h₂]
  exact h₁

/-- Cutting blanks off the end of a text leaves its first character, if there is still one. -/
theorem head?_trimEnd {s : List Char} {c : Char} (h : c ∈ (trimEnd s).head?) : c ∈ s.head? := by
  obtain ⟨w, -, hs⟩ := exists_eq_append_trimEnd s
  rw [hs, List.head?_append]
  simp only [Option.mem_def] at h ⊢
  simp [h]

/-- Trimming adds no characters. -/
theorem mem_of_mem_trim {s : List Char} {c : Char} (h : c ∈ trim s) : c ∈ s := by
  obtain ⟨w₁, w₂, -, -, hs⟩ := exists_eq_append_trim s
  rw [hs]
  exact List.mem_append_right _ (List.mem_append_left _ h)

/-- Trimming leaves nothing exactly of the blank texts. -/
theorem trim_eq_nil_iff {s : List Char} : trim s = [] ↔ Blanks s := by
  constructor
  · intro h
    obtain ⟨w₁, w₂, hw₁, hw₂, hs⟩ := exists_eq_append_trim s
    rw [hs, h]
    exact blanks_append.mpr ⟨hw₁, hw₂⟩
  · intro h
    rw [trim, ← List.append_nil s, trimStart_append h, trimStart_nil, trimEnd_nil]

/-- What trimming leaves is tight. -/
theorem tight_trim (s : List Char) : Tight (trim s) :=
  ⟨fun c hc => head?_trimStart s c (head?_trimEnd hc), getLast?_trimEnd (trimStart s)⟩

/-- A tight text is what trimming leaves of it, whatever blanks stand around it. -/
theorem trim_append_append {w₁ s w₂ : List Char} (hw₁ : Blanks w₁) (hs : Tight s)
    (hw₂ : Blanks w₂) : trim (w₁ ++ (s ++ w₂)) = s := by
  rw [trim, trimStart_append hw₁]
  cases s with
  | nil =>
    have h : trimStart w₂ = [] := by simpa using trimStart_append hw₂ []
    rw [List.nil_append, h, trimEnd_nil]
  | cons c s =>
    rw [List.cons_append, trimStart_cons_of_not_blank (hs.1 c rfl), ← List.cons_append,
      trimEnd_append hw₂, trimEnd_eq_self hs.2]

/-- Trimming leaves a tight text as it is. -/
theorem trim_eq_self {s : List Char} (hs : Tight s) : trim s = s := by
  simpa using trim_append_append blanks_nil hs blanks_nil

/-- A text without any blanks is tight. -/
theorem Tight.of_forall {s : List Char} (h : ∀ c ∈ s, isBlank c = false) : Tight s :=
  ⟨fun c hc => h c (List.mem_of_mem_head? hc), fun c hc => h c (List.mem_of_getLast? hc)⟩

/-- Blanks at the front of a tight text are none. -/
theorem eq_nil_of_tight_append_left {w s : List Char} (hw : Blanks w) (h : Tight (w ++ s)) :
    w = [] := by
  cases w with
  | nil => rfl
  | cons c w =>
    have hc := h.1 c rfl
    rw [(blanks_cons.mp hw).1] at hc
    cases hc

/-- Blanks at the end of a tight text are none. -/
theorem eq_nil_of_tight_append_right {s w : List Char} (hw : Blanks w) (h : Tight (s ++ w)) :
    w = [] := by
  by_contra hne
  have hlast : w.getLast hne ∈ (s ++ w).getLast? := by
    rw [List.getLast?_append_of_ne_nil _ hne, List.getLast?_eq_getLast_of_ne_nil hne]
    rfl
  have hc := h.2 _ hlast
  rw [hw _ (List.getLast_mem hne)] at hc
  cases hc

/-- A text keeps its right end when something that does not begin with a blank is put before it. -/
theorem Tight.append {s t : List Char} (hs : ∀ c ∈ s.head?, isBlank c = false) (hne : s ≠ [])
    (hne' : t ≠ []) (ht : ∀ c ∈ t.getLast?, isBlank c = false) : Tight (s ++ t) := by
  constructor
  · rwa [List.head?_append_of_ne_nil _ hne]
  · rwa [List.getLast?_append_of_ne_nil _ hne']

end ChatDice.Text
