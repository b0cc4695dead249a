import ChatDice.Proofs.CommandReading
import Mathlib.Computability.Language

/-!
# The grammar of commands

The commands as a language, written with the operations on languages only: `1` is the empty text,
`+` a choice, `*` one text after another and `∗` any number of repetitions.

Main statement (`validate_decides_commands`): of every text, `validate` says whether it belongs to
this language once its leading blanks are dropped. The grammar and the spellings of
`ChatDice.Proofs.Spelling` describe the same texts: what the grammar repeats, a spelling puts
together step by step.
-/

namespace ChatDice.Command

open Numeral (IsNumeral Digits cap value)
open Text (Blanks Tight isBlank trimStart)
open Computability

namespace Grammar

/-- One character of a kind. -/
def one (kind : Char → Bool) : Language Char :=
  {s | ∃ c, kind c = true ∧ s = [c]}

/-- A blank. -/
def blank : Language Char :=
  one isBlank

/-- Decimal digits, at least one of them. -/
def numeral : Language Char :=
  one Char.isDigit * (one Char.isDigit)∗

/-- A numeral with at most nine digits after its leading zeros. -/
def shortNumeral : Language Char :=
  {s | s ∈ numeral ∧ (s.dropWhile (· == '0')).length ≤ 9}

/-- The slash and a command word in any case. -/
def word : Language Char :=
  {s | ∃ w, s = '/' :: w ∧ (w.map Char.toLower = "r".toList ∨ w.map Char.toLower = "rolar".toList)}

/-- A sign. -/
def sign : Language Char :=
  {['+'], ['-'], ['*'], ['/']}

/-- Dice without a modifier: `count? d sides`. -/
def dice : Language Char :=
  (1 + numeral) * {['d'], ['D']} * shortNumeral

/-- Letters and a numeral. -/
def modifier : Language Char :=
  {['m'], ['m', 'm'], ['s', 'M'], ['s', 'm']} * numeral

/-- The first term. -/
def first : Language Char :=
  dice * (1 + modifier) + shortNumeral

/-- A term after the first. -/
def next : Language Char :=
  dice + shortNumeral

/-- The commands that begin with no blank. -/
def commands : Language Char :=
  word * (blank * blank∗) * first * (blank∗ * sign * blank∗ * next)∗ * blank∗

/-! ### Characters and numerals -/

/-- Repeated characters of a kind are the texts of that kind. -/
theorem mem_kstar_one_iff {kind : Char → Bool} {s : List Char} :
    s ∈ (one kind)∗ ↔ ∀ c ∈ s, kind c = true := by
  rw [Language.mem_kstar]
  constructor
  · rintro ⟨L, rfl, hL⟩ c hc
    obtain ⟨t, ht, hct⟩ := List.mem_flatten.mp hc
    obtain ⟨d, hd, rfl⟩ := hL t ht
    rwa [List.mem_singleton.mp hct]
  · intro h
    refine ⟨s.map fun c => [c], by rw [← List.flatMap_def, List.flatMap_singleton'], ?_⟩
    intro t ht
    obtain ⟨c, hc, rfl⟩ := List.mem_map.mp ht
    exact ⟨c, h c hc, rfl⟩

/-- One or more characters of a kind. -/
theorem mem_one_mul_kstar_iff {kind : Char → Bool} {s : List Char} :
    s ∈ one kind * (one kind)∗ ↔ s ≠ [] ∧ ∀ c ∈ s, kind c = true := by
  rw [Language.mem_mul]
  constructor
  · rintro ⟨_, ⟨c, hc, rfl⟩, t, ht, rfl⟩
    exact ⟨List.cons_ne_nil _ _, List.forall_mem_cons.mpr ⟨hc, mem_kstar_one_iff.mp ht⟩⟩
  · rintro ⟨hne, h⟩
    cases s with
    | nil => exact absurd rfl hne
    | cons c s =>
      obtain ⟨hc, hs⟩ := List.forall_mem_cons.mp h
      exact ⟨[c], ⟨c, hc, rfl⟩, s, mem_kstar_one_iff.mpr hs, rfl⟩

/-- The language of numerals is that of the reader. -/
theorem mem_numeral_iff {s : List Char} : s ∈ numeral ↔ IsNumeral s := by
  rw [numeral, mem_one_mul_kstar_iff, Numeral.isNumeral_iff]
  rfl

/-- At most nine digits count exactly in the numerals below the cap. -/
theorem mem_shortNumeral_iff {s : List Char} : s ∈ shortNumeral ↔ IsNumeral s ∧ value s < cap := by
  show s ∈ numeral ∧ _ ↔ _
  rw [mem_numeral_iff]
  refine and_congr_right fun h => ?_
  rw [← Numeral.length_significant_le_maxDigits_iff h.digits]
  cases hd : s.dropWhile (· == '0') with
  | nil => rw [Numeral.significant_of_eq_nil hd]; decide
  | cons c rest => rw [Numeral.significant_of_eq_cons hd]; rfl

/-- The signs are the characters that stand for operators. -/
theorem mem_sign_iff {s : List Char} :
    s ∈ sign ↔ ∃ c operator, Operator.ofChar? c = some operator ∧ s = [c] := by
  constructor
  · rintro (rfl | rfl | rfl | rfl)
    exacts [⟨_, .add, rfl, rfl⟩, ⟨_, .sub, rfl, rfl⟩, ⟨_, .mul, rfl, rfl⟩, ⟨_, .div, rfl, rfl⟩]
  · rintro ⟨c, operator, h, rfl⟩
    have hc : Operator.isSign c = true := by rw [Operator.isSign, h]; rfl
    rcases isSign_iff.mp hc with rfl | rfl | rfl | rfl
    exacts [.inl rfl, .inr (.inl rfl), .inr (.inr (.inl rfl)), .inr (.inr (.inr rfl))]

/-! ### Terms -/

variable (readCount : List Char → Nat)

/-- The counts of the grammar are those that are spelled. -/
theorem mem_count_iff {s : List Char} : s ∈ 1 + numeral ↔ ∃ n, SpellsCount readCount s n := by
  rw [Language.mem_add, Language.mem_one, mem_numeral_iff]
  constructor
  · rintro (rfl | h)
    · exact ⟨1, .omitted⟩
    · exact ⟨_, .written h⟩
  · rintro ⟨n, _ | h⟩
    · exact .inl rfl
    · exact .inr h

/-- So are its modifiers. -/
theorem mem_modifier_iff {s : List Char} :
    s ∈ 1 + modifier ↔ ∃ m, SpellsModifier readCount s m := by
  rw [Language.mem_add, Language.mem_one, modifier, Language.mem_mul]
  constructor
  · rintro (rfl | ⟨letters, hletters, digits, hdigits, rfl⟩)
    · exact ⟨none, .absent⟩
    · have h := mem_numeral_iff.mp hdigits
      rcases hletters with rfl | rfl | rfl | rfl
      exacts [⟨_, .present .keepHighest h⟩, ⟨_, .present .keepLowest h⟩,
        ⟨_, .present .dropHighest h⟩, ⟨_, .present .dropLowest h⟩]
  · rintro ⟨m, _ | ⟨kind, h⟩⟩
    · exact .inl rfl
    · refine .inr ⟨kind.letters, ?_, _, mem_numeral_iff.mpr h, rfl⟩
      cases kind
      exacts [.inl rfl, .inr (.inl rfl), .inr (.inr (.inl rfl)), .inr (.inr (.inr rfl))]

/-- Dice are a count, the letter and a numeral for the sides. -/
theorem mem_dice_iff {s : List Char} :
    s ∈ dice ↔ ∃ count c sides n, SpellsCount readCount count n ∧ isSeparator c = true ∧
      IsNumeral sides ∧ value sides < cap ∧ s = count ++ c :: sides := by
  simp only [dice, Language.mem_mul, mem_count_iff readCount, mem_shortNumeral_iff]
  constructor
  · rintro ⟨_, ⟨count, ⟨n, hn⟩, c, hc, rfl⟩, sides, ⟨hsides, hlt⟩, rfl⟩
    rcases hc with rfl | rfl
    exacts [⟨count, 'd', sides, n, hn, rfl, hsides, hlt, by simp⟩,
      ⟨count, 'D', sides, n, hn, rfl, hsides, hlt, by simp⟩]
  · rintro ⟨count, c, sides, n, hn, hc, hsides, hlt, rfl⟩
    refine ⟨_, ⟨count, ⟨n, hn⟩, [c], ?_, rfl⟩, sides, ⟨hsides, hlt⟩, by simp⟩
    simp only [isSeparator, Bool.or_eq_true, beq_iff_eq] at hc
    rcases hc with rfl | rfl
    exacts [.inl rfl, .inr rfl]

/-- The terms after the first are the payloads without a modifier. -/
theorem mem_next_iff {s : List Char} :
    s ∈ next ↔ ∃ p, SpellsPayload readCount s p ∧ p.IsPlain := by
  rw [next, Language.mem_add, mem_dice_iff readCount, mem_shortNumeral_iff]
  constructor
  · rintro (⟨count, c, sides, n, hn, hc, hsides, hlt, rfl⟩ | ⟨h, hlt⟩)
    · have hdice : SpellsPayload readCount _ _ := .dice hn hc hsides hlt .absent
      rw [List.append_nil] at hdice
      exact ⟨_, hdice, rfl⟩
    · exact ⟨_, .literal h hlt, trivial⟩
  · rintro ⟨p, ⟨h, hlt⟩ | ⟨hn, hc, hsides, hlt, hrest⟩, hplain⟩
    · exact .inr ⟨h, hlt⟩
    · obtain rfl : _ = none := hplain
      cases hrest
      rw [List.append_nil]
      exact .inl ⟨_, _, _, _, hn, hc, hsides, hlt, rfl⟩

/-- The first terms are the payloads. -/
theorem mem_first_iff {s : List Char} : s ∈ first ↔ ∃ p, SpellsPayload readCount s p := by
  simp only [first, Language.mem_add, Language.mem_mul, mem_dice_iff readCount,
    mem_modifier_iff readCount, mem_shortNumeral_iff]
  constructor
  · rintro (⟨_, ⟨count, c, sides, n, hn, hc, hsides, hlt, rfl⟩, rest, ⟨m, hm⟩, rfl⟩ | ⟨h, hlt⟩)
    · refine ⟨.dice ⟨n, value sides, m⟩, ?_⟩
      rw [List.append_assoc, List.cons_append]
      exact .dice hn hc hsides hlt hm
    · exact ⟨_, .literal h hlt⟩
  · rintro ⟨p, ⟨h, hlt⟩ | ⟨hn, hc, hsides, hlt, hrest⟩⟩
    · exact .inr ⟨h, hlt⟩
    · exact .inl ⟨_, ⟨_, _, _, _, hn, hc, hsides, hlt, rfl⟩, _, ⟨_, hrest⟩, by simp⟩

/-! ### Commands -/

/-- An operator with a term and the blanks around the operator. -/
theorem mem_link_iff {s : List Char} :
    s ∈ blank∗ * sign * blank∗ * next ↔
      ∃ w₁ c w₂ body operator p, Blanks w₁ ∧ Operator.ofChar? c = some operator ∧ Blanks w₂ ∧
        SpellsPayload readCount body p ∧ p.IsPlain ∧ s = w₁ ++ c :: (w₂ ++ body) := by
  simp only [Language.mem_mul, mem_sign_iff, mem_next_iff readCount, blank,
    mem_kstar_one_iff]
  constructor
  · rintro ⟨_, ⟨_, ⟨w₁, hw₁, _, ⟨c, operator, hc, rfl⟩, rfl⟩, w₂, hw₂, rfl⟩, body,
      ⟨p, hp, hplain⟩, rfl⟩
    exact ⟨w₁, c, w₂, body, operator, p, hw₁, hc, hw₂, hp, hplain, by simp⟩
  · rintro ⟨w₁, c, w₂, body, operator, p, hw₁, hc, hw₂, hp, hplain, rfl⟩
    exact ⟨_, ⟨_, ⟨w₁, hw₁, _, ⟨c, operator, hc, rfl⟩, rfl⟩, w₂, hw₂, rfl⟩, body,
      ⟨p, hp, hplain⟩, by simp⟩

variable {readCount}

/-- What is repeated after an expression goes on spelling it. -/
theorem exists_spells_append_flatten {links : List (List Char)} {expr : List Char}
    {terms : List Term} (h : SpellsTerms readCount expr terms)
    (hlinks : ∀ s ∈ links, s ∈ blank∗ * sign * blank∗ * next) :
    ∃ terms', SpellsTerms readCount (expr ++ links.flatten) terms' := by
  induction links generalizing expr terms with
  | nil => exact ⟨terms, by simpa using h⟩
  | cons s links ih =>
    obtain ⟨hs, hrest⟩ := List.forall_mem_cons.mp hlinks
    obtain ⟨w₁, c, w₂, body, operator, p, hw₁, hc, hw₂, hp, hplain, rfl⟩ :=
      (mem_link_iff readCount).mp hs
    obtain ⟨terms', h'⟩ := ih (.next h hw₁ hc hw₂ hp hplain) hrest
    exact ⟨terms', by simpa using h'⟩

/-- What spells terms is in the language of expressions. -/
theorem mem_expression_of_spells {expr : List Char} {terms : List Term}
    (h : SpellsTerms readCount expr terms) :
    expr ∈ first * (blank∗ * sign * blank∗ * next)∗ := by
  induction h with
  | @first body p hbody =>
    exact Language.mem_mul.mpr
      ⟨body, (mem_first_iff readCount).mpr ⟨p, hbody⟩, [], Language.nil_mem_kstar _,
        List.append_nil _⟩
  | @next expr w₁ w₂ body terms c operator p h hw₁ hc hw₂ hbody hp ih =>
    obtain ⟨s, hs, t, ht, rfl⟩ := Language.mem_mul.mp ih
    have hlink := (mem_link_iff readCount).mpr
      ⟨w₁, c, w₂, body, operator, p, hw₁, hc, hw₂, hbody, hp, rfl⟩
    have hstar := kstar_mul_le_kstar (a := blank∗ * sign * blank∗ * next)
      (Language.append_mem_mul ht hlink)
    exact Language.mem_mul.mpr ⟨s, hs, _, hstar, (List.append_assoc _ _ _).symm⟩

/-- The command words are a slash and one of the words, in letters of either case. -/
theorem mem_word_iff {s : List Char} :
    s ∈ word ↔ ∃ w, w.map Char.toLower ∈ words ∧ s = '/' :: w := by
  have hwords : ∀ w : List Char, w ∈ words ↔ w = "r".toList ∨ w = "rolar".toList := by
    intro w
    simp [words, or_comm]
  simp only [hwords]
  constructor
  · rintro ⟨w, rfl, hw⟩
    exact ⟨w, hw, rfl⟩
  · rintro ⟨w, hw, rfl⟩
    exact ⟨w, rfl, hw⟩

/-- A command of the grammar, part by part. -/
theorem mem_commands_iff {s : List Char} :
    s ∈ commands ↔
      ∃ w w₂ expr w₃, w.map Char.toLower ∈ words ∧ w₂ ≠ [] ∧ Blanks w₂ ∧
        expr ∈ first * (blank∗ * sign * blank∗ * next)∗ ∧ Blanks w₃ ∧
        s = '/' :: (w ++ (w₂ ++ (expr ++ w₃))) := by
  rw [commands, mul_assoc (word * _), Language.mem_mul]
  constructor
  · rintro ⟨_, ⟨_, ⟨s₁, hs₁, w₂, hw₂, rfl⟩, expr, hexpr, rfl⟩, w₃, hw₃, rfl⟩
    obtain ⟨w, hw, rfl⟩ := mem_word_iff.mp hs₁
    obtain ⟨hne, hblank⟩ := mem_one_mul_kstar_iff.mp hw₂
    exact ⟨w, w₂, expr, w₃, hw, hne, hblank, hexpr, mem_kstar_one_iff.mp hw₃, by simp⟩
  · rintro ⟨w, w₂, expr, w₃, hw, hne, hw₂, hexpr, hw₃, rfl⟩
    exact ⟨_, ⟨_, ⟨_, mem_word_iff.mpr ⟨w, hw, rfl⟩, w₂, mem_one_mul_kstar_iff.mpr ⟨hne, hw₂⟩, rfl⟩,
      expr, hexpr, rfl⟩, w₃, mem_kstar_one_iff.mpr hw₃, by simp⟩

variable (readCount) in
/-- The grammar and the spellings describe the same commands. -/
theorem trimStart_mem_commands_iff {command : List Char} :
    trimStart command ∈ commands ↔ ∃ terms, Spells readCount command terms := by
  rw [mem_commands_iff]
  constructor
  · rintro ⟨w, w₂, expr, w₃, hw, hne, hw₂, hexpr, hw₃, htrim⟩
    obtain ⟨s, hs, _, ⟨links, rfl, hlinks⟩, rfl⟩ := Language.mem_mul.mp hexpr
    obtain ⟨p, hp⟩ := (mem_first_iff readCount).mp hs
    obtain ⟨terms, hterms⟩ := exists_spells_append_flatten (.first hp) hlinks
    obtain ⟨w₁, hw₁, hcommand⟩ := Text.exists_eq_append_trimStart command
    rw [htrim] at hcommand
    rw [hcommand]
    exact ⟨terms, _, .intro hw₁ hw hne hw₂ hterms.ne_nil hterms.tight hw₃, hterms⟩
  · rintro ⟨terms, expr, ⟨hw₁, hw, hne, hw₂, -, -, hw₃⟩, hterms⟩
    refine ⟨_, _, expr, _, hw, hne, hw₂, mem_expression_of_spells hterms, hw₃, ?_⟩
    rw [Text.trimStart_append hw₁, Text.trimStart_cons_of_not_blank rfl]

end Grammar

/-! ### Validation -/

/-- **The form of commands.** Whatever text `validate` is asked about, it gives a verdict, and the
verdict is that the text without its leading blanks belongs to the grammar or that it does not. -/
theorem validate_decides_commands (raw : List Char) :
    ∃ verdict, validate raw = .ok verdict ∧
      (verdict = true ↔ trimStart raw ∈ Grammar.commands) := by
  rw [Grammar.trimStart_mem_commands_iff Numeral.capped, validate, readTerms]
  cases h : readTermsWith Numeral.capped raw with
  | ok terms =>
    exact ⟨true, rfl, fun _ => ⟨terms, readTermsWith_eq_ok_iff.mp h⟩, fun _ => rfl⟩
  | error failure =>
    obtain ⟨fault, rfl⟩ := malformed_of_readTermsWith h
    refine ⟨false, rfl, fun hcon => absurd hcon Bool.false_ne_true, ?_⟩
    rintro ⟨terms, hterms⟩
    rw [readTermsWith_eq_ok_iff.mpr hterms] at h
    cases h

end ChatDice.Command
