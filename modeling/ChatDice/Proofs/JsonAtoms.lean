import ChatDice.Json.Writer
import ChatDice.Proofs.JsonSpelling

/-!
# Texts and numbers that are written

A text of characters alone is written whole, as `textChars` (`writeText_proper`), and spells its
characters, whichever they are (`spells_textChars`): those that cannot stand between quotes are
escaped, and every escape stands for the character that it was made of (`writeChar_cases`,
`SpellsText.writeChar_append`). A printed integer spells itself if it has no more digits than can be
read (`spellsPlain_toString`).

Neither a written text nor a printed integer has a control character in it (`plain_textChars`,
`plain_toString`).
-/

namespace ChatDice.Json

open Numeral
open Text (hexDigit hexDigits)

/-! ### Characters -/

/-- How a character is written: by an escape with a letter, by its code point, or as it is. -/
theorem writeChar_cases (c : Char) :
    (∃ letter, simpleEscape? letter = some c ∧ writeChar c = ['\\', letter]) ∨
      (c.toNat < 0x20 ∧ writeChar c = '\\' :: 'u' :: hexDigits 4 c.toNat) ∨
      c ≠ '"' ∧ c ≠ '\\' ∧ 0x20 ≤ c.toNat ∧ writeChar c = [c] := by
  rcases eq_or_ne c '"' with rfl | hquote
  · exact .inl ⟨'"', rfl, rfl⟩
  rcases eq_or_ne c '\\' with rfl | hslash
  · exact .inl ⟨'\\', rfl, rfl⟩
  rcases eq_or_ne c '\n' with rfl | hfeed
  · exact .inl ⟨'n', rfl, rfl⟩
  rcases eq_or_ne c '\r' with rfl | hreturn
  · exact .inl ⟨'r', rfl, rfl⟩
  rcases eq_or_ne c '\t' with rfl | htab
  · exact .inl ⟨'t', rfl, rfl⟩
  rcases eq_or_ne c '\x08' with rfl | hback
  · exact .inl ⟨'b', rfl, rfl⟩
  rcases eq_or_ne c '\x0c' with rfl | hform
  · exact .inl ⟨'f', rfl, rfl⟩
  rw [writeChar, if_neg hquote, if_neg hslash, if_neg hfeed, if_neg hreturn, if_neg htab,
    if_neg hback, if_neg hform]
  by_cases hlow : c.toNat < 0x20
  · exact .inr (.inl ⟨hlow, if_pos hlow⟩)
  · exact .inr (.inr ⟨hquote, hslash, Nat.not_lt.mp hlow, if_neg hlow⟩)

/-- A hexadecimal digit is read as its value. -/
theorem hexValue?_hexDigit {n : Nat} (h : n < 16) : hexValue? (hexDigit n) = some n := by
  revert n
  decide

/-- Four hexadecimal digits, one by one. -/
theorem hexDigits_four (n : Nat) :
    hexDigits 4 n = [hexDigit (n / 16 / 16 / 16 % 16), hexDigit (n / 16 / 16 % 16),
      hexDigit (n / 16 % 16), hexDigit (n % 16)] :=
  rfl

/-- Four digits stand for the number that they were made of. -/
theorem codeUnit?_hexDigits {n : Nat} (h : n < 0x10000) :
    codeUnit? (hexDigit (n / 16 / 16 / 16 % 16)) (hexDigit (n / 16 / 16 % 16))
      (hexDigit (n / 16 % 16)) (hexDigit (n % 16)) = some n := by
  have hlt (m : Nat) : m % 16 < 16 := Nat.mod_lt m (by decide)
  simp only [codeUnit?, hexValue?_hexDigit (hlt _), bind, Option.bind, pure]
  congr 1
  omega

/-- However a character was written, it is spelled by its code point. -/
theorem SpellsText.writeChar_append {s : List Char} {units : List Nat} (h : SpellsText s units)
    (c : Char) : SpellsText (writeChar c ++ s) (c.toNat :: units) := by
  rcases writeChar_cases c with ⟨letter, hletter, hwrite⟩ | ⟨hlow, hwrite⟩ |
      ⟨hquote, hslash, hplain, hwrite⟩
  · rw [hwrite]
    exact .escape hletter h
  · rw [hwrite, hexDigits_four]
    exact .codePoint (codeUnit?_hexDigits (by omega)) h
  · rw [hwrite]
    exact .plain hquote hslash hplain h

/-! ### Texts -/

/-- Characters that are written one after another spell their code points. -/
theorem spellsText_flatMap_writeChar (s : List Char) :
    SpellsText (s.flatMap writeChar) (s.map Char.toNat) := by
  induction s with
  | nil => exact .empty
  | cons c s ih => exact ih.writeChar_append c

/-- A text of characters alone, between quotes. -/
def textChars (s : String) : List Char :=
  '"' :: (s.toList.flatMap writeChar ++ ['"'])

/-- A text of characters alone is written as characters alone. -/
theorem writeText_proper (s : String) : writeText (.proper s) = (textChars s).map .char := by
  have hflat : (s.toList.map Text.Point.char).flatMap writePoint =
      (s.toList.flatMap writeChar).map .char := by
    rw [List.flatMap_map, List.map_flatMap]
    rfl
  rw [writeText, Text.Raw.points, hflat, textChars, List.map_cons, List.map_append,
    List.map_singleton]

/-- A written text spells the code points of its characters. -/
theorem spells_textChars (room : Nat) (s : String) :
    Spells room (textChars s) (.value (.text (s.toList.map Char.toNat))) :=
  .text (spellsText_flatMap_writeChar s.toList)

/-- The code points of characters stand for these characters. -/
theorem textOf_map_toNat (s : String) : textOf (s.toList.map Char.toNat) = .proper s :=
  (paired_map_toNat s.toList).textOf_eq

/-! ### Numbers -/

/-- A positive number is printed without leading zeros. -/
theorem head_toDigits_ne_zero {n : Nat} {c : Char} {s : List Char} (hn : n ≠ 0)
    (h : Nat.toDigits 10 n = c :: s) : c ≠ '0' := by
  rintro rfl
  have hs : Digits s := (digits_cons.mp (h ▸ (isNumeral_toDigits n).digits)).2
  have hvalue : n = Numeral.value s := by
    have hzero : digitValue '0' = 0 := rfl
    rw [← value_toDigits n, h, value_cons, hzero, Nat.mul_zero, Nat.zero_add]
  have hpos : 0 < s.length := by
    apply List.length_pos_of_ne_nil
    rintro rfl
    exact hn hvalue
  -- The digits after the zero would be enough for the number.
  have hle : (Nat.toDigits 10 n).length ≤ s.length :=
    (Nat.length_toDigits_le_iff (by decide) hpos).mpr (hvalue ▸ value_lt_pow hs)
  rw [h, List.length_cons] at hle
  omega

/-- The digits of a number begin with a zero only if the number is zero. -/
theorem spellsWhole_toDigits (n : Nat) : SpellsWhole (Nat.toDigits 10 n) := by
  rcases Nat.eq_zero_or_pos n with rfl | hpos
  · exact .zero
  · obtain ⟨hne, hdigits⟩ := isNumeral_toDigits n
    obtain ⟨c, s, hcons⟩ := List.exists_cons_of_ne_nil hne
    have hc := head_toDigits_ne_zero hpos.ne' hcons
    rw [hcons] at hdigits ⊢
    exact .digits (digits_cons.mp hdigits).1 hc (digits_cons.mp hdigits).2

/-- Digits that can be printed are read as the integer of the sign before them. -/
theorem numberValue_toDigits (negative : Bool) {n : Nat}
    (h : (Nat.toDigits 10 n).length ≤ maxPrintedDigits) :
    numberValue negative (Nat.toDigits 10 n) [] none =
      .ok (.whole (if negative then -n else n)) := by
  rw [numberValue, if_pos ⟨rfl, rfl⟩, if_neg (Nat.not_lt.mpr h), value_toDigits]

/-- A printed integer spells itself. -/
theorem spellsPlain_toString {n : Int} (h : digitCount n ≤ maxPrintedDigits) :
    SpellsPlain (toString n).toList (.whole n) := by
  have hspells {sign : List Char} {negative : Bool} {m : Nat} (hsign : SpellsSign sign negative)
      (hm : (Nat.toDigits 10 m).length ≤ maxPrintedDigits) :
      SpellsPlain (sign ++ Nat.toDigits 10 m) (.whole (if negative then -m else m)) := by
    have hnumber := SpellsPlain.number hsign (spellsWhole_toDigits m) .absent .absent
      (numberValue_toDigits negative hm)
    rwa [List.append_nil, List.append_nil] at hnumber
  cases n with
  | ofNat n =>
    rw [Int.ofNat_eq_natCast, toList_toString_natCast]
    exact hspells .absent h
  | negSucc n =>
    rw [toList_toString_negSucc]
    exact hspells .minus h

/-! ### Control characters -/

/-- A text without control characters, line feeds apart. -/
def Plain (s : List Char) : Prop :=
  ∀ c ∈ s, c = '\n' ∨ 0x20 ≤ c.toNat

instance (s : List Char) : Decidable (Plain s) :=
  List.decidableBAll (fun c : Char => c = '\n' ∨ 0x20 ≤ c.toNat) s

/-- Two texts together are plain if both are. -/
theorem plain_append {s t : List Char} : Plain (s ++ t) ↔ Plain s ∧ Plain t :=
  List.forall_mem_append

/-- A text is plain if its first character and the rest are. -/
theorem plain_cons {c : Char} {s : List Char} :
    Plain (c :: s) ↔ (c = '\n' ∨ 0x20 ≤ c.toNat) ∧ Plain s :=
  List.forall_mem_cons

/-- The empty text is plain. -/
theorem plain_nil : Plain [] :=
  List.forall_mem_nil _

/-- A character is written without control characters. -/
theorem plain_writeChar (c : Char) : Plain (writeChar c) := by
  rcases writeChar_cases c with ⟨letter, hletter, hwrite⟩ | ⟨-, hwrite⟩ | ⟨-, -, hplain, hwrite⟩
  · have h : 0x20 ≤ letter.toNat := by
      unfold simpleEscape? at hletter
      split at hletter <;> first | decide | cases hletter
    rw [hwrite]
    simp [plain_cons, plain_nil, h]
  · have hdigit (n : Nat) : 0x20 ≤ (hexDigit (n % 16)).toNat := by
      have hall : ∀ d < 16, 0x20 ≤ (hexDigit d).toNat := by decide
      exact hall _ (Nat.mod_lt n (by decide))
    rw [hwrite, hexDigits_four]
    simp [plain_cons, plain_nil, hdigit]
  · rw [hwrite]
    simp [plain_cons, plain_nil, hplain]

/-- So is a text. -/
theorem plain_textChars (s : String) : Plain (textChars s) := by
  unfold textChars
  refine plain_cons.mpr ⟨.inr (by decide), plain_append.mpr ⟨?_, ?_⟩⟩
  · intro c hc
    obtain ⟨d, -, hd⟩ := List.mem_flatMap.mp hc
    exact plain_writeChar d c hd
  · exact plain_cons.mpr ⟨.inr (by decide), plain_nil⟩

/-- A line break and the blanks after it are blanks. -/
theorem spaces_newLine (depth : Nat) : Spaces (newLine depth) := by
  intro c hc
  rcases List.mem_cons.mp hc with rfl | hc
  · rfl
  · rw [(List.mem_replicate.mp hc).2]
    rfl

/-- So is a new line. -/
theorem plain_newLine (depth : Nat) : Plain (newLine depth) := by
  refine plain_cons.mpr ⟨.inl rfl, fun c hc => ?_⟩
  rw [(List.mem_replicate.mp hc).2]
  exact .inr (by decide)

/-- So is an integer. -/
theorem plain_toString (n : Int) : Plain (toString n).toList := by
  intro c hc
  rcases isDigit_or_eq_minus_of_mem_toString hc with hdigit | rfl
  · have := toNat_of_isDigit hdigit
    exact .inr (by omega)
  · exact .inr (by decide)

end ChatDice.Json
