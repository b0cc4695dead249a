import ChatDice.Proofs.JsonAtoms
import ChatDice.Proofs.JsonSoundness
import ChatDice.Text.Lines
import Mathlib.Data.Int.Notation

/-!
# Documents that end too early

In a document that is read all brackets are closed, those apart that stand in texts. A document
whose writing has been stopped does not come so far, since the bracket around everything is the last
one to be closed. So nothing is read from it, whatever it was that stopped the writing.

Brackets are counted by going through a text character by character (`scan`), and `Opens k s` says
that `s` opens `k` more brackets than it closes, and that it ends outside of texts. What spells a
value opens none (`Spells.opens`), and neither does what is written to its end; what is written of
an object before it is stopped opens at least one (`opens_of_stop?`).

Main statement (`read_of_stop?`): a document whose writing has been stopped is not read.
-/

namespace ChatDice.Json

open Numeral (Digits)

/-! ### Counting brackets -/

/-- Where one is in a document. -/
inductive Mode where
  /-- Not in a text. -/
  | outside
  /-- In a text. -/
  | inText
  /-- In a text, after a backslash. -/
  | escaping
deriving DecidableEq

/-- Where one is after a character. -/
def Mode.next : Mode → Char → Mode
  | outside, c => if c = '"' then inText else outside
  | inText, c => if c = '"' then outside else if c = '\\' then escaping else inText
  | escaping, _ => inText

/-- How many brackets a character opens. -/
def Mode.opens : Mode → Char → ℤ
  | outside, c => if c = '[' ∨ c = '{' then 1 else if c = ']' ∨ c = '}' then -1 else 0
  | _, _ => 0

/-- How many more brackets a text opens than it closes, and where one is after it. -/
def scan (mode : Mode) : List Char → ℤ × Mode
  | [] => (0, mode)
  | c :: s => (mode.opens c + (scan (mode.next c) s).1, (scan (mode.next c) s).2)

/-- One text is gone through after another. -/
theorem scan_append (mode : Mode) (s t : List Char) :
    scan mode (s ++ t) =
      ((scan mode s).1 + (scan (scan mode s).2 t).1, (scan (scan mode s).2 t).2) := by
  induction s generalizing mode with
  | nil => simp [scan]
  | cons c s ih => simp only [List.cons_append, scan, ih, Int.add_assoc]

/-- A text opens some number of brackets more than it closes, and ends outside of texts. -/
def Opens (k : ℤ) (s : List Char) : Prop :=
  scan .outside s = (k, .outside)

instance (k : ℤ) (s : List Char) : Decidable (Opens k s) :=
  inferInstanceAs (Decidable (scan .outside s = (k, .outside)))

variable {k j : ℤ} {s t rest : List Char} {c : Char}

/-- The empty text opens none. -/
theorem opens_nil : Opens 0 [] :=
  rfl

/-- The brackets of two texts are counted together. -/
theorem Opens.append (hs : Opens k s) (ht : Opens j t) : Opens (k + j) (s ++ t) := by
  unfold Opens at *
  rw [scan_append, hs, ht]

/-- A text that opens none before another one does not count. -/
theorem Opens.zero_append (hs : Opens 0 s) (ht : Opens k t) : Opens k (s ++ t) := by
  simpa using hs.append ht

/-- A character that neither is a bracket nor begins a text. -/
def IsInert (c : Char) : Prop :=
  c ∉ ['"', '[', ']', '{', '}']

instance (c : Char) : Decidable (IsInert c) :=
  inferInstanceAs (Decidable (c ∉ ['"', '[', ']', '{', '}']))

/-- Such characters open no brackets. -/
theorem opens_of_inert (h : ∀ c ∈ s, IsInert c) : Opens 0 s := by
  induction s with
  | nil => rfl
  | cons c s ih =>
    rw [List.forall_mem_cons] at h
    have hs : scan .outside s = (0, .outside) := ih h.2
    have hc := h.1
    simp only [IsInert, List.mem_cons, List.not_mem_nil, or_false, not_or] at hc
    simp [Opens, scan, Mode.next, Mode.opens, hc, hs]

/-- Blanks open no brackets. -/
theorem opens_spaces (h : Spaces s) : Opens 0 s := by
  refine opens_of_inert fun c hc => ?_
  have hspace := h c hc
  simp only [isSpace, Bool.or_eq_true, beq_iff_eq] at hspace
  rcases hspace with ((rfl | rfl) | rfl) | rfl <;> decide

/-! ### What is spelled -/

/-- A digit is no bracket and begins no text. -/
theorem isInert_of_isDigit (h : c.isDigit = true) : IsInert c := by
  simp only [IsInert, List.mem_cons, List.not_mem_nil, or_false, not_or]
  exact ⟨ne_of_isDigit h rfl, ne_of_isDigit h rfl, ne_of_isDigit h rfl, ne_of_isDigit h rfl,
    ne_of_isDigit h rfl⟩

/-- Digits open no brackets. -/
theorem opens_digits (h : Digits s) : Opens 0 s :=
  opens_of_inert fun c hc => isInert_of_isDigit (h c hc)

/-- A word or a number opens no brackets. -/
theorem SpellsPlain.opens {value : Value} (h : SpellsPlain s value) : Opens 0 s := by
  cases h with
  | word h =>
    simp only [wordValues, List.mem_cons, List.not_mem_nil, or_false, Prod.mk.injEq] at h
    rcases h with ⟨rfl, -⟩ | ⟨rfl, -⟩ | ⟨rfl, -⟩ | ⟨rfl, -⟩ | ⟨rfl, -⟩ | ⟨rfl, -⟩ <;> decide
  | number hsign hwhole hfraction hexponent =>
    refine Opens.zero_append ?_ (Opens.zero_append ?_ (Opens.zero_append ?_ ?_))
    · cases hsign <;> decide
    · cases hwhole with
      | zero => decide
      | digits hc _ h => exact opens_digits (Numeral.digits_cons.mpr ⟨hc, h⟩)
    · cases hfraction with
      | absent => decide
      | present h => exact Opens.zero_append (s := ['.']) (by decide) (opens_digits h.digits)
    · cases hexponent with
      | absent => decide
      | @present c sign digits negative hc hsign h =>
        refine Opens.zero_append (s := [c]) ?_ (Opens.zero_append ?_ (opens_digits h.digits))
        · rcases hc with rfl | rfl <;> decide
        · cases hsign <;> decide

/-- A hexadecimal digit is none of some characters. -/
theorem ne_of_hexValue? {d : Char} {n : Nat} (h : hexValue? c = some n) (hd : hexValue? d = none) :
    c ≠ d := by
  rintro rfl
  rw [h] at hd
  cases hd

/-- A character of a text that is no quote and no backslash leaves one in the text. -/
theorem scan_inText_cons (hquote : c ≠ '"') (hslash : c ≠ '\\') (s : List Char) :
    scan .inText (c :: s) = scan .inText s := by
  simp [scan, Mode.next, Mode.opens, hquote, hslash]

/-- The inside of a text leaves one in the text. -/
theorem SpellsText.scan_eq {units : List Nat} (h : SpellsText s units) :
    scan .inText s = (0, .inText) := by
  induction h with
  | empty => rfl
  | plain hquote hslash _ _ ih => rw [scan_inText_cons hquote hslash, ih]
  | escape _ _ ih => simp [scan, Mode.next, Mode.opens, ih]
  | codePoint hunit _ ih =>
    simp only [codeUnit?, bind, Option.bind_eq_some_iff] at hunit
    obtain ⟨_, ha, _, hb, _, hc, _, hd, -⟩ := hunit
    have hdigit {c : Char} {n : Nat} (h : hexValue? c = some n) (s : List Char) :
        scan .inText (c :: s) = scan .inText s :=
      scan_inText_cons (ne_of_hexValue? h rfl) (ne_of_hexValue? h rfl) s
    have hescape (s : List Char) : scan .inText ('\\' :: 'u' :: s) = scan .inText s := by
      simp [scan, Mode.next, Mode.opens]
    rw [hescape, hdigit ha, hdigit hb, hdigit hc, hdigit hd, ih]

/-- The inside of a text between quotes opens no brackets. -/
theorem opens_quoted (h : scan .inText s = (0, .inText)) : Opens 0 ('"' :: (s ++ ['"'])) := by
  have hclosed : scan .inText (s ++ ['"']) = (0, .outside) := by rw [scan_append, h]; rfl
  simp [Opens, scan, Mode.next, Mode.opens, hclosed]

/-- Brackets around a text that opens none are closed. -/
theorem opens_bracketed {first last : Char} (hfirst : Opens 1 [first]) (hs : Opens 0 s)
    (hlast : Opens (-1) [last]) : Opens 0 (first :: (s ++ [last])) := by
  have h := hfirst.append (hs.append hlast)
  exact h

/-- What is spelled closes all brackets that it opens. -/
theorem Spells.opens {room : Nat} {part : Part} (h : Spells room s part) : Opens 0 s := by
  have hcomma : Opens 0 [','] := by decide
  have hcolon : Opens 0 [':'] := by decide
  have hname {name : List Char} {units : List Nat} (h : SpellsText name units) (s : List Char)
      (hs : Opens 0 s) : Opens 0 ('"' :: (name ++ '"' :: s)) := by
    have hquoted := (opens_quoted h.scan_eq).zero_append hs
    simpa using hquoted
  induction h with
  | plain h => exact h.opens
  | text h => exact opens_quoted h.scan_eq
  | emptyList hw | emptyObject hw =>
    exact opens_bracketed (by decide) (opens_spaces hw) (by decide)
  | list _ ih | object _ ih => exact opens_bracketed (by decide) ih (by decide)
  | lastItem hw₁ _ hw₂ ih => exact (opens_spaces hw₁).zero_append (ih.zero_append (opens_spaces hw₂))
  | nextItem hw₁ _ hw₂ _ ih iht =>
    exact (opens_spaces hw₁).zero_append
      (ih.zero_append ((opens_spaces hw₂).zero_append (hcomma.zero_append iht)))
  | lastMember hw₁ hspells hw₂ hw₃ _ hw₄ ih =>
    exact (opens_spaces hw₁).zero_append (hname hspells _ ((opens_spaces hw₂).zero_append
      (hcolon.zero_append ((opens_spaces hw₃).zero_append (ih.zero_append (opens_spaces hw₄))))))
  | nextMember hw₁ hspells hw₂ hw₃ _ hw₄ _ ih iht =>
    exact (opens_spaces hw₁).zero_append (hname hspells _ ((opens_spaces hw₂).zero_append
      (hcolon.zero_append ((opens_spaces hw₃).zero_append
        (ih.zero_append ((opens_spaces hw₄).zero_append (hcomma.zero_append iht)))))))

/-- A document that is read closes all brackets that it opens. -/
theorem opens_of_read {value : Value} (h : read s = .ok value) : Opens 0 s := by
  obtain ⟨w₁, s, w₂, source, rfl, hw₁, hspells, hw₂, -⟩ := read_eq_ok_iff.mp h
  exact (opens_spaces hw₁).zero_append (hspells.opens.zero_append (opens_spaces hw₂))

/-- However lines end, the brackets are the same. -/
theorem scan_unifyLineEnds (mode : Mode) (s : List Char) :
    scan mode (Text.unifyLineEnds s) = scan mode s := by
  fun_induction Text.unifyLineEnds s generalizing mode with
  | case1 => rfl
  | case2 s ih => cases mode <;> simp [scan, Mode.next, Mode.opens, ih]
  | case3 s _ ih => cases mode <;> simp [scan, Mode.next, Mode.opens, ih]
  | case4 c s _ _ ih => simp [scan, ih]

/-! ### Numbers in print -/

/-- The characters of a number in print: digits, signs, a point and an exponent. -/
def IsNumeric (c : Char) : Prop :=
  c.isDigit = true ∨ c ∈ ['-', '+', '.', 'e']

/-- The decimal digits of a number are digits. -/
theorem isNumeric_of_mem_toDigits {n : Nat} (h : c ∈ Nat.toDigits 10 n) : IsNumeric c :=
  .inl (Nat.isDigit_of_mem_toDigits (by decide) (by decide) h)

/-- The digits, the point and the exponent of a number are in print. -/
theorem isNumeric_of_mem_exponentText {exponent : Int} (h : c ∈ Binary64.exponentText exponent) :
    IsNumeric c := by
  have hdigits : c ∈ Nat.toDigits 10 exponent.natAbs → IsNumeric c := isNumeric_of_mem_toDigits
  simp only [Binary64.exponentText, List.mem_cons] at h
  rcases h with h | h
  · right
    split at h <;> simp [h]
  · split at h
    · rcases List.mem_cons.mp h with rfl | h
      · exact .inl rfl
      · exact hdigits h
    · exact hdigits h

/-- The significant digits of a number are digits. -/
theorem isNumeric_of_mem_decimal {mantissa : Nat} {exponent : Int}
    (h : c ∈ (Binary64.Shortest.decimal mantissa exponent).1) : IsNumeric c := by
  have hmem := (List.dropWhile_sublist _).subset (List.mem_reverse.mp h)
  exact isNumeric_of_mem_toDigits (List.mem_reverse.mp hmem)

/-- Numbers are printed with the digits given for them, zeros, a point and an exponent. -/
theorem isNumeric_of_mem_positional {digits : List Char} {point : Int}
    (hdigits : ∀ c ∈ digits, IsNumeric c) (h : c ∈ Binary64.positional digits point) :
    IsNumeric c := by
  have hzero : IsNumeric '0' := .inl rfl
  have hpoint : IsNumeric '.' := .inr (by decide)
  have hletter : IsNumeric 'e' := .inr (by decide)
  unfold Binary64.positional at h
  split at h
  · split at h
    · simp only [List.mem_cons, List.mem_append, List.mem_replicate] at h
      rcases h with rfl | rfl | ⟨-, rfl⟩ | h
      · exact hzero
      · exact hpoint
      · exact hzero
      · exact hdigits c h
    · split at h
      · simp only [List.mem_cons, List.mem_append, List.mem_replicate, List.not_mem_nil,
          or_false] at h
        rcases h with (h | ⟨-, rfl⟩) | rfl | rfl
        · exact hdigits c h
        · exact hzero
        · exact hpoint
        · exact hzero
      · simp only [List.mem_cons, List.mem_append] at h
        rcases h with h | rfl | h
        · exact hdigits c (List.mem_of_mem_take h)
        · exact hpoint
        · exact hdigits c (List.mem_of_mem_drop h)
  · split at h
    · cases h
    · next d =>
      simp only [List.mem_cons] at h
      rcases h with rfl | rfl | h
      · exact hdigits c List.mem_cons_self
      · exact hletter
      · exact isNumeric_of_mem_exponentText h
    · next d rest =>
      simp only [List.mem_cons, List.mem_append] at h
      rcases h with rfl | rfl | h | rfl | h
      · exact hdigits c List.mem_cons_self
      · exact hpoint
      · exact hdigits c (List.mem_cons_of_mem _ h)
      · exact hletter
      · exact isNumeric_of_mem_exponentText h

/-- A number in print opens no brackets. -/
theorem opens_of_numeric (h : ∀ c ∈ s, IsNumeric c) : Opens 0 s := by
  refine opens_of_inert fun c hc => ?_
  rcases h c hc with hdigit | hsign
  · exact isInert_of_isDigit hdigit
  · simp only [List.mem_cons, List.not_mem_nil, or_false] at hsign
    rcases hsign with rfl | rfl | rfl | rfl <;> decide

/-- A number with a fraction or an exponent opens no brackets. -/
theorem opens_writeReal (x : Binary64) : Opens 0 (writeReal x) := by
  cases x with
  | nan => decide
  | infinite negative => cases negative <;> decide
  | finite negative mantissa exponent =>
    have hmagnitude : ∀ c ∈ (if mantissa = 0 then ['0', '.', '0']
        else Binary64.positional (Binary64.Shortest.decimal mantissa exponent).1
          (Binary64.Shortest.decimal mantissa exponent).2), IsNumeric c := by
      split
      · simp [IsNumeric]
      · exact fun c => isNumeric_of_mem_positional fun d => isNumeric_of_mem_decimal
    refine opens_of_numeric fun c hc => ?_
    have htext : writeReal (.finite negative mantissa exponent) =
        (Binary64.finite negative mantissa exponent).text.toList := rfl
    rw [htext, Binary64.text, String.toList_ofList] at hc
    cases negative with
    | false => exact hmagnitude c hc
    | true =>
      rcases List.mem_cons.mp hc with rfl | hc
      · exact .inr (by decide)
      · exact hmagnitude c hc

/-! ### What is written -/

/-- What is written opens some number of brackets, and no fewer than another number if it has been
stopped. -/
structure Written.Balance (written : Written) (k least : ℤ) : Prop where
  opens : written.stop = none → Opens k written.text
  stopped : written.stop ≠ none → ∃ m, least ≤ m ∧ Opens m written.text

namespace Written.Balance

variable {first second : Written} {least least' : ℤ}

/-- A text that is written to its end. -/
theorem all (h : Opens k s) (least : ℤ) : Balance (.all s) k least :=
  ⟨fun _ => h, fun hstop => absurd rfl hstop⟩

/-- Nothing that is written. -/
theorem stopped_nil (why : WriteError) (k : ℤ) : Balance (.stopped why) k 0 :=
  ⟨nofun, fun _ => ⟨0, Int.le_refl 0, rfl⟩⟩

/-- Brackets that are opened one after another are counted together. -/
theorem append (hfirst : Balance first k least) (hsecond : Balance second j least')
    (h : least ≤ k + least') : Balance (first ++ second) (k + j) least := by
  obtain ⟨s, stop⟩ := first
  cases stop with
  | some why => exact ⟨nofun, hfirst.stopped⟩
  | none =>
    have hs : Opens k s := hfirst.opens rfl
    refine ⟨fun hstop => hs.append (hsecond.opens hstop), fun hstop => ?_⟩
    obtain ⟨m, hm, ht⟩ := hsecond.stopped hstop
    exact ⟨k + m, by omega, hs.append ht⟩

end Written.Balance

/-- A text between quotes opens no brackets. -/
theorem opens_textChars (s : String) : Opens 0 (textChars s) :=
  opens_quoted (spellsText_flatMap_writeChar s.toList).scan_eq

/-- A text is written between its quotes, or nothing is. -/
theorem balance_piece (hs : Opens k s) (text : Text.Raw) :
    Written.Balance (.piece (s.map .char ++ writeText text)) k 0 := by
  cases text with
  | proper text =>
    rw [writeText_proper, ← List.map_append, Written.piece_map_char]
    exact .all (by simpa using hs.append (opens_textChars text)) 0
  | broken front half rest =>
    have hfault : Text.faultFrom (fun _ => false) 0
        (s.map .char ++ writeText (.broken front half rest)) ≠ none := by
      rw [ne_eq, Text.faultFrom_eq_none_iff, not_forall]
      refine ⟨half, fun hpasses => absurd (hpasses ?_) Bool.false_ne_true⟩
      simp [writeText, Text.Raw.points, writePoint]
    obtain ⟨fault, hfault⟩ := Option.ne_none_iff_exists'.mp hfault
    rw [Written.piece, hfault]
    exact .stopped_nil _ k

/-- A line break opens no brackets. -/
theorem opens_newLine (depth : Nat) : Opens 0 (newLine depth) :=
  opens_spaces (spaces_newLine depth)

mutual

/-- What is written of a value, and of what stands before it, opens the brackets that stand before
it, and closes no others. -/
theorem balance_writeAt (value : Value) {k : ℤ} {s : List Char} (hk : 0 ≤ k) (hs : Opens k s)
    (depth : Nat) : (writeAt depth s value).Balance k 0 := by
  have hall {t : List Char} (ht : Opens 0 t) : Written.Balance (.all (s ++ t)) k 0 :=
    .all (by simpa using hs.append ht) 0
  match value with
  | .null | .bool true | .bool false => exact hall (by decide)
  | .whole n =>
    rw [writeAt]
    split
    · next h => exact hall (spellsPlain_toString (Numeral.isPrintable_iff_digitCount_le.mp h)).opens
    · exact .stopped_nil _ k
  | .real x => exact hall (opens_writeReal x)
  | .text text => exact balance_piece hs text
  | .array [] | .object [] => exact hall (by decide)
  | .array (item :: items) =>
    have hopen : Opens 1 ('[' :: newLine (depth + 1)) :=
      Opens.append (k := 1) (s := ['[']) (by decide) (opens_newLine (depth + 1))
    have hclose : Opens (-1) (newLine depth ++ [']']) :=
      (opens_newLine depth).zero_append (by decide)
    have hitems := balance_writeItems (item :: items) (List.cons_ne_nil _ _) Int.one_nonneg hopen
      (depth + 1)
    have hlist := ((Written.Balance.all hs 0).append hitems (by omega)).append
      (.all hclose 1) (by omega)
    rw [Int.add_neg_cancel_right] at hlist
    rw [writeAt, List.isEmpty_cons, if_neg Bool.false_ne_true]
    exact hlist
  | .object (member :: members) =>
    have hopen : Opens 1 ('{' :: newLine (depth + 1)) :=
      Opens.append (k := 1) (s := ['{']) (by decide) (opens_newLine (depth + 1))
    have hclose : Opens (-1) (newLine depth ++ ['}']) :=
      (opens_newLine depth).zero_append (by decide)
    have hmembers := balance_writeMembers (member :: members) (List.cons_ne_nil _ _) hopen
      (depth + 1)
    have hobject := ((Written.Balance.all hs 0).append hmembers (by omega)).append
      (.all hclose 1) (by omega)
    rw [Int.add_neg_cancel_right] at hobject
    rw [writeAt, List.isEmpty_cons, if_neg Bool.false_ne_true]
    exact hobject

/-- What is written of items opens the brackets that stand before them. If it has been stopped,
these need not have been written. -/
theorem balance_writeItems (items : List Value) (hne : items ≠ []) {k : ℤ} {s : List Char}
    (hk : 0 ≤ k) (hs : Opens k s) (depth : Nat) : (writeItems depth s items).Balance k 0 := by
  match items with
  | [] => exact absurd rfl hne
  | item :: items =>
    have hitem := balance_writeAt item hk hs depth
    have hrest : (writeItems depth (',' :: newLine depth) items).Balance 0 0 := by
      match items with
      | [] => exact .all opens_nil 0
      | next :: items =>
        exact balance_writeItems (next :: items) (List.cons_ne_nil _ _) (Int.le_refl 0)
          (Opens.zero_append (s := [',']) (by decide) (opens_newLine depth)) depth
    simpa [writeItems] using hitem.append hrest (by omega)

/-- What is written of members opens the brackets that stand before them. These have been written
even if it has been stopped. -/
theorem balance_writeMembers (members : List (Text.Raw × Value)) (hne : members ≠ []) {k : ℤ}
    {s : List Char} (hs : Opens k s) (depth : Nat) :
    (writeMembers depth s members).Balance k k := by
  match members with
  | [] => exact absurd rfl hne
  | (name, value) :: members =>
    have hname : (Written.piece (writeText name)).Balance 0 0 := balance_piece opens_nil name
    have hcolon : (Written.all [':', ' ']).Balance 0 0 := .all (by decide) 0
    have hvalue := balance_writeAt value (Int.le_refl 0) opens_nil depth
    have hrest : (writeMembers depth (',' :: newLine depth) members).Balance 0 0 := by
      match members with
      | [] => exact .all opens_nil 0
      | next :: members =>
        exact balance_writeMembers (next :: members) (List.cons_ne_nil _ _)
          (Opens.zero_append (s := [',']) (by decide) (opens_newLine depth)) depth
    have hmember := (((Written.Balance.all hs k).append hname (by omega)).append hcolon
      (by omega)).append hvalue (by omega)
    simpa [writeMembers] using hmember.append hrest (by omega)

end

/-- What has been written of an object before it is stopped leaves a bracket open. -/
theorem opens_of_stop? {members : Members} (h : stop? (.object members) ≠ none) :
    ∃ m, 1 ≤ m ∧ Opens m (write (.object members)).toList := by
  match members with
  | [] => exact absurd rfl h
  | member :: members =>
    have hmembers := balance_writeMembers (member :: members) (List.cons_ne_nil _ _)
      (Opens.append (k := 1) (s := ['{']) (by decide) (opens_newLine 1)) 1
    have hclose : Opens (-1) (newLine 0 ++ ['}']) := by decide
    have hobject := ((Written.Balance.all opens_nil 1).append hmembers (by omega)).append
      (.all hclose 1) (by omega)
    rw [write, String.toList_ofList]
    rw [stop?] at h
    rw [writeAt, List.isEmpty_cons, if_neg Bool.false_ne_true] at h ⊢
    exact hobject.stopped h

/-- **A document whose writing has been stopped is not read**, however lines end. -/
theorem read_of_stop? {members : Members} (h : stop? (.object members) ≠ none) :
    ∃ why, read (Text.unifyLineEnds (write (.object members)).toList) = .error why := by
  obtain ⟨m, hm, hopens⟩ := opens_of_stop? h
  cases hread : read (Text.unifyLineEnds (write (.object members)).toList) with
  | error why => exact ⟨why, rfl⟩
  | ok value =>
    have hclosed := opens_of_read hread
    rw [Opens, scan_unifyLineEnds, hopens] at hclosed
    cases hclosed
    omega

end ChatDice.Json
