import ChatDice.Proofs.JsonSpelling
import ChatDice.Proofs.TermReading

/-!
# Reading JSON that is spelled

Whatever is spelled is read as what it stands for. What follows a value matters only for numbers,
which have no end of their own; after a value come blanks, a comma or a closing bracket
(`Follows`), and none of these goes on with a number.

The readers of values, items and members call each other on a budget of steps. What each of them has
to do with the text of a part is said once (`Reads`), and all three are covered by one induction on
how the part is spelled (`Spells.reads`); the length of the text is always enough of a budget.

Main statements (`read_of_spells`, `read_of_spellsObject`): a document that spells a value is read
as the value, and one that spells an object as the object, of each name the last value given.
-/

namespace ChatDice.Json

open Numeral (Digits IsNumeral digits_cons)

/-! ### Blanks -/

/-- The empty text is white space. -/
theorem spaces_nil : Spaces [] :=
  List.forall_mem_nil _

/-- Nothing is skipped before a character that is no white space. -/
theorem skipSpace_of_head {c : Char} {s : List Char} (h : isSpace c = false) :
    skipSpace (c :: s) = c :: s := by
  rw [skipSpace, List.dropWhile_cons_of_neg (by simp [h])]

/-- White space is skipped. -/
theorem skipSpace_append {w : List Char} (hw : Spaces w) (s : List Char) :
    skipSpace (w ++ s) = skipSpace s := by
  rw [skipSpace, List.dropWhile_append_of_pos hw]
  rfl

/-- Blanks before something that is no blank. -/
theorem skipSpace_append_cons {w : List Char} (hw : Spaces w) {c : Char} (hc : isSpace c = false)
    (s : List Char) : skipSpace (w ++ c :: s) = c :: s := by
  rw [skipSpace_append hw, skipSpace_of_head hc]

/-! ### What follows a value -/

/-- What may stand after a value: nothing, or something that begins with a blank, a comma or a
closing bracket. -/
def Follows (rest : List Char) : Prop :=
  ∀ c ∈ rest.head?, isSpace c = true ∨ c = ',' ∨ c = ']' ∨ c = '}'

/-- The end of the text may follow a value. -/
theorem follows_nil : Follows [] := by
  rintro c ⟨⟩

/-- A comma or a closing bracket may follow a value. -/
theorem follows_cons {c : Char} (h : c = ',' ∨ c = ']' ∨ c = '}') (rest : List Char) :
    Follows (c :: rest) := by
  rintro _ ⟨⟩
  exact .inr h

/-- White space may stand before what follows a value. -/
theorem Follows.append {w rest : List Char} (h : Follows rest) (hw : Spaces w) :
    Follows (w ++ rest) := by
  cases w with
  | nil => exact h
  | cons c w =>
    rintro _ ⟨⟩
    exact .inl (hw c List.mem_cons_self)

/-- Nothing that follows a value goes on with a number. -/
theorem Follows.head {rest : List Char} (h : Follows rest) :
    ∀ c ∈ rest.head?, c.isDigit = false ∧ c ≠ '.' ∧ ¬(c = 'e' ∨ c = 'E') := by
  intro c hc
  rcases h c hc with hspace | rfl | rfl | rfl
  · simp only [isSpace, Bool.or_eq_true, beq_iff_eq, or_assoc] at hspace
    rcases hspace with rfl | rfl | rfl | rfl <;> decide
  all_goals decide

/-! ### Texts -/

/-- A character that needs no escape stands for itself. -/
theorem textUnits_plain {start rest : List Char} {c : Char} (hquote : c ≠ '"') (hslash : c ≠ '\\')
    (h : 0x20 ≤ c.toNat) : textUnits start (c :: rest) = before c.toNat (textUnits start rest) := by
  rw [textUnits]
  · rw [if_neg (by omega)]
  all_goals simp_all

/-- A letter after a backslash stands for its character. -/
theorem textUnits_simpleEscape {start : List Char} {letter c : Char}
    (h : simpleEscape? letter = some c) (rest : List Char) :
    textUnits start ('\\' :: letter :: rest) = before c.toNat (textUnits start rest) := by
  have hu : letter ≠ 'u' := by
    rintro rfl
    cases h
  rw [textUnits]
  · rw [h]
  · intro a b c d rest' hletter
    exact absurd hletter hu

/-- Four digits at the very end of a document are refused, so something must follow. -/
theorem textUnits_codePoint {start rest : List Char} {a b c d : Char} {unit : Nat}
    (h : codeUnit? a b c d = some unit) (hrest : rest ≠ []) :
    textUnits start ('\\' :: 'u' :: a :: b :: c :: d :: rest) =
      before unit (textUnits start rest) := by
  obtain ⟨next, rest, rfl⟩ := List.exists_cons_of_ne_nil hrest
  rw [textUnits]
  exact h

/-- The inside of a text is read up to the closing quote. -/
theorem SpellsText.textUnits_eq {s : List Char} {units : List Nat} (h : SpellsText s units)
    (start rest : List Char) : textUnits start (s ++ '"' :: rest) = .ok (units, rest) := by
  induction h with
  | empty => rfl
  | plain hquote hslash hc h ih =>
    rw [List.cons_append, textUnits_plain hquote hslash hc, ih]
    rfl
  | escape hletter h ih =>
    rw [List.cons_append, List.cons_append, textUnits_simpleEscape hletter, ih]
    rfl
  | @codePoint a b c d unit s units hunit h ih =>
    have hne : s ++ '"' :: rest ≠ [] := by simp
    simp only [List.cons_append]
    rw [textUnits_codePoint hunit hne, ih]
    rfl

/-- What spells a text is read as that text, up to the closing quote. -/
theorem SpellsText.readText_eq {s : List Char} {units : List Nat} (h : SpellsText s units)
    (rest : List Char) : readText (s ++ '"' :: rest) = .ok (textOf units, rest) := by
  rw [readText, h.textUnits_eq]

/-! ### Numbers -/

/-- A digit is no other character. -/
theorem ne_of_isDigit {c d : Char} (hc : c.isDigit = true) (hd : d.isDigit = false) : c ≠ d := by
  rintro rfl
  rw [hc] at hd
  cases hd

/-- Whole digits begin with a digit. -/
theorem SpellsWhole.exists_eq_cons {whole : List Char} (h : SpellsWhole whole) :
    ∃ c s, whole = c :: s ∧ c.isDigit = true := by
  cases h with
  | zero => exact ⟨_, _, rfl, rfl⟩
  | digits hc => exact ⟨_, _, rfl, hc⟩

/-- Whole digits are read up to what is no digit. -/
theorem SpellsWhole.wholeDigits?_eq {whole rest : List Char} (h : SpellsWhole whole)
    (hrest : ∀ c ∈ rest.head?, c.isDigit = false) :
    wholeDigits? (whole ++ rest) = some (whole, rest) := by
  cases h with
  | zero => rfl
  | @digits c digits hc hne h =>
    have hall : Digits (c :: digits) := digits_cons.mpr ⟨hc, h⟩
    have htake := Command.takeWhile_append_of_head hall hrest
    have hdrop := Command.dropWhile_append_of_head hall hrest
    rw [List.cons_append] at htake hdrop ⊢
    rw [wholeDigits?, if_pos hc, htake, hdrop]
    exact hne

/-- A fraction is read up to what is no digit. -/
theorem SpellsFraction.fractionDigits_eq {fraction digits rest : List Char}
    (h : SpellsFraction fraction digits)
    (hrest : ∀ c ∈ rest.head?, c.isDigit = false ∧ c ≠ '.') :
    fractionDigits (fraction ++ rest) = (digits, rest) := by
  cases h with
  | absent =>
    rw [List.nil_append]
    unfold fractionDigits
    split
    · next t => exact absurd rfl (hrest '.' rfl).2
    · rfl
  | present h =>
    have hdigit := fun c hc => (hrest c hc).1
    have htake := Command.takeWhile_append_of_head h.digits hdigit
    have hdrop := Command.dropWhile_append_of_head h.digits hdigit
    simp only [fractionDigits, List.cons_append, htake, hdrop, if_neg h.ne_nil]

/-- The sign of an exponent is read before its digits. -/
theorem SpellsExponentSign.exponentSign_eq {sign digits rest : List Char} {negative : Bool}
    (h : SpellsExponentSign sign negative) (hdigits : IsNumeral digits) :
    exponentSign (sign ++ (digits ++ rest)) = (negative, digits ++ rest) := by
  cases h with
  | absent =>
    obtain ⟨c, s, rfl⟩ := List.exists_cons_of_ne_nil hdigits.ne_nil
    have hc := (digits_cons.mp hdigits.digits).1
    unfold exponentSign
    split
    · next heq => exact absurd (List.cons.inj heq).1 (ne_of_isDigit hc rfl)
    · next heq => exact absurd (List.cons.inj heq).1 (ne_of_isDigit hc rfl)
    · rfl
  | plus => rfl
  | minus => rfl

/-- An exponent is read before what may follow a value. -/
theorem SpellsExponent.exponent?_eq {exponent rest : List Char} {power : Option Int}
    (h : SpellsExponent exponent power) (hrest : Follows rest) :
    exponent? (exponent ++ rest) = (power, rest) := by
  cases h with
  | absent =>
    cases rest with
    | nil => rfl
    | cons c rest =>
      have hc := (hrest.head c rfl).2.2
      rw [List.nil_append, exponent?, if_neg hc]
  | @present c sign digits negative hc hsign h =>
    have hdigit := fun c hc => (hrest.head c hc).1
    have htake := Command.takeWhile_append_of_head h.digits hdigit
    have hdrop := Command.dropWhile_append_of_head h.digits hdigit
    rw [List.cons_append, List.append_assoc, exponent?, if_pos hc]
    simp only [hsign.exponentSign_eq h, htake, hdrop, if_neg h.ne_nil]

/-- Neither an exponent nor what follows a number goes on with its fraction. -/
theorem SpellsExponent.head {exponent rest : List Char} {power : Option Int}
    (h : SpellsExponent exponent power) (hrest : Follows rest) :
    ∀ c ∈ (exponent ++ rest).head?, c.isDigit = false ∧ c ≠ '.' := by
  cases h with
  | absent => exact fun c hc => ⟨(hrest.head c hc).1, (hrest.head c hc).2.1⟩
  | present hc =>
    rintro _ ⟨⟩
    rcases hc with rfl | rfl <;> decide

/-- No fraction goes on with the digits before it. -/
theorem SpellsFraction.head {fraction digits rest : List Char} (h : SpellsFraction fraction digits)
    (hrest : ∀ c ∈ rest.head?, c.isDigit = false ∧ c ≠ '.') :
    ∀ c ∈ (fraction ++ rest).head?, c.isDigit = false := by
  cases h with
  | absent => exact fun c hc => (hrest c hc).1
  | present h =>
    rintro _ ⟨⟩
    rfl

/-- The front of a number: a digit, or a minus sign and a digit. -/
inductive StartsNumber : List Char → Prop
  | digit {c : Char} {s : List Char} (h : c.isDigit = true) : StartsNumber (c :: s)
  | minus {c : Char} {s : List Char} (h : c.isDigit = true) : StartsNumber ('-' :: c :: s)

/-- A number begins with no other character. -/
theorem StartsNumber.ne_cons {s : List Char} (h : StartsNumber s) {c : Char}
    (hc : c.isDigit = false) (hminus : c ≠ '-') (t : List Char) : s ≠ c :: t := by
  rintro rfl
  cases h with
  | digit h => exact ne_of_isDigit h hc rfl
  | minus h => exact hminus rfl

/-- A sign, or none, and whole digits begin a number. -/
theorem SpellsSign.startsNumber {sign whole : List Char} {negative : Bool}
    (h : SpellsSign sign negative) (hwhole : SpellsWhole whole) (rest : List Char) :
    StartsNumber (sign ++ (whole ++ rest)) := by
  obtain ⟨c, s, rfl, hc⟩ := hwhole.exists_eq_cons
  cases h with
  | absent => exact .digit hc
  | minus => exact .minus hc

/-- The sign of a number is told apart from its digits. -/
theorem SpellsSign.split_eq {sign whole : List Char} {negative : Bool}
    (h : SpellsSign sign negative) (hwhole : SpellsWhole whole) (rest : List Char) :
    (match sign ++ (whole ++ rest) with
      | '-' :: rest => (true, rest)
      | _ => (false, sign ++ (whole ++ rest))) = (negative, whole ++ rest) := by
  cases h with
  | absent =>
    obtain ⟨c, s, rfl, hc⟩ := hwhole.exists_eq_cons
    split
    · next heq => exact absurd (List.cons.inj heq).1 (ne_of_isDigit hc rfl)
    · rfl
  | minus => rfl

/-- The parts of a number are read one after another, and the rest is left. -/
theorem readNumber_of_spells {sign whole fraction exponent digits rest : List Char}
    {negative : Bool} {power : Option Int} (hsign : SpellsSign sign negative)
    (hwhole : SpellsWhole whole) (hfraction : SpellsFraction fraction digits)
    (hexponent : SpellsExponent exponent power) (hrest : Follows rest) :
    readNumber (sign ++ (whole ++ (fraction ++ (exponent ++ rest)))) =
      (numberValue negative whole digits power).map (·, rest) := by
  have hafter := hexponent.head hrest
  unfold readNumber
  split
  next negative' rest' hsplit =>
  obtain ⟨hnegative, hdigits⟩ := Prod.mk.inj (hsplit.symm.trans (hsign.split_eq hwhole _))
  subst hnegative hdigits
  simp only [hwhole.wholeDigits?_eq (hfraction.head hafter), hfraction.fractionDigits_eq hafter,
    hexponent.exponent?_eq hrest]
  cases numberValue _ whole digits power <;> rfl

/-- No word stands at the front of a number. -/
theorem stripWord?_of_startsNumber {s : List Char} (h : StartsNumber s) :
    ∀ entry ∈ wordValues, stripWord? entry.1 s = none := by
  cases h with
  | digit hc =>
    have hne := fun d => ne_of_isDigit (d := d) hc
    simp [wordValues, stripWord?, hne 'n' rfl, hne 't' rfl, hne 'f' rfl, hne 'N' rfl,
      hne 'I' rfl, hne '-' rfl]
  | minus hc => simp [wordValues, stripWord?, ne_of_isDigit hc (d := 'I') rfl]

/-- What begins a number is read as a number, and not as a word. -/
theorem readPlain_of_startsNumber {s : List Char} (h : StartsNumber s) :
    readPlain s = readNumber s := by
  unfold readPlain
  split
  · next answer hsome =>
    obtain ⟨⟨word, value⟩, hentry, hstrip⟩ := List.exists_of_findSome?_eq_some hsome
    have hnone := stripWord?_of_startsNumber h _ hentry
    dsimp only at hnone hstrip
    rw [hnone] at hstrip
    cases hstrip
  · rfl

/-! ### Values -/

variable {fuel room : Nat} {s t t' rest : List Char}

/-- What begins with no quote and no bracket is read as a word or a number. -/
theorem readValue_of_plain (hquote : ∀ t, s ≠ '"' :: t) (hbracket : ∀ t, s ≠ '[' :: t)
    (hbrace : ∀ t, s ≠ '{' :: t) : readValue (fuel + 1) room s = readPlain s := by
  unfold readValue
  split
  · next t => exact absurd rfl (hquote t)
  · next t => exact absurd rfl (hbracket t)
  · next t => exact absurd rfl (hbrace t)
  · rfl

/-- A word or a number is read as its value. -/
theorem SpellsPlain.readValue_eq {value : Value} (h : SpellsPlain s value) (hrest : Follows rest) :
    readValue (fuel + 1) room (s ++ rest) = .ok (value, rest) := by
  cases h with
  | word h =>
    simp only [wordValues, List.mem_cons, List.not_mem_nil, or_false, Prod.mk.injEq] at h
    rcases h with ⟨rfl, rfl⟩ | ⟨rfl, rfl⟩ | ⟨rfl, rfl⟩ | ⟨rfl, rfl⟩ | ⟨rfl, rfl⟩ | ⟨rfl, rfl⟩ <;>
      rfl
  | @number sign whole fraction exponent digits negative power value hsign hwhole hfraction
      hexponent hvalue =>
    have hstart := hsign.startsNumber hwhole (fraction ++ (exponent ++ rest))
    simp only [List.append_assoc]
    rw [readValue_of_plain (hstart.ne_cons rfl (by decide)) (hstart.ne_cons rfl (by decide))
        (hstart.ne_cons rfl (by decide)), readPlain_of_startsNumber hstart,
      readNumber_of_spells hsign hwhole hfraction hexponent hrest, hvalue]
    rfl

/-- A text between quotes is read as a value. -/
theorem SpellsText.readValue_eq {units : List Nat} (h : SpellsText s units) (rest : List Char) :
    readValue (fuel + 1) room ('"' :: (s ++ '"' :: rest)) = .ok (.text (textOf units), rest) := by
  unfold readValue
  simp only [h.readText_eq]
  rfl

/-- A list is read once its items are. -/
theorem readValue_items {items : List Value} (hs : ∀ t, skipSpace s ≠ ']' :: t)
    (h : readItems fuel room (skipSpace s) = .ok (items, rest)) :
    readValue (fuel + 1) (room + 1) ('[' :: s) = .ok (.array items, rest) := by
  unfold readValue
  simp only [h]
  rfl

/-- An object is read once its members are. -/
theorem readValue_members {members : Members} (hs : ∀ t, skipSpace s ≠ '}' :: t)
    (h : readMembers fuel room [] (skipSpace s) = .ok (members, rest)) :
    readValue (fuel + 1) (room + 1) ('{' :: s) = .ok (.object members, rest) := by
  unfold readValue
  simp only [h]
  rfl

/-- A list may have no items. -/
theorem readValue_noItems (hs : skipSpace s = ']' :: rest) :
    readValue (fuel + 1) (room + 1) ('[' :: s) = .ok (.array [], rest) := by
  unfold readValue
  simp only [hs]
  rfl

/-- An object may have no members. -/
theorem readValue_noMembers (hs : skipSpace s = '}' :: rest) :
    readValue (fuel + 1) (room + 1) ('{' :: s) = .ok (.object [], rest) := by
  unfold readValue
  simp only [hs]
  rfl

/-- An item before the closing bracket is the last one. -/
theorem readItems_last {item : Value} (h : readValue fuel room s = .ok (item, t))
    (ht : skipSpace t = ']' :: rest) : readItems (fuel + 1) room s = .ok ([item], rest) := by
  unfold readItems
  simp only [h, bind, Except.bind, ht]
  rfl

/-- After an item and a comma the other items are read. -/
theorem readItems_next {item : Value} {items : List Value}
    (h : readValue fuel room s = .ok (item, t)) (ht : skipSpace t = ',' :: t')
    (hnext : readItems fuel room (skipSpace t') = .ok (items, rest)) :
    readItems (fuel + 1) room s = .ok (item :: items, rest) := by
  unfold readItems
  simp only [h, bind, Except.bind, ht, hnext]
  rfl

/-- A name is read up to the white space after its colon. -/
theorem SpellsText.readName_eq {name w : List Char} {units : List Nat} (h : SpellsText name units)
    (hw : Spaces w) (s : List Char) :
    readName ('"' :: (name ++ '"' :: (w ++ ':' :: s))) = .ok (textOf units, skipSpace s) := by
  have hcolon : skipSpace (w ++ ':' :: s) = ':' :: s := skipSpace_append_cons hw rfl s
  unfold readName
  simp only [h.readText_eq, bind, Except.bind, hcolon]
  rfl

/-- A member before the closing bracket is the last one. -/
theorem readMembers_last {known : Members} {name : Text.Raw} {value : Value}
    (hname : readName s = .ok (name, t)) (h : readValue fuel room t = .ok (value, t'))
    (ht : skipSpace t' = '}' :: rest) :
    readMembers (fuel + 1) room known s = .ok (known.put name value, rest) := by
  unfold readMembers
  simp only [hname, h, bind, Except.bind, ht]
  rfl

/-- After a member and a comma the other members are read. -/
theorem readMembers_next {known members : Members} {name : Text.Raw} {value : Value}
    {t'' : List Char} (hname : readName s = .ok (name, t))
    (h : readValue fuel room t = .ok (value, t')) (ht : skipSpace t' = ',' :: t'')
    (hnext : readMembers fuel room (known.put name value) (skipSpace t'') = .ok (members, rest)) :
    readMembers (fuel + 1) room known s = .ok (members, rest) := by
  unfold readMembers
  simp only [hname, h, bind, Except.bind, ht, hnext]

/-! ### Parts -/

/-- A value begins with something that is no blank, no closing bracket and no byte order mark. -/
theorem Spells.exists_eq_cons {source : Source} (h : Spells room s (.value source)) :
    ∃ c t, s = c :: t ∧ isSpace c = false ∧ c ≠ ']' ∧ c ≠ '\ufeff' := by
  cases h with
  | plain h =>
    cases h with
    | word h =>
      simp only [wordValues, List.mem_cons, List.not_mem_nil, or_false, Prod.mk.injEq] at h
      rcases h with ⟨rfl, -⟩ | ⟨rfl, -⟩ | ⟨rfl, -⟩ | ⟨rfl, -⟩ | ⟨rfl, -⟩ | ⟨rfl, -⟩ <;>
        exact ⟨_, _, rfl, by decide⟩
    | @number sign whole fraction exponent digits negative power value hsign hwhole =>
      have hstart := hsign.startsNumber hwhole (fraction ++ exponent)
      generalize sign ++ (whole ++ (fraction ++ exponent)) = text at hstart
      cases hstart with
      | digit hc =>
        have hne := fun d => ne_of_isDigit (d := d) hc
        refine ⟨_, _, rfl, ?_, hne ']' rfl, hne '\ufeff' rfl⟩
        simp [isSpace, hne ' ' rfl, hne '\t' rfl, hne '\n' rfl, hne '\r' rfl]
      | minus hc => exact ⟨_, _, rfl, by decide⟩
  | text | emptyList | list | emptyObject | object => exact ⟨_, _, rfl, by decide⟩

/-- There is a step to spend on a value, since its text is not empty. -/
theorem Spells.exists_eq_succ {source : Source} (h : Spells room s (.value source))
    (hfuel : s.length ≤ fuel) : ∃ n, fuel = n + 1 := by
  obtain ⟨c, t, rfl, -⟩ := h.exists_eq_cons
  rw [List.length_cons] at hfuel
  exact ⟨fuel - 1, by omega⟩

/-- White space before a value is skipped, and nothing of the value. -/
theorem Spells.skipSpace_value {source : Source} (h : Spells room s (.value source))
    {w : List Char} (hw : Spaces w) (t : List Char) : skipSpace (w ++ (s ++ t)) = s ++ t := by
  obtain ⟨c, s, rfl, hc, -⟩ := h.exists_eq_cons
  exact skipSpace_append_cons hw hc _

/-- The first of several items is no end of a list. -/
theorem Spells.skipSpace_items_ne {values : List Value} (h : Spells room s (.items values))
    (t t' : List Char) : skipSpace (s ++ t) ≠ ']' :: t' := by
  have hvalue {w s more : List Char} {source : Source} (hw : Spaces w)
      (h : Spells room s (.value source)) : skipSpace (w ++ (s ++ more)) ≠ ']' :: t' := by
    rw [h.skipSpace_value hw]
    obtain ⟨c, s, rfl, -, hc, -⟩ := h.exists_eq_cons
    intro heq
    exact hc (List.cons.inj heq).1
  cases h with
  | lastItem hw₁ h hw₂ =>
    rw [List.append_assoc, List.append_assoc]
    exact hvalue hw₁ h
  | nextItem hw₁ h hw₂ ht =>
    rw [List.append_assoc, List.append_assoc]
    exact hvalue hw₁ h

/-- The name of the first of several members is no end of an object. -/
theorem Spells.skipSpace_members_ne {given : Given} (h : Spells room s (.members given))
    (t t' : List Char) : skipSpace (s ++ t) ≠ '}' :: t' := by
  have hname {w more : List Char} (hw : Spaces w) : skipSpace (w ++ '"' :: more) ≠ '}' :: t' := by
    rw [skipSpace_append_cons hw rfl]
    rintro ⟨⟩
  cases h with
  | lastMember hw₁ =>
    rw [List.append_assoc, List.cons_append]
    exact hname hw₁
  | nextMember hw₁ =>
    rw [List.append_assoc, List.cons_append]
    exact hname hw₁

/-- A name is read with its colon, up to the value. -/
theorem Spells.readName_eq {name w₁ w₂ : List Char} {units : List Nat} {source : Source}
    (h : Spells room s (.value source)) (hname : SpellsText name units) (hw₁ : Spaces w₁)
    (hw₂ : Spaces w₂) (t : List Char) :
    readName ('"' :: (name ++ '"' :: (w₁ ++ ':' :: (w₂ ++ (s ++ t))))) =
      .ok (textOf units, s ++ t) := by
  rw [hname.readName_eq hw₁, h.skipSpace_value hw₂]

/-- What the readers make of the text of a part, with as many steps to spend as it has
characters. -/
def Reads (room : Nat) (s : List Char) : Part → Prop
  | .value source => ∀ {fuel : Nat} {rest : List Char}, s.length ≤ fuel + 1 → Follows rest →
      readValue (fuel + 1) room (s ++ rest) = .ok (source.value, rest)
  | .items values => ∀ {fuel : Nat} {rest : List Char}, s.length ≤ fuel →
      readItems (fuel + 1) room (skipSpace (s ++ ']' :: rest)) = .ok (values, rest)
  | .members given => ∀ {fuel : Nat} {rest : List Char} {known : Members}, s.length ≤ fuel →
      readMembers (fuel + 1) room known (skipSpace (s ++ '}' :: rest)) =
        .ok (collect known given, rest)

/-- Whatever is spelled is read. -/
theorem Spells.reads {part : Part} (h : Spells room s part) : Reads room s part := by
  induction h with
  | plain h =>
    intro fuel rest hfuel hrest
    exact h.readValue_eq hrest
  | text h =>
    intro fuel rest hfuel hrest
    rw [List.cons_append, List.append_assoc]
    exact h.readValue_eq rest
  | @emptyList room w hw =>
    intro fuel rest hfuel hrest
    have hend : skipSpace (w ++ ']' :: rest) = ']' :: rest := skipSpace_append_cons hw rfl rest
    rw [List.cons_append, List.append_assoc]
    exact readValue_noItems hend
  | list h ih =>
    intro fuel rest hfuel hrest
    simp only [List.length_cons, List.length_append, List.length_nil] at hfuel
    obtain ⟨fuel, rfl⟩ : ∃ n, fuel = n + 1 := ⟨fuel - 1, by omega⟩
    rw [List.cons_append, List.append_assoc]
    exact readValue_items (h.skipSpace_items_ne _) (ih (by omega))
  | @emptyObject room w hw =>
    intro fuel rest hfuel hrest
    have hend : skipSpace (w ++ '}' :: rest) = '}' :: rest := skipSpace_append_cons hw rfl rest
    rw [List.cons_append, List.append_assoc]
    exact readValue_noMembers hend
  | object h ih =>
    intro fuel rest hfuel hrest
    simp only [List.length_cons, List.length_append, List.length_nil] at hfuel
    obtain ⟨fuel, rfl⟩ : ∃ n, fuel = n + 1 := ⟨fuel - 1, by omega⟩
    rw [List.cons_append, List.append_assoc]
    exact readValue_members (h.skipSpace_members_ne _) (ih (by omega))
  | @lastItem room w₁ s w₂ source hw₁ h hw₂ ih =>
    intro fuel rest hfuel
    simp only [List.length_append] at hfuel
    have hlength : s.length ≤ fuel := by omega
    obtain ⟨fuel, rfl⟩ := h.exists_eq_succ hlength
    have hrest : Follows (w₂ ++ ']' :: rest) := (follows_cons (by decide) rest).append hw₂
    have hitem : readValue (fuel + 1) room (s ++ (w₂ ++ ']' :: rest)) =
        .ok (source.value, w₂ ++ ']' :: rest) := ih (by omega) hrest
    rw [List.append_assoc, List.append_assoc, h.skipSpace_value hw₁]
    exact readItems_last hitem (skipSpace_append_cons hw₂ rfl rest)
  | @nextItem room w₁ s w₂ t source values hw₁ h hw₂ ht ih iht =>
    intro fuel rest hfuel
    simp only [List.length_append, List.length_cons] at hfuel
    obtain ⟨fuel, rfl⟩ : ∃ n, fuel = n + 1 := ⟨fuel - 1, by omega⟩
    have hrest : Follows (w₂ ++ ',' :: (t ++ ']' :: rest)) :=
      (follows_cons (by decide) _).append hw₂
    have hitem : readValue (fuel + 1) room (s ++ (w₂ ++ ',' :: (t ++ ']' :: rest))) =
        .ok (source.value, w₂ ++ ',' :: (t ++ ']' :: rest)) := ih (by omega) hrest
    have hitems : readItems (fuel + 1) room (skipSpace (t ++ ']' :: rest)) = .ok (values, rest) :=
      iht (by omega)
    rw [List.append_assoc, List.append_assoc, List.append_assoc, List.cons_append,
      h.skipSpace_value hw₁]
    exact readItems_next hitem (skipSpace_append_cons hw₂ rfl _) hitems
  | @lastMember room w₁ name w₂ w₃ s w₄ units source hw₁ hname hw₂ hw₃ h hw₄ ih =>
    intro fuel rest known hfuel
    simp only [List.length_append, List.length_cons] at hfuel
    obtain ⟨fuel, rfl⟩ : ∃ n, fuel = n + 1 := ⟨fuel - 1, by omega⟩
    have hrest : Follows (w₄ ++ '}' :: rest) := (follows_cons (by decide) rest).append hw₄
    have hvalue : readValue (fuel + 1) room (s ++ (w₄ ++ '}' :: rest)) =
        .ok (source.value, w₄ ++ '}' :: rest) := ih (by omega) hrest
    have hread := h.readName_eq hname hw₂ hw₃ (w₄ ++ '}' :: rest)
    simp only [List.append_assoc, List.cons_append]
    rw [skipSpace_append_cons hw₁ rfl]
    exact readMembers_last hread hvalue (skipSpace_append_cons hw₄ rfl rest)
  | @nextMember room w₁ name w₂ w₃ s w₄ t units source given hw₁ hname hw₂ hw₃ h hw₄ ht ih iht =>
    intro fuel rest known hfuel
    simp only [List.length_append, List.length_cons] at hfuel
    obtain ⟨fuel, rfl⟩ : ∃ n, fuel = n + 1 := ⟨fuel - 1, by omega⟩
    have hrest : Follows (w₄ ++ ',' :: (t ++ '}' :: rest)) :=
      (follows_cons (by decide) _).append hw₄
    have hvalue : readValue (fuel + 1) room (s ++ (w₄ ++ ',' :: (t ++ '}' :: rest))) =
        .ok (source.value, w₄ ++ ',' :: (t ++ '}' :: rest)) := ih (by omega) hrest
    have hmembers : readMembers (fuel + 1) room (known.put (textOf units) source.value)
        (skipSpace (t ++ '}' :: rest)) =
        .ok (collect (known.put (textOf units) source.value) given, rest) := iht (by omega)
    have hread := h.readName_eq hname hw₂ hw₃ (w₄ ++ ',' :: (t ++ '}' :: rest))
    simp only [List.append_assoc, List.cons_append]
    rw [skipSpace_append_cons hw₁ rfl]
    exact readMembers_next hread hvalue (skipSpace_append_cons hw₄ rfl _) hmembers

/-! ### Documents -/

/-- No document that spells a value begins with a byte order mark. -/
theorem Spells.ne_byteOrderMark {w₁ w₂ : List Char} {source : Source} (hw₁ : Spaces w₁)
    (h : Spells room s (.value source)) : w₁ ++ (s ++ w₂) ≠ '\ufeff' :: rest := by
  intro heq
  cases w₁ with
  | nil =>
    obtain ⟨c, t, rfl, -, -, hmark⟩ := h.exists_eq_cons
    exact hmark (List.cons.inj heq).1
  | cons c w₁ =>
    obtain rfl := (List.cons.inj heq).1
    exact absurd (hw₁ _ List.mem_cons_self) (by decide)

/-- **A document is read as what it spells.** Blanks may stand around the value. -/
theorem read_of_spells {w₁ w₂ : List Char} {source : Source} (hw₁ : Spaces w₁)
    (h : Spells maxDepth s (.value source)) (hw₂ : Spaces w₂) :
    read (w₁ ++ (s ++ w₂)) = .ok source.value := by
  have hfollows : Follows w₂ := by
    rw [← List.append_nil w₂]
    exact follows_nil.append hw₂
  have hend : skipSpace w₂ = [] := by
    rw [← List.append_nil w₂]
    exact skipSpace_append hw₂ []
  have hread : readValue (budget (w₁ ++ (s ++ w₂)).length) maxDepth (s ++ w₂) =
      .ok (source.value, w₂) := by
    refine h.reads ?_ hfollows
    simp only [List.length_append]
    omega
  unfold read
  split
  · next rest heq => exact absurd heq (h.ne_byteOrderMark hw₁)
  · simp only [h.skipSpace_value hw₁, hread, bind, Except.bind, hend]
    rfl

/-- What nests less deep may also nest deeper. -/
theorem Spells.mono {part : Part} (h : Spells room s part) {room' : Nat} (hle : room ≤ room') :
    Spells room' s part := by
  induction h generalizing room' with
  | plain h => exact .plain h
  | text h => exact .text h
  | emptyList hw =>
    obtain ⟨n, rfl⟩ := Nat.exists_eq_add_of_le' hle
    exact .emptyList hw
  | list h ih =>
    obtain ⟨n, rfl⟩ := Nat.exists_eq_add_of_le' hle
    exact .list (ih (Nat.le_add_left _ n))
  | emptyObject hw =>
    obtain ⟨n, rfl⟩ := Nat.exists_eq_add_of_le' hle
    exact .emptyObject hw
  | object h ih =>
    obtain ⟨n, rfl⟩ := Nat.exists_eq_add_of_le' hle
    exact .object (ih (Nat.le_add_left _ n))
  | lastItem hw₁ h hw₂ ih => exact .lastItem hw₁ (ih hle) hw₂
  | nextItem hw₁ h hw₂ ht ih iht => exact .nextItem hw₁ (ih hle) hw₂ (iht hle)
  | lastMember hw₁ hname hw₂ hw₃ h hw₄ ih => exact .lastMember hw₁ hname hw₂ hw₃ (ih hle) hw₄
  | nextMember hw₁ hname hw₂ hw₃ h hw₄ ht ih iht =>
    exact .nextMember hw₁ hname hw₂ hw₃ (ih hle) hw₄ (iht hle)

/-- **A document that is an object is read as the object.** Of each name the last value that is
given is left. -/
theorem read_of_spellsObject {document : List Char} {given : Given}
    (h : SpellsObject room document given) (hroom : room < maxDepth) :
    read document = .ok (.object (collect [] given)) := by
  cases h with
  | empty hw₁ hw₂ hw₃ =>
    have hobject : Spells maxDepth _ (.value (.other (.object []))) :=
      (Spells.emptyObject hw₂).mono hroom
    exact read_of_spells hw₁ hobject hw₃
  | members hw₁ h hw₃ =>
    exact read_of_spells hw₁ ((Spells.object h).mono hroom) hw₃

end ChatDice.Json
