import ChatDice.Proofs.Spelling

/-!
# Reading one term

The readers of terms take a body apart with maximal runs of characters. Here they are compared with
the spellings: `diceSpec` and `literal` read a tight text exactly as the payloads that it spells
(`diceSpec_eq_ok_iff`, `literal_eq_ok_iff`), and so does `readTerm` with the operator in front
(`readTerm_eq_ok_iff`). Where they fail, the fault is one of form (`found_of_readTerm`).

The shape of a group of dice is settled first, without regard to what its letters mean or how large
its numbers are: `ShapedDice` says which texts `diceText?` takes apart, up to a last line feed.
-/

namespace ChatDice

/-! ### Steps that may fail -/

variable {ε α β : Type}

/-- Two computations, one after the other, give a value if both do. -/
theorem bind_eq_ok_iff {x : Except ε α} {f : α → Except ε β} {b : β} :
    (x >>= f) = .ok b ↔ ∃ a, x = .ok a ∧ f a = .ok b := by
  cases x <;> simp [bind, Except.bind]

/-- Two computations, one after the other, fail as the first does, or as the second does once the
first has given a value. -/
theorem bind_eq_error_iff {x : Except ε α} {f : α → Except ε β} {e : ε} :
    (x >>= f) = .error e ↔ x = .error e ∨ ∃ a, x = .ok a ∧ f a = .error e := by
  cases x <;> simp [bind, Except.bind]

/-- What becomes of failures does not touch the values. -/
theorem mapError_eq_ok_iff {f : ε → ε} {x : Except ε α} {a : α} :
    x.mapError f = .ok a ↔ x = .ok a := by
  cases x <;> simp [Except.mapError]

/-- A failure after the change comes from one before it. -/
theorem mapError_eq_error_iff {f : ε → ε} {x : Except ε α} {e : ε} :
    x.mapError f = .error e ↔ ∃ e', x = .error e' ∧ f e' = e := by
  cases x <;> simp [Except.mapError]

/-- A failure that is a fault of form. -/
def Failure.IsMalformed (failure : Failure) : Prop :=
  ∃ fault, failure = .malformed fault

/-- A fault that reading can find. What is too long to be a number is a numeral all the same, and
whatever stands for an operator is one of the four. -/
def FormatFault.IsFound : FormatFault → Prop
  | .tooManyDigits digits => Numeral.IsNumeral digits
  | .unknownOperator _ => False
  | _ => True

/-- A failure that is a fault of form as reading finds it. -/
def Failure.IsFound (failure : Failure) : Prop :=
  ∃ fault : FormatFault, failure = .malformed fault ∧ fault.IsFound

/-- What reading finds is a fault of form. -/
theorem Failure.IsFound.isMalformed {failure : Failure} (h : failure.IsFound) :
    failure.IsMalformed := by
  obtain ⟨fault, hfault, -⟩ := h
  exact ⟨fault, hfault⟩

namespace Command

open Numeral (IsNumeral Digits cap value)
open Text (Tight)

/-! ### Maximal runs -/

/-- What is taken while a property holds ends where it does. -/
theorem takeWhile_append_of_head {p : Char → Bool} {s t : List Char} (hs : ∀ c ∈ s, p c = true)
    (ht : ∀ c ∈ t.head?, p c = false) : (s ++ t).takeWhile p = s := by
  rw [List.takeWhile_append_of_pos hs]
  cases t with
  | nil => simp
  | cons c t => rw [List.takeWhile_cons_of_neg (by simp [ht c rfl]), List.append_nil]

/-- What is left begins where the property ends. -/
theorem dropWhile_append_of_head {p : Char → Bool} {s t : List Char} (hs : ∀ c ∈ s, p c = true)
    (ht : ∀ c ∈ t.head?, p c = false) : (s ++ t).dropWhile p = t := by
  rw [List.dropWhile_append_of_pos hs]
  cases t with
  | nil => rfl
  | cons c t => exact List.dropWhile_cons_of_neg (by simp [ht c rfl])

/-- A pattern may end before one line feed at the end of the text. -/
theorem atEnd_iff {s : List Char} : atEnd s = true ↔ s = [] ∨ s = ['\n'] := by
  simp [atEnd]

/-- What stands at the end of a text begins with a line feed if with anything. -/
theorem head?_of_atEnd {s : List Char} (h : atEnd s = true) : ∀ c ∈ s.head?, c = '\n' := by
  rcases atEnd_iff.mp h with rfl | rfl <;> simp

/-- A tight text has no line feed at its end to be passed over. -/
theorem eq_nil_of_tight_append {s tail : List Char} (h : Tight (s ++ tail))
    (hend : atEnd tail = true) : tail = [] := by
  apply Text.eq_nil_of_tight_append_right _ h
  rcases atEnd_iff.mp hend with rfl | rfl <;> decide

/-! ### The shape of a group of dice -/

/-- The text of a modifier taken apart. The letters need not stand for a kind. -/
inductive ShapedModifier : List Char → Option (List Char × List Char) → Prop
  | absent : ShapedModifier [] none
  | present {letters digits : List Char} (hne : letters ≠ [])
      (hletters : ∀ c ∈ letters, isModifierLetter c = true) (hdigits : IsNumeral digits) :
      ShapedModifier (letters ++ digits) (some (letters, digits))

/-- The text of a group of dice taken apart. -/
inductive ShapedDice : List Char → DiceText → Prop
  | intro {count sides rest : List Char} {c : Char} {m : Option (List Char × List Char)}
      (hcount : Digits count) (hc : isSeparator c = true) (hsides : IsNumeral sides)
      (hrest : ShapedModifier rest m) :
      ShapedDice (count ++ c :: (sides ++ rest)) ⟨count, sides, m⟩

/-- No digit is a modifier letter. -/
theorem isModifierLetter_eq_false_of_isDigit {c : Char} (h : c.isDigit = true) :
    isModifierLetter c = false := by
  simp only [isModifierLetter, Bool.or_eq_false_iff, beq_eq_false_iff_ne]
  refine ⟨⟨?_, ?_⟩, ?_⟩ <;> rintro rfl <;> exact absurd h (by decide)

/-- The letter between the dice and their sides is no digit. -/
theorem isDigit_eq_false_of_isSeparator {c : Char} (h : isSeparator c = true) :
    c.isDigit = false := by
  simp only [isSeparator, Bool.or_eq_true, beq_iff_eq] at h
  rcases h with rfl | rfl <;> rfl

/-- No modifier letter is a digit. -/
theorem isDigit_eq_false_of_isModifierLetter {c : Char} (h : isModifierLetter c = true) :
    c.isDigit = false := by
  rw [← Bool.not_eq_true]
  intro hd
  rw [isModifierLetter_eq_false_of_isDigit hd] at h
  exact Bool.false_ne_true h

/-- At the end of a text there is no digit. -/
theorem isDigit_eq_false_of_atEnd {s : List Char} (h : atEnd s = true) :
    ∀ c ∈ s.head?, c.isDigit = false := by
  intro c hc
  rw [head?_of_atEnd h c hc]
  rfl

/-- A modifier is found before the end of a text. -/
theorem modifierText?_of_shaped {s tail : List Char} {m : Option (List Char × List Char)}
    (h : ShapedModifier s m) (hend : atEnd tail = true) : modifierText? (s ++ tail) = some m := by
  cases h with
  | absent => simp [modifierText?, hend]
  | @present letters digits hne hletters hdigits =>
    have hdigit : ∀ c ∈ (digits ++ tail).head?, isModifierLetter c = false := by
      intro c hc
      rw [List.head?_append_of_ne_nil _ hdigits.ne_nil] at hc
      exact isModifierLetter_eq_false_of_isDigit (hdigits.digits c (List.mem_of_mem_head? hc))
    have htail := isDigit_eq_false_of_atEnd hend
    have hstart : atEnd (letters ++ (digits ++ tail)) = false := by
      rw [← Bool.not_eq_true]
      intro hcon
      obtain ⟨c, letters, rfl⟩ := List.exists_cons_of_ne_nil hne
      have hc := hletters c List.mem_cons_self
      rw [head?_of_atEnd hcon c rfl] at hc
      exact absurd hc (by decide)
    rw [List.append_assoc, modifierText?, hstart]
    simp only [takeWhile_append_of_head hletters hdigit, dropWhile_append_of_head hletters hdigit,
      takeWhile_append_of_head hdigits.digits htail, dropWhile_append_of_head hdigits.digits htail]
    simp [hne, hdigits.ne_nil, hend]

/-- What is found as a modifier has its shape, up to the end of the text. -/
theorem shaped_of_modifierText? {s : List Char} {m : Option (List Char × List Char)}
    (h : modifierText? s = some m) :
    ∃ t tail, ShapedModifier t m ∧ atEnd tail = true ∧ s = t ++ tail := by
  unfold modifierText? at h
  split at h
  · next hend =>
    cases h
    exact ⟨[], s, .absent, hend, rfl⟩
  · simp only at h
    split at h
    · cases h
    · next hparts =>
      cases h
      simp only [not_or, Bool.not_eq_false] at hparts
      obtain ⟨hletters, hdigits, hend⟩ := hparts
      refine ⟨_, _, .present hletters (fun c hc => List.mem_takeWhile_imp hc)
        ⟨hdigits, fun c hc => List.mem_takeWhile_imp hc⟩, hend, ?_⟩
      rw [List.append_assoc, List.takeWhile_append_dropWhile, List.takeWhile_append_dropWhile]

/-- Dice are found before the end of a text. -/
theorem diceText?_of_shaped {s tail : List Char} {text : DiceText} (h : ShapedDice s text)
    (hend : atEnd tail = true) : diceText? (s ++ tail) = some text := by
  cases h with
  | @intro count sides rest c m hcount hc hsides hrest =>
    have hhead : ∀ d ∈ (c :: (sides ++ (rest ++ tail))).head?, d.isDigit = false := by
      rintro d ⟨⟩
      exact isDigit_eq_false_of_isSeparator hc
    have hnext : ∀ d ∈ (rest ++ tail).head?, d.isDigit = false := by
      cases hrest with
      | absent => exact isDigit_eq_false_of_atEnd hend
      | present hne hletters hdigits =>
        intro d hd
        rw [List.append_assoc, List.head?_append_of_ne_nil _ hne] at hd
        exact isDigit_eq_false_of_isModifierLetter (hletters d (List.mem_of_mem_head? hd))
    rw [List.append_assoc, List.cons_append, List.append_assoc, diceText?,
      dropWhile_append_of_head hcount hhead]
    simp only [takeWhile_append_of_head hcount hhead,
      takeWhile_append_of_head hsides.digits hnext, dropWhile_append_of_head hsides.digits hnext,
      modifierText?_of_shaped hrest hend]
    simp [hc, hsides.ne_nil]

/-- What is found as dice has their shape, up to the end of the text. -/
theorem shaped_of_diceText? {body : List Char} {text : DiceText} (h : diceText? body = some text) :
    ∃ s tail, ShapedDice s text ∧ atEnd tail = true ∧ body = s ++ tail := by
  unfold diceText? at h
  split at h
  · cases h
  · next c rest hrest =>
    simp only at h
    split at h
    · cases h
    · next hparts =>
      simp only [not_or, Bool.not_eq_false] at hparts
      obtain ⟨m, hm, rfl⟩ := Option.map_eq_some_iff.mp h
      obtain ⟨t, tail, hshape, hend, ht⟩ := shaped_of_modifierText? hm
      refine ⟨_, tail, .intro (fun c hc => List.mem_takeWhile_imp hc) hparts.1
        ⟨hparts.2, fun c hc => List.mem_takeWhile_imp hc⟩ hshape, hend, ?_⟩
      rw [List.append_assoc, List.cons_append, List.append_assoc, ← ht,
        List.takeWhile_append_dropWhile, ← hrest, List.takeWhile_append_dropWhile]

/-- A group of dice is taken apart into the parts that it has, and nothing else is. -/
theorem diceText?_eq_some_iff {body : List Char} {text : DiceText} :
    diceText? body = some text ↔
      ∃ s tail, ShapedDice s text ∧ atEnd tail = true ∧ body = s ++ tail := by
  constructor
  · exact shaped_of_diceText?
  · rintro ⟨s, tail, hshape, hend, rfl⟩
    exact diceText?_of_shaped hshape hend

/-- A numeral is read as its value, if that is below the cap. -/
theorem number_of_isNumeral {text : List Char} (h : IsNumeral text) :
    number text =
      if value text < cap then .ok (value text) else .error (.malformed (.tooManyDigits text)) := by
  have hread := Numeral.integer?_significant h
  have hlen := Numeral.length_significant_le_maxDigits_iff h.digits
  rw [number]
  by_cases hlt : value text < cap
  · rw [if_neg (Nat.not_lt.mpr (hlen.mpr hlt)), if_pos hlt, hread]
  · rw [if_pos (Nat.not_le.mp fun hle => hlt (hlen.mp hle)), if_neg hlt]

/-- A numeral below the cap is read, and none other. -/
theorem number_eq_ok_iff {text : List Char} (h : IsNumeral text) {n : Nat} :
    number text = .ok n ↔ value text < cap ∧ n = value text := by
  rw [number_of_isNumeral h]
  split
  · next hlt => simp [hlt, eq_comm]
  · next hge => simp [hge]

/-- A numeral can only have too many digits. -/
theorem found_of_number {text : List Char} (h : IsNumeral text) {failure : Failure}
    (hfail : number text = .error failure) : failure.IsFound := by
  rw [number_of_isNumeral h] at hfail
  split at hfail
  · cases hfail
  · cases hfail
    exact ⟨_, rfl, h⟩

variable {readCount : List Char → Nat}

/-- Letters that stand for a kind are letters of modifiers, and a kind is spelled by them alone. -/
theorem spellsModifier_iff {s : List Char} {m : Option Modifier} :
    SpellsModifier readCount s m ↔
      ∃ parts, ShapedModifier s parts ∧ modifier readCount parts = .ok m := by
  constructor
  · rintro (_ | ⟨kind, h⟩)
    · exact ⟨none, .absent, rfl⟩
    · have hne : kind.letters ≠ [] := by cases kind <;> decide
      refine ⟨_, .present hne isModifierLetter_of_mem_letters h, ?_⟩
      simp only [modifier, ModifierKind.ofLetters?_letters]
  · rintro ⟨parts, _ | ⟨hne, hletters, hdigits⟩, h⟩
    · cases h
      exact .absent
    · simp only [modifier] at h
      split at h
      · next kind hkind =>
        cases h
        rw [← ModifierKind.letters_of_ofLetters? hkind]
        exact .present kind hdigits
      · cases h

/-- A modifier can only have a fault of form. -/
theorem found_of_modifier {parts : Option (List Char × List Char)} {failure : Failure}
    (h : modifier readCount parts = .error failure) : failure.IsFound := by
  unfold modifier at h
  split at h
  · cases h
  · split at h
    · cases h
    · cases h
      exact ⟨_, rfl, trivial⟩

/-! ### Groups of dice -/

/-- A count that is not spelled is one. -/
theorem spellsCount_iff {s : List Char} (h : Digits s) {n : Int} :
    SpellsCount readCount s n ↔ n = (if s = [] then 1 else readCount s : Nat) := by
  constructor
  · rintro (_ | h)
    · rfl
    · rw [if_neg h.ne_nil]
  · rintro rfl
    split
    · next hs => exact hs ▸ .omitted
    · next hs => exact .written ⟨hs, h⟩

/-- What a group of dice means, read off its parts. -/
theorem diceSpec_eq_ok_iff_of_diceText? {body : List Char} {text : DiceText} {spec : DiceSpec}
    (h : diceText? body = some text) :
    diceSpec readCount body = .ok spec ↔
      ∃ m sides, modifier readCount text.modifier = .ok m ∧ number text.sides = .ok sides ∧
        spec = ⟨(if text.count = [] then 1 else readCount text.count : Nat), sides, m⟩ := by
  simp only [diceSpec, h, bind_eq_ok_iff]
  constructor
  · rintro ⟨m, hm, sides, hsides, hspec⟩
    exact ⟨m, sides, hm, hsides, (Except.ok.inj hspec).symm⟩
  · rintro ⟨m, sides, hm, hsides, rfl⟩
    exact ⟨m, hm, sides, hsides, rfl⟩

/-- A text is read as the group of dice that it spells, up to a last line feed. -/
theorem diceSpec_eq_ok_iff_append {body : List Char} {spec : DiceSpec} :
    diceSpec readCount body = .ok spec ↔
      ∃ s tail, SpellsPayload readCount s (.dice spec) ∧ atEnd tail = true ∧ body = s ++ tail := by
  constructor
  · intro h
    cases htext : diceText? body with
    | none => simp [diceSpec, htext] at h
    | some text =>
      obtain ⟨m, sides, hm, hsides, rfl⟩ := (diceSpec_eq_ok_iff_of_diceText? htext).mp h
      obtain ⟨s, tail, hshape, hend, rfl⟩ := diceText?_eq_some_iff.mp htext
      refine ⟨s, tail, ?_, hend, rfl⟩
      cases hshape with
      | intro hcount hc hnum hrest =>
        obtain ⟨hlt, rfl⟩ := (number_eq_ok_iff hnum).mp hsides
        exact .dice ((spellsCount_iff hcount).mpr rfl) hc hnum hlt
          (spellsModifier_iff.mpr ⟨_, hrest, hm⟩)
  · rintro ⟨s, tail, _ | ⟨hcount, hc, hnum, hlt, hrest⟩, hend, rfl⟩
    obtain ⟨parts, hshape, hm⟩ := spellsModifier_iff.mp hrest
    have htext := diceText?_of_shaped (.intro hcount.digits hc hnum hshape) hend
    refine (diceSpec_eq_ok_iff_of_diceText? htext).mpr
      ⟨_, _, hm, (number_eq_ok_iff hnum).mpr ⟨hlt, rfl⟩, ?_⟩
    rw [(spellsCount_iff hcount.digits).mp hcount]

/-- A tight text is read as the group of dice that it spells. -/
theorem diceSpec_eq_ok_iff {body : List Char} {spec : DiceSpec} (hb : Tight body) :
    diceSpec readCount body = .ok spec ↔ SpellsPayload readCount body (.dice spec) := by
  rw [diceSpec_eq_ok_iff_append]
  constructor
  · rintro ⟨s, tail, h, hend, rfl⟩
    rw [eq_nil_of_tight_append hb hend, List.append_nil]
    exact h
  · intro h
    exact ⟨body, [], h, rfl, (List.append_nil body).symm⟩

/-- A group can only have a fault of form. -/
theorem found_of_diceSpec {body : List Char} {failure : Failure}
    (h : diceSpec readCount body = .error failure) : failure.IsFound := by
  cases htext : diceText? body with
  | none =>
    simp only [diceSpec, htext] at h
    cases h
    exact ⟨_, rfl, trivial⟩
  | some text =>
    obtain ⟨s, tail, hshape, -, -⟩ := diceText?_eq_some_iff.mp htext
    simp only [diceSpec, htext] at h
    rcases bind_eq_error_iff.mp h with hm | ⟨m, -, h⟩
    · exact found_of_modifier hm
    rcases bind_eq_error_iff.mp h with hsides | ⟨sides, -, h⟩
    · cases hshape with
      | intro hcount hc hnum hrest => exact found_of_number hnum hsides
    · cases h

/-! ### Literals -/

/-- A numeral is converted to a number together with a line feed after it. -/
theorem literal_append {s tail : List Char} (h : IsNumeral s) (hend : atEnd tail = true) :
    literal (s ++ tail) = number (s ++ tail) := by
  have htail := isDigit_eq_false_of_atEnd hend
  rw [literal, takeWhile_append_of_head h.digits htail, dropWhile_append_of_head h.digits htail,
    hend]
  simp [h.ne_nil]

/-- A numeral is read as a literal. -/
theorem literal_of_isNumeral {body : List Char} (h : IsNumeral body) :
    literal body = number body := by
  have happend : literal (body ++ []) = number (body ++ []) := literal_append h rfl
  rwa [List.append_nil] at happend

/-- A text is a literal only if it is a numeral, up to a last line feed. -/
theorem literal_eq_error_of_ne {body : List Char}
    (h : ∀ s tail, IsNumeral s → atEnd tail = true → body ≠ s ++ tail) :
    literal body = .error (.malformed (.malformedLiteral body)) := by
  rw [literal, if_pos]
  by_contra hcon
  simp only [not_or, Bool.not_eq_false] at hcon
  exact h _ _ ⟨hcon.1, fun c hc => List.mem_takeWhile_imp hc⟩ hcon.2
    List.takeWhile_append_dropWhile.symm

/-- A tight text is a literal only if it is a numeral. -/
theorem literal_eq_error {body : List Char} (hb : Tight body) (h : ¬IsNumeral body) :
    literal body = .error (.malformed (.malformedLiteral body)) := by
  apply literal_eq_error_of_ne
  rintro s tail hs hend rfl
  rw [eq_nil_of_tight_append hb hend, List.append_nil] at h
  exact h hs

/-- Literals are spelled with numerals below the cap. -/
theorem spellsPayload_literal_iff {body : List Char} {n : Int} :
    SpellsPayload readCount body (.literal n) ↔
      IsNumeral body ∧ value body < cap ∧ n = value body := by
  constructor
  · rintro (⟨h, hlt⟩ | _)
    exact ⟨h, hlt, rfl⟩
  · rintro ⟨h, hlt, rfl⟩
    exact .literal h hlt

/-- A tight text is read as the literal that it spells. -/
theorem literal_eq_ok_iff {body : List Char} {n : Nat} (hb : Tight body) :
    literal body = .ok n ↔ SpellsPayload readCount body (.literal n) := by
  rw [spellsPayload_literal_iff, Int.natCast_inj]
  by_cases h : IsNumeral body
  · rw [literal_of_isNumeral h, number_eq_ok_iff h]
    exact ⟨fun hn => ⟨h, hn⟩, fun hn => hn.2⟩
  · rw [literal_eq_error hb h]
    exact ⟨fun hn => (nomatch hn), fun hn => absurd hn.1 h⟩

/-- A literal without blanks around it can only have a fault of form. -/
theorem found_of_literal {body : List Char} (hb : Tight body) {failure : Failure}
    (hfail : literal body = .error failure) : failure.IsFound := by
  by_cases h : IsNumeral body
  · rw [literal_of_isNumeral h] at hfail
    exact found_of_number h hfail
  · rw [literal_eq_error hb h] at hfail
    cases hfail
    exact ⟨_, rfl, trivial⟩

/-! ### Terms -/

/-- What spells dice names them. -/
theorem namesDice_of_spells_dice {body : List Char} {spec : DiceSpec}
    (h : SpellsPayload readCount body (.dice spec)) : namesDice body = true := by
  rcases h with _ | ⟨hcount, hc, hsides, hlt, hrest⟩
  exact List.any_eq_true.mpr ⟨_, List.mem_append_right _ List.mem_cons_self, hc⟩

/-- What spells a literal names no dice. -/
theorem namesDice_of_spells_literal {body : List Char} {n : Int}
    (h : SpellsPayload readCount body (.literal n)) : namesDice body = false := by
  rw [namesDice, List.any_eq_false]
  intro c hc hsep
  have hdigit := (spellsPayload_literal_iff.mp h).1.digits c hc
  rw [isDigit_eq_false_of_isSeparator hsep] at hdigit
  cases hdigit

section readTerm

variable {first : Bool} {slice body : List Char} {operator : Operator} {term : Term}
  (hslice : splitOperator slice = (operator, body)) (hb : Tight body)
include hslice hb

/-- A body that names dice is read as dice, with a modifier only in the first term. -/
theorem readTerm_eq_ok_iff_of_namesDice (hnames : namesDice body = true) :
    readTerm readCount first slice = .ok term ↔
      ∃ spec, SpellsPayload readCount body (.dice spec) ∧
        (first = false → spec.modifier = none) ∧ term = ⟨operator, .dice spec⟩ := by
  simp only [readTerm, hslice, hnames, if_true, bind_eq_ok_iff]
  constructor
  · rintro ⟨spec, hspec, h⟩
    split at h
    · cases h
    · next hmod =>
      refine ⟨spec, (diceSpec_eq_ok_iff hb).mp hspec, ?_, (Except.ok.inj h).symm⟩
      intro hfirst
      simpa [hfirst] using hmod
  · rintro ⟨spec, hspec, hplain, rfl⟩
    refine ⟨spec, (diceSpec_eq_ok_iff hb).mpr hspec, ?_⟩
    rw [if_neg]
    · rfl
    · rintro ⟨hfirst, hmod⟩
      rw [hplain hfirst] at hmod
      cases hmod

/-- A body that names no dice is read as a literal. -/
theorem readTerm_eq_ok_iff_of_not_namesDice (hnames : namesDice body = false) :
    readTerm readCount first slice = .ok term ↔
      ∃ n, SpellsPayload readCount body (.literal n) ∧ term = ⟨operator, .literal n⟩ := by
  simp only [readTerm, hslice, hnames, Bool.false_eq_true, if_false, bind_eq_ok_iff]
  constructor
  · rintro ⟨n, hn, h⟩
    exact ⟨n, (literal_eq_ok_iff hb).mp hn, (Except.ok.inj h).symm⟩
  · rintro ⟨n, hp, rfl⟩
    obtain ⟨-, -, rfl⟩ := spellsPayload_literal_iff.mp hp
    exact ⟨value body, (literal_eq_ok_iff hb).mpr hp, rfl⟩

/-- A slice with a tight body is read as the term that it spells; a modifier is for the first. -/
theorem readTerm_eq_ok_iff :
    readTerm readCount first slice = .ok term ↔
      ∃ p, SpellsPayload readCount body p ∧ (first = false → p.IsPlain) ∧ term = ⟨operator, p⟩ := by
  cases hnames : namesDice body with
  | true =>
    rw [readTerm_eq_ok_iff_of_namesDice hslice hb hnames]
    constructor
    · rintro ⟨spec, hspec, hplain, rfl⟩
      exact ⟨.dice spec, hspec, hplain, rfl⟩
    · rintro ⟨spec | n, hp, hplain, rfl⟩
      · exact ⟨spec, hp, hplain, rfl⟩
      · rw [namesDice_of_spells_literal hp] at hnames
        cases hnames
  | false =>
    rw [readTerm_eq_ok_iff_of_not_namesDice hslice hb hnames]
    constructor
    · rintro ⟨n, hn, rfl⟩
      exact ⟨.literal n, hn, fun _ => trivial, rfl⟩
    · rintro ⟨spec | n, hp, -, rfl⟩
      · rw [namesDice_of_spells_dice hp] at hnames
        cases hnames
      · exact ⟨n, hp, rfl⟩

end readTerm

/-- A term can only have a fault of form. -/
theorem found_of_readTerm {first : Bool} {slice body : List Char} {operator : Operator}
    {failure : Failure} (hslice : splitOperator slice = (operator, body)) (hb : Tight body)
    (h : readTerm readCount first slice = .error failure) : failure.IsFound := by
  simp only [readTerm, hslice] at h
  split at h
  · rcases bind_eq_error_iff.mp h with hspec | ⟨spec, -, h⟩
    · exact found_of_diceSpec hspec
    · split at h
      · cases h
        exact ⟨_, rfl, trivial⟩
      · cases h
  · rcases bind_eq_error_iff.mp h with hn | ⟨n, -, h⟩
    · exact found_of_literal hb hn
    · cases h

end Command

end ChatDice
