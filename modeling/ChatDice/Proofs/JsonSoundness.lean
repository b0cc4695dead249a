import ChatDice.Proofs.JsonReading

/-!
# What is read is spelled

The readers take nothing that is not of the language: a text, a number, a value, the items of a list
and the members of an object that have been read spell what was read, up to where the rest begins.
Together with the way back (`read_of_spells`), a document is read exactly if it spells a value.

Main statement (`read_eq_ok_iff`): what a document is read as, and which documents are read.
-/

namespace ChatDice.Json

open Numeral (Digits IsNumeral)

variable {fuel room : Nat} {s t rest : List Char} {value : Value}

/-! ### Texts -/

/-- What is put before units was read before them. -/
theorem before_eq_ok {unit : Nat} {units : List Nat}
    {result : Except Error (List Nat × List Char)} (h : before unit result = .ok (units, rest)) :
    ∃ tail, result = .ok (tail, rest) ∧ units = unit :: tail := by
  cases result with
  | error why => cases h
  | ok pair =>
    obtain ⟨tail, rest'⟩ := pair
    cases h
    exact ⟨tail, rfl, rfl⟩

/-- The inside of a text that has been read spells its units. -/
theorem spellsText_of_textUnits {start : List Char} {units : List Nat}
    (h : textUnits start s = .ok (units, rest)) :
    ∃ t, s = t ++ '"' :: rest ∧ SpellsText t units := by
  fun_induction textUnits start s generalizing units with
  | case1 => cases h
  | case2 rest' =>
    cases h
    exact ⟨[], rfl, .empty⟩
  | case3 => cases h
  | case4 a b c d unit next tail hunit ih =>
    obtain ⟨units, htail, rfl⟩ := before_eq_ok h
    obtain ⟨t, ht, hspells⟩ := ih htail
    exact ⟨'\\' :: 'u' :: a :: b :: c :: d :: t, by simp [ht], .codePoint hunit hspells⟩
  | case5 => cases h
  | case6 letter tail _ c hletter ih =>
    obtain ⟨units, htail, rfl⟩ := before_eq_ok h
    obtain ⟨t, rfl, hspells⟩ := ih htail
    exact ⟨'\\' :: letter :: t, rfl, .escape hletter hspells⟩
  | case7 => cases h
  | case8 => cases h
  | case9 => cases h
  | case10 c tail hquote hslash _ hescape hc ih =>
    obtain ⟨units, htail, rfl⟩ := before_eq_ok h
    obtain ⟨t, rfl, hspells⟩ := ih htail
    have hne : c ≠ '\\' := by
      rintro rfl
      cases t with
      | nil => exact hescape _ _ rfl rfl
      | cons d t => exact hescape _ _ rfl rfl
    exact ⟨c :: t, rfl, .plain hquote hne (Nat.not_lt.mp hc) hspells⟩

/-- A text that has been read spells what it was read as. -/
theorem spellsText_of_readText {text : Text.Raw} (h : readText s = .ok (text, rest)) :
    ∃ t units, s = t ++ '"' :: rest ∧ SpellsText t units ∧ text = textOf units := by
  unfold readText at h
  split at h
  · next units rest' hunits =>
    cases h
    obtain ⟨t, hs, hspells⟩ := spellsText_of_textUnits hunits
    exact ⟨t, units, hs, hspells, rfl⟩
  · cases h

/-! ### Numbers -/

/-- The digits at the front of a text are digits. -/
theorem digits_takeWhile (s : List Char) : Digits (s.takeWhile Char.isDigit) :=
  fun _ hc => List.mem_takeWhile_imp hc

/-- The digits before the point that have been read are such digits. -/
theorem spellsWhole_of_wholeDigits? {whole : List Char} (h : wholeDigits? s = some (whole, rest)) :
    s = whole ++ rest ∧ SpellsWhole whole := by
  unfold wholeDigits? at h
  split at h
  · cases h
    exact ⟨rfl, .zero⟩
  · next c tail hne =>
    split at h
    · next hc =>
      cases h
      refine ⟨List.takeWhile_append_dropWhile.symm, ?_⟩
      rw [List.takeWhile_cons_of_pos hc]
      exact .digits hc hne (digits_takeWhile tail)
    · cases h
  · cases h

/-- A fraction that has been read spells its digits. -/
theorem spellsFraction_of_fractionDigits {digits : List Char}
    (h : fractionDigits s = (digits, rest)) :
    ∃ fraction, s = fraction ++ rest ∧ SpellsFraction fraction digits := by
  unfold fractionDigits at h
  split at h
  · next tail =>
    dsimp only at h
    split at h
    · cases h
      exact ⟨[], rfl, .absent⟩
    · next hne =>
      cases h
      refine ⟨'.' :: tail.takeWhile Char.isDigit, ?_, .present ⟨hne, digits_takeWhile tail⟩⟩
      rw [List.cons_append, List.takeWhile_append_dropWhile]
  · cases h
    exact ⟨[], rfl, .absent⟩

/-- The sign of an exponent that has been read spells whether it is a minus. -/
theorem spellsExponentSign_of_exponentSign {negative : Bool}
    (h : exponentSign s = (negative, rest)) :
    ∃ sign, s = sign ++ rest ∧ SpellsExponentSign sign negative := by
  unfold exponentSign at h
  split at h
  · cases h
    exact ⟨['-'], rfl, .minus⟩
  · cases h
    exact ⟨['+'], rfl, .plus⟩
  · cases h
    exact ⟨[], rfl, .absent⟩

/-- An exponent that has been read spells its value. -/
theorem spellsExponent_of_exponent? {power : Option Int} (h : exponent? s = (power, rest)) :
    ∃ exponent, s = exponent ++ rest ∧ SpellsExponent exponent power := by
  unfold exponent? at h
  split at h
  · next c tail =>
    split at h
    · next hc =>
      cases hsign : exponentSign tail with
      | mk negative after =>
        obtain ⟨sign, rfl, hspells⟩ := spellsExponentSign_of_exponentSign hsign
        simp only [hsign] at h
        split at h
        · cases h
          exact ⟨[], rfl, .absent⟩
        · next hne =>
          cases h
          refine ⟨_, ?_, .present hc hspells ⟨hne, digits_takeWhile after⟩⟩
          rw [List.cons_append, List.append_assoc, List.takeWhile_append_dropWhile]
    · cases h
      exact ⟨[], rfl, .absent⟩
  · cases h
    exact ⟨[], rfl, .absent⟩

/-- A number that has been read spells its value. -/
theorem spellsPlain_of_readNumber (h : readNumber s = .ok (value, rest)) :
    ∃ t, s = t ++ rest ∧ SpellsPlain t value := by
  unfold readNumber at h
  split at h
  next negative after hsplit =>
  obtain ⟨sign, hsign, hs⟩ : ∃ sign, SpellsSign sign negative ∧ s = sign ++ after := by
    split at hsplit
    · cases hsplit
      exact ⟨['-'], .minus, rfl⟩
    · cases hsplit
      exact ⟨[], .absent, rfl⟩
  cases hwhole : wholeDigits? after with
  | none =>
    rw [hwhole] at h
    cases h
  | some pair =>
    obtain ⟨whole, afterWhole⟩ := pair
    obtain ⟨rfl, hspellsWhole⟩ := spellsWhole_of_wholeDigits? hwhole
    generalize hfraction : fractionDigits afterWhole = fractionPair at h
    obtain ⟨digits, afterFraction⟩ := fractionPair
    obtain ⟨fraction, rfl, hspellsFraction⟩ := spellsFraction_of_fractionDigits hfraction
    generalize hexponent : exponent? afterFraction = exponentPair at h
    obtain ⟨power, afterExponent⟩ := exponentPair
    obtain ⟨exponent, rfl, hspellsExponent⟩ := spellsExponent_of_exponent? hexponent
    simp only [hwhole, hfraction, hexponent] at h
    obtain ⟨value', hvalue, hpair⟩ := bind_eq_ok_iff.mp h
    cases hpair
    refine ⟨sign ++ (whole ++ (fraction ++ exponent)), ?_,
      .number hsign hspellsWhole hspellsFraction hspellsExponent hvalue⟩
    rw [hs]
    simp only [List.append_assoc]

/-! ### Values -/

/-- A word at the front of a text is followed by the rest. -/
theorem eq_append_of_stripWord? {word : List Char} (h : stripWord? word s = some rest) :
    s = word ++ rest := by
  induction word generalizing s with
  | nil =>
    cases h
    rfl
  | cons w word ih =>
    cases s with
    | nil => cases h
    | cons c s =>
      rw [stripWord?] at h
      split at h
      · next hc => rw [hc, ih h, List.cons_append]
      · cases h

/-- A word or a number that has been read spells its value. -/
theorem spellsPlain_of_readPlain (h : readPlain s = .ok (value, rest)) :
    ∃ t, s = t ++ rest ∧ SpellsPlain t value := by
  unfold readPlain at h
  split at h
  · next answer hanswer =>
    cases h
    obtain ⟨⟨word, value'⟩, hentry, hstrip⟩ := List.exists_of_findSome?_eq_some hanswer
    obtain ⟨rest', hrest, hpair⟩ := Option.map_eq_some_iff.mp hstrip
    cases hpair
    exact ⟨word, eq_append_of_stripWord? hrest, .word hentry⟩
  · exact spellsPlain_of_readNumber h

/-- Two texts are blanks if both are. -/
theorem spaces_append : Spaces (s ++ t) ↔ Spaces s ∧ Spaces t :=
  List.forall_mem_append

/-- What is skipped are blanks. -/
theorem exists_spaces_append_skipSpace (s : List Char) : ∃ w, Spaces w ∧ s = w ++ skipSpace s :=
  ⟨s.takeWhile isSpace, fun _ hc => List.mem_takeWhile_imp hc,
    List.takeWhile_append_dropWhile.symm⟩

/-- A name that has been read is spelled before its colon. -/
theorem exists_of_readName {name : Text.Raw} (h : readName s = .ok (name, rest)) :
    ∃ t units w₁ w₂, s = '"' :: (t ++ '"' :: (w₁ ++ ':' :: (w₂ ++ rest))) ∧
      SpellsText t units ∧ Spaces w₁ ∧ Spaces w₂ ∧ name = textOf units := by
  unfold readName at h
  split at h
  · next tail =>
    obtain ⟨⟨name', after⟩, htext, h⟩ := bind_eq_ok_iff.mp h
    obtain ⟨t, units, rfl, hspells, rfl⟩ := spellsText_of_readText htext
    obtain ⟨w₁, hw₁, hafter⟩ := exists_spaces_append_skipSpace after
    dsimp only at h
    split at h
    · next rest' hcolon =>
      cases h
      obtain ⟨w₂, hw₂, hrest⟩ := exists_spaces_append_skipSpace rest'
      refine ⟨t, units, w₁, w₂, ?_, hspells, hw₁, hw₂, rfl⟩
      rw [← hrest, ← hcolon, ← hafter]
    · cases h
  · cases h

/-- What the readers make of a text within some number of steps is spelled by it. -/
structure ReadsSpelled (fuel : Nat) : Prop where
  value : ∀ {room s value rest}, readValue fuel room s = .ok (value, rest) →
    ∃ t source, s = t ++ rest ∧ Spells room t (.value source) ∧ source.value = value
  items : ∀ {room s items rest}, readItems fuel room s = .ok (items, rest) →
    ∃ t, s = t ++ ']' :: rest ∧ Spells room t (.items items)
  members : ∀ {room s known members rest}, readMembers fuel room known s = .ok (members, rest) →
    ∃ t given, s = t ++ '}' :: rest ∧ Spells room t (.members given) ∧
      collect known given = members

/-- Blanks before items are blanks before the first one. -/
theorem Spells.spaces_append_items {values : List Value} (h : Spells room s (.items values))
    {w : List Char} (hw : Spaces w) : Spells room (w ++ s) (.items values) := by
  cases h with
  | lastItem hw₁ h hw₂ =>
    rw [← List.append_assoc]
    exact .lastItem (spaces_append.mpr ⟨hw, hw₁⟩) h hw₂
  | nextItem hw₁ h hw₂ ht =>
    rw [← List.append_assoc]
    exact .nextItem (spaces_append.mpr ⟨hw, hw₁⟩) h hw₂ ht

/-- Blanks before members are blanks before the first one. -/
theorem Spells.spaces_append_members {given : Given} (h : Spells room s (.members given))
    {w : List Char} (hw : Spaces w) : Spells room (w ++ s) (.members given) := by
  cases h with
  | lastMember hw₁ hname hw₂ hw₃ h hw₄ =>
    rw [← List.append_assoc]
    exact .lastMember (spaces_append.mpr ⟨hw, hw₁⟩) hname hw₂ hw₃ h hw₄
  | nextMember hw₁ hname hw₂ hw₃ h hw₄ ht =>
    rw [← List.append_assoc]
    exact .nextMember (spaces_append.mpr ⟨hw, hw₁⟩) hname hw₂ hw₃ h hw₄ ht

/-- A value that has been read in one step more is spelled. -/
theorem ReadsSpelled.exists_of_readValue (ih : ReadsSpelled fuel)
    (h : readValue (fuel + 1) room s = .ok (value, rest)) :
    ∃ t source, s = t ++ rest ∧ Spells room t (.value source) ∧ source.value = value := by
  unfold readValue at h
  split at h
  · next tail =>
    obtain ⟨⟨text, after⟩, htext, hpair⟩ := bind_eq_ok_iff.mp h
    cases hpair
    obtain ⟨t, units, rfl, hspells, rfl⟩ := spellsText_of_readText htext
    exact ⟨'"' :: (t ++ ['"']), .text units, by simp, .text hspells, rfl⟩
  · next tail =>
    obtain ⟨w, hw, htail⟩ := exists_spaces_append_skipSpace tail
    cases room with
    | zero => cases h
    | succ room =>
      dsimp only at h
      split at h
      · next after hclose =>
        cases h
        rw [htail, hclose]
        exact ⟨'[' :: (w ++ [']']), .other (.array []), by simp, .emptyList hw, rfl⟩
      · obtain ⟨⟨items, after⟩, hitems, hpair⟩ := bind_eq_ok_iff.mp h
        cases hpair
        obtain ⟨t, ht, hspells⟩ := ih.items hitems
        rw [htail, ht]
        exact ⟨'[' :: (w ++ t ++ [']']), .other (.array items), by simp,
          .list (hspells.spaces_append_items hw), rfl⟩
  · next tail =>
    obtain ⟨w, hw, htail⟩ := exists_spaces_append_skipSpace tail
    cases room with
    | zero => cases h
    | succ room =>
      dsimp only at h
      split at h
      · next after hclose =>
        cases h
        rw [htail, hclose]
        exact ⟨'{' :: (w ++ ['}']), .other (.object []), by simp, .emptyObject hw, rfl⟩
      · obtain ⟨⟨members, after⟩, hmembers, hpair⟩ := bind_eq_ok_iff.mp h
        cases hpair
        obtain ⟨t, given, ht, hspells, rfl⟩ := ih.members hmembers
        rw [htail, ht]
        exact ⟨'{' :: (w ++ t ++ ['}']), .other (.object (collect [] given)), by simp,
          .object (hspells.spaces_append_members hw), rfl⟩
  · obtain ⟨t, hs, hspells⟩ := spellsPlain_of_readPlain h
    exact ⟨t, .other value, hs, .plain hspells, rfl⟩

/-- Items that have been read in one step more are spelled. -/
theorem ReadsSpelled.exists_of_readItems (ih : ReadsSpelled fuel) {items : List Value}
    (h : readItems (fuel + 1) room s = .ok (items, rest)) :
    ∃ t, s = t ++ ']' :: rest ∧ Spells room t (.items items) := by
  unfold readItems at h
  obtain ⟨⟨item, after⟩, hitem, h⟩ := bind_eq_ok_iff.mp h
  obtain ⟨t, source, rfl, hspells, rfl⟩ := ih.value hitem
  obtain ⟨w, hw, hafter⟩ := exists_spaces_append_skipSpace after
  dsimp only at h
  split at h
  · next rest' hclose =>
    cases h
    rw [hafter, hclose]
    exact ⟨t ++ w, by simp, .lastItem spaces_nil hspells hw⟩
  · next rest' hcomma =>
    obtain ⟨⟨items', rest''⟩, hitems, hpair⟩ := bind_eq_ok_iff.mp h
    cases hpair
    obtain ⟨w', hw', hrest'⟩ := exists_spaces_append_skipSpace rest'
    obtain ⟨t', ht', hspells'⟩ := ih.items hitems
    rw [hafter, hcomma, hrest', ht']
    exact ⟨t ++ (w ++ ',' :: (w' ++ t')), by simp,
      .nextItem spaces_nil hspells hw (hspells'.spaces_append_items hw')⟩
  · cases h

/-- Members that have been read in one step more are spelled. -/
theorem ReadsSpelled.exists_of_readMembers (ih : ReadsSpelled fuel) {known members : Members}
    (h : readMembers (fuel + 1) room known s = .ok (members, rest)) :
    ∃ t given, s = t ++ '}' :: rest ∧ Spells room t (.members given) ∧
      collect known given = members := by
  unfold readMembers at h
  obtain ⟨⟨name, afterName⟩, hname, h⟩ := bind_eq_ok_iff.mp h
  obtain ⟨⟨value, after⟩, hvalue, h⟩ := bind_eq_ok_iff.mp h
  obtain ⟨n, units, w₁, w₂, rfl, hspellsName, hw₁, hw₂, rfl⟩ := exists_of_readName hname
  obtain ⟨t, source, ht, hspells, rfl⟩ := ih.value hvalue
  obtain ⟨w, hw, hafter⟩ := exists_spaces_append_skipSpace after
  dsimp only at h ht
  split at h
  · next rest' hclose =>
    cases h
    rw [ht, hafter, hclose]
    exact ⟨_, [(textOf units, source)], by simp,
      .lastMember spaces_nil hspellsName hw₁ hw₂ hspells hw, rfl⟩
  · next rest' hcomma =>
    obtain ⟨w', hw', hrest'⟩ := exists_spaces_append_skipSpace rest'
    obtain ⟨t', given, ht', hspells', rfl⟩ := ih.members h
    rw [ht, hafter, hcomma, hrest', ht']
    exact ⟨_, (textOf units, source) :: given, by simp,
      .nextMember spaces_nil hspellsName hw₁ hw₂ hspells hw (hspells'.spaces_append_members hw'), rfl⟩
  · cases h

/-- What the readers make of a text within any number of steps is spelled by it. -/
theorem readsSpelled (fuel : Nat) : ReadsSpelled fuel := by
  induction fuel with
  | zero =>
    constructor
    case value => rintro room s value rest ⟨⟩
    case items => rintro room s items rest ⟨⟩
    case members => rintro room s known members rest ⟨⟩
  | succ fuel ih => exact ⟨ih.exists_of_readValue, ih.exists_of_readItems, ih.exists_of_readMembers⟩

/-! ### Documents -/

/-- **A document is read exactly if it spells a value**, with blanks around it, in which lists and
objects do not nest too deep. -/
theorem read_eq_ok_iff {document : List Char} :
    read document = .ok value ↔
      ∃ w₁ s w₂ source, document = w₁ ++ (s ++ w₂) ∧ Spaces w₁ ∧
        Spells maxDepth s (.value source) ∧ Spaces w₂ ∧ source.value = value := by
  constructor
  · intro h
    unfold read at h
    split at h
    · cases h
    · obtain ⟨⟨value', after⟩, hvalue, h⟩ := bind_eq_ok_iff.mp h
      obtain ⟨t, source, ht, hspells, rfl⟩ := (readsSpelled _).value hvalue
      obtain ⟨w₁, hw₁, hdocument⟩ := exists_spaces_append_skipSpace document
      obtain ⟨w₂, hw₂, hafter⟩ := exists_spaces_append_skipSpace after
      dsimp only at h
      split at h
      · next hend =>
        cases h
        rw [hend, List.append_nil] at hafter
        exact ⟨w₁, t, w₂, source, by rw [hdocument, ht, hafter], hw₁, hspells, hw₂, rfl⟩
      · cases h
  · rintro ⟨w₁, s, w₂, source, rfl, hw₁, hspells, hw₂, rfl⟩
    exact read_of_spells hw₁ hspells hw₂

end ChatDice.Json
