import ChatDice.Proofs.FormFirst

/-!
# Reading a command term by term

A command is read in two passes, the first for its form and the second for the ranges of its dice.
Its slices can also be read one after another, each by the reader for a single term
(`termAlone`): that reader looks at the form of a term and then at once at its range, and the next
slice is read only if this one passes. Where the form of the whole command is good, the order in
which form and range are looked at does not show (`mapM_termAlone_of_readTerm`).

Main statement (`parse_term_by_term`): both readings of a command of good form give the same terms,
or report the same failure, which is that of the first slice that fails.
-/

namespace ChatDice.Command

variable {limit : Limit} {raw slice : List Char}

/-! ### Single terms -/

/-- Reads a slice on its own: as dice if it names dice, else as a literal. -/
def termAlone (limit : Limit) (slice : List Char) : Except Failure Term :=
  if namesDice slice then
    (diceTerm limit slice).map fun read => ⟨read.1, .dice read.2⟩
  else (literalTerm slice).map fun read => ⟨read.1, .literal read.2⟩

/-- A sign of an operator does not name dice. -/
theorem isSeparator_eq_false_of_ofChar? {c : Char} {operator : Operator}
    (h : Operator.ofChar? c = some operator) : isSeparator c = false := by
  unfold Operator.ofChar? at h
  split at h
  all_goals first | rfl | cases h

/-- The operator of a slice has no part in whether the slice names dice. -/
theorem namesDice_splitOperator (slice : List Char) :
    namesDice (splitOperator slice).2 = namesDice slice := by
  cases slice with
  | nil => rfl
  | cons c s =>
    cases hc : Operator.ofChar? c with
    | none => simp only [splitOperator, hc]
    | some operator =>
      simp only [splitOperator, hc, namesDice, List.any_cons, isSeparator_eq_false_of_ofChar? hc,
        Bool.false_or]

/-- A text that describes a group of dice is read as this group, or reported for its ranges. -/
theorem diceTerm_of_diceSpec {spec : DiceSpec}
    (h : diceSpec Numeral.capped (splitOperator slice).2 = .ok spec) :
    diceTerm limit slice =
      (spec.check limit >>= fun _ => .ok ((splitOperator slice).1, spec)).mapError
        Failure.reported := by
  simp only [diceTerm, h]
  show ((spec.check limit).mapError Failure.reported >>= fun _ =>
    .ok ((splitOperator slice).1, spec)) = _
  cases spec.check limit <;> rfl

/-- A text that is a literal is read as this literal. -/
theorem literalTerm_of_literal {value : Nat} (h : literal (splitOperator slice).2 = .ok value) :
    literalTerm slice = .ok ((splitOperator slice).1, value) := by
  simp only [literalTerm, h]
  rfl

/-- A slice that has the form of a term is read on its own as this term, unless it is out of
range. -/
theorem termAlone_of_readTerm {first : Bool} {term : Term}
    (h : readTerm Numeral.capped first slice = .ok term) :
    termAlone limit slice =
      (checkTerm limit term >>= fun _ => .ok term).mapError Failure.reported := by
  have hnames := namesDice_splitOperator slice
  simp only [readTerm] at h
  cases hdice : namesDice slice with
  | true =>
    rw [hnames, hdice, if_pos rfl] at h
    obtain ⟨spec, hspec, h⟩ := bind_eq_ok_iff.mp h
    split at h
    · cases h
    · obtain rfl := (Except.ok.inj h).symm
      simp only [termAlone, hdice, if_true, diceTerm_of_diceSpec hspec, checkTerm]
      cases spec.check limit <;> rfl
  | false =>
    rw [hnames, hdice, if_neg Bool.false_ne_true] at h
    obtain ⟨value, hvalue, h⟩ := bind_eq_ok_iff.mp h
    obtain rfl := (Except.ok.inj h).symm
    simp only [termAlone, hdice, Bool.false_eq_true, if_false, literalTerm_of_literal hvalue,
      checkTerm]
    rfl

/-- A first slice is read like the others, once it has no operator. -/
theorem readTerm_of_readFirst {readCount : List Char → Nat} {term : Term}
    (h : readFirst readCount slice = .ok term) : readTerm readCount true slice = .ok term := by
  unfold readFirst at h
  split at h
  · cases h
  · exact h

/-! ### All terms -/

/-- Slices that have the form of terms are read one by one as these terms, unless one is out of
range; the first that is decides what is reported. -/
theorem mapM_termAlone_of_readTerm {first : Bool} {slices : List (List Char)} {terms : List Term}
    (h : slices.mapM (readTerm Numeral.capped first) = .ok terms) :
    slices.mapM (termAlone limit) =
      (checkTerms limit terms >>= fun _ => .ok terms).mapError Failure.reported := by
  induction slices generalizing terms with
  | nil =>
    cases h
    rfl
  | cons slice slices ih =>
    rw [List.mapM_cons] at h
    obtain ⟨term, hterm, h⟩ := bind_eq_ok_iff.mp h
    obtain ⟨rest, hrest, h⟩ := bind_eq_ok_iff.mp h
    cases h
    rw [List.mapM_cons, termAlone_of_readTerm hterm, ih hrest, checkTerms]
    cases checkTerm limit term with
    | error failure => rfl
    | ok _ => cases checkTerms limit rest <;> rfl

/-- A step that is done for one element after another fails as it does for the first element for
which it fails. -/
theorem mapM_eq_error_iff {α β ε : Type} {step : α → Except ε β} {xs : List α} {e : ε} :
    xs.mapM step = .error e ↔
      ∃ before x after, xs = before ++ x :: after ∧ (∀ earlier ∈ before, ∃ y, step earlier = .ok y) ∧
        step x = .error e := by
  induction xs with
  | nil =>
    constructor
    · intro h
      cases h
    · rintro ⟨before, x, after, h, -⟩
      cases before <;> cases h
  | cons first xs ih =>
    rw [List.mapM_cons, bind_eq_error_iff]
    constructor
    · rintro (hfirst | ⟨y, hy, h⟩)
      · exact ⟨[], first, xs, rfl, List.forall_mem_nil _, hfirst⟩
      · rcases bind_eq_error_iff.mp h with hrest | ⟨_, -, h⟩
        · obtain ⟨before, x, after, rfl, hbefore, hx⟩ := ih.mp hrest
          exact ⟨first :: before, x, after, rfl,
            List.forall_mem_cons.mpr ⟨⟨y, hy⟩, hbefore⟩, hx⟩
        · cases h
    · rintro ⟨before, x, after, h, hbefore, hx⟩
      cases before with
      | nil =>
        cases h
        exact .inl hx
      | cons earlier before =>
        cases h
        obtain ⟨⟨y, hy⟩, hbefore⟩ := List.forall_mem_cons.mp hbefore
        exact .inr ⟨y, hy,
          bind_eq_error_iff.mpr (.inl (ih.mpr ⟨before, x, after, rfl, hbefore, hx⟩))⟩

/-! ### Commands -/

/-- Only a command whose terms can be read has the form of one. -/
theorem exists_readTerms_of_validate (h : validate raw = .ok true) :
    ∃ terms, readTerms raw = .ok terms := by
  unfold validate at h
  split at h
  · next terms hterms => exact ⟨terms, hterms⟩
  · cases h
  · cases h

/-- A command of good form has an expression, and its slices have the form of its terms. -/
theorem exists_slices_of_readTerms (limit : Limit) {terms : List Term}
    (h : readTerms raw = .ok terms) :
    ∃ expr, expression? raw = some expr ∧
      (slices expr).mapM (termAlone limit) =
        (checkTerms limit terms >>= fun _ => .ok terms).mapError Failure.reported := by
  unfold readTerms readTermsWith at h
  cases hexpr : expression? raw with
  | none =>
    rw [hexpr] at h
    cases h
  | some expr =>
    refine ⟨expr, rfl, ?_⟩
    simp only [hexpr] at h
    cases hslices : slices expr with
    | nil =>
      rw [hslices] at h
      cases h
    | cons slice rest =>
      simp only [hslices] at h
      obtain ⟨term, hterm, h⟩ := bind_eq_ok_iff.mp h
      obtain ⟨later, hlater, h⟩ := bind_eq_ok_iff.mp h
      cases h
      rw [List.mapM_cons, termAlone_of_readTerm (readTerm_of_readFirst hterm),
        mapM_termAlone_of_readTerm hlater, checkTerms]
      cases checkTerm limit term with
      | error failure => rfl
      | ok _ => cases checkTerms limit later <;> rfl

/-- **One pass or two.** A command of good form has an expression, and parsing the command is
reading the slices of the expression one after another, each on its own: as a group of dice with its
ranges if it names dice, and as a literal if not. Either all slices pass and the terms are the same
in the same order, or the failure reported is that of the first slice that fails. -/
theorem parse_term_by_term (limit : Limit) (hvalid : validate raw = .ok true) :
    ∃ expr, expression? raw = some expr ∧
      parse limit raw = (slices expr).mapM (termAlone limit) ∧
      ∀ failure, parse limit raw = .error failure ↔
        ∃ before slice after, slices expr = before ++ slice :: after ∧
          (∀ earlier ∈ before, ∃ term, termAlone limit earlier = .ok term) ∧
          termAlone limit slice = .error failure := by
  obtain ⟨terms, hterms⟩ := exists_readTerms_of_validate hvalid
  obtain ⟨expr, hexpr, hread⟩ := exists_slices_of_readTerms limit hterms
  have hparse : parse limit raw = (slices expr).mapM (termAlone limit) := by
    rw [parse, parseWith_of_ok limit hterms, hread]
  refine ⟨expr, hexpr, hparse, fun failure => ?_⟩
  rw [hparse]
  exact mapM_eq_error_iff

/-- Three of four terms are out of range, each in its own way: the leftmost is reported, though the
one after it has too many dice. -/
theorem parse_term_by_term_several_faults :
    validate "/r 2d20m3 + 11d6 - 7 * 1d0".toList = .ok true ∧
      slices "2d20m3 + 11d6 - 7 * 1d0".toList =
        ["2d20m3".toList, "+11d6".toList, "-7".toList, "*1d0".toList] ∧
      termAlone (.whole 10) "+11d6".toList = .error (.rejected (.tooManyDice (.whole 10))) ∧
      termAlone (.whole 10) "2d20m3".toList = .error (.rejected (.modifierTooLarge 3 2)) ∧
      parse (.whole 10) "/r 2d20m3 + 11d6 - 7 * 1d0".toList =
        .error (.rejected (.modifierTooLarge 3 2)) := by
  have hvalid : validate "/r 2d20m3 + 11d6 - 7 * 1d0".toList = .ok true := by rfl
  have hslices : slices "2d20m3 + 11d6 - 7 * 1d0".toList =
      ["2d20m3".toList, "+11d6".toList, "-7".toList, "*1d0".toList] := by rfl
  have hsecond : termAlone (.whole 10) "+11d6".toList =
      .error (.rejected (.tooManyDice (.whole 10))) := by decide +kernel
  have hfirst : termAlone (.whole 10) "2d20m3".toList =
      .error (.rejected (.modifierTooLarge 3 2)) := by decide +kernel
  obtain ⟨expr, hexpr, -, herror⟩ := parse_term_by_term (.whole 10) hvalid
  have hsame : expr = "2d20m3 + 11d6 - 7 * 1d0".toList := by
    have hfound : expression? "/r 2d20m3 + 11d6 - 7 * 1d0".toList =
        some "2d20m3 + 11d6 - 7 * 1d0".toList := by rfl
    exact Option.some.inj (hexpr.symm.trans hfound)
  have hbefore : slices expr =
      [] ++ "2d20m3".toList :: ["+11d6".toList, "-7".toList, "*1d0".toList] := by
    rw [hsame, hslices, List.nil_append]
  exact ⟨hvalid, hslices, hsecond, hfirst,
    (herror _).mpr ⟨[], _, _, hbefore, List.forall_mem_nil _, hfirst⟩⟩

end ChatDice.Command
