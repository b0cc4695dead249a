import ChatDice.Proofs.RoundTrip

/-!
# Long counts are refused with the others

The reader of commands does not read a count of more than nine digits; it takes the cap for it. An
exact reader, `parseWith Numeral.value`, would read every count in full. Here the two are compared.

Read with a cap, a command has the terms that it has when read in full, with every count cut down to
the cap (`readTermsWith_capped`). The range rules cannot tell them apart: a count that is cut down
exceeds every limit that settings allow, before and after, and a count in range is not cut down
(`DiceSpec.check_capCounts`, `Term.capCounts_eq_self`). What is left of the difference is the number
that a modifier is said to count in a rejection (`Failure.capModifier`).

Main statement (`capping_loses_nothing`): the two readers give the same terms, or they turn the
command down for the same term and the same reason. `offence?` finds that term.
-/

namespace ChatDice

open Numeral (cap value capped)

/-! ### Counts cut down to the cap -/

/-- A modifier with its count cut down to the cap. -/
def Modifier.capCount (m : Modifier) : Modifier :=
  { m with count := min m.count cap }

/-- A group of dice with its counts cut down to the cap. -/
def DiceSpec.capCounts (spec : DiceSpec) : DiceSpec :=
  ⟨min spec.count cap, spec.sides, spec.modifier.map Modifier.capCount⟩

/-- A payload with its counts cut down to the cap. -/
def Payload.capCounts : Payload → Payload
  | .dice spec => .dice spec.capCounts
  | .literal n => .literal n

/-- A term with its counts cut down to the cap. -/
def Term.capCounts (term : Term) : Term :=
  { term with payload := term.payload.capCounts }

/-- A failure with the count of a modifier cut down to the cap, if it reports one. -/
def Failure.capModifier : Failure → Failure
  | .rejected (.modifierTooLarge selected dice) =>
    .rejected (.modifierTooLarge (min selected cap) dice)
  | other => other

/-- A fault of form reports no count. -/
theorem Failure.IsMalformed.capModifier_eq {failure : Failure} (h : failure.IsMalformed) :
    failure.capModifier = failure := by
  obtain ⟨fault, rfl⟩ := h
  rfl

/-- A count below the cap is not cut. -/
theorem Modifier.capCount_eq_self {m : Modifier} (h : m.count < cap) : m.capCount = m := by
  unfold capCount
  rw [Int.min_eq_left (Int.le_of_lt h)]

/-- A group with counts below the cap is not cut. -/
theorem DiceSpec.capCounts_eq_self {spec : DiceSpec} (hcount : spec.count < cap)
    (hm : ∀ m ∈ spec.modifier, m.count < cap) : spec.capCounts = spec := by
  have hmodifier : spec.modifier.map Modifier.capCount = spec.modifier := by
    cases h : spec.modifier with
    | none => rfl
    | some m => rw [Option.map_some, Modifier.capCount_eq_self (hm m h)]
  unfold capCounts
  rw [Int.min_eq_left (Int.le_of_lt hcount), hmodifier]

namespace Command

/-! ### Reading with a cap -/

/-- A numeral read with a cap is its value, cut down. -/
theorem natCast_capped {digits : List Char} (h : Numeral.Digits digits) :
    (capped digits : Int) = min (value digits : Int) cap := by
  rw [Numeral.capped_eq_min h]
  omega

/-- The capped reader reads a modifier as the exact one does, up to the cut. -/
theorem modifier_capped {parts : Option (List Char × List Char)}
    (h : ∀ p ∈ parts, Numeral.Digits p.2) :
    modifier capped parts = (modifier value parts).map (Option.map Modifier.capCount) := by
  rcases parts with _ | ⟨letters, digits⟩
  · rfl
  · have hcount := natCast_capped (h (letters, digits) rfl)
    simp only [modifier]
    cases ModifierKind.ofLetters? letters with
    | none => rfl
    | some kind => simp only [hcount, Except.map, Option.map_some, Modifier.capCount]

/-- The count of a group of dice; one where it is left out, which no cap changes. -/
theorem count_capped {digits : List Char} (h : Numeral.Digits digits) :
    ((if digits = [] then 1 else capped digits : Nat) : Int) =
      min ((if digits = [] then 1 else value digits : Nat) : Int) cap := by
  by_cases hempty : digits = []
  · rw [if_pos hempty, if_pos hempty]
    rfl
  · rw [if_neg hempty, if_neg hempty, natCast_capped h]

/-- The capped reader reads a group as the exact one does, up to the cut. -/
theorem diceSpec_capped (body : List Char) :
    diceSpec capped body = (diceSpec value body).map DiceSpec.capCounts := by
  cases htext : diceText? body with
  | none => simp only [diceSpec, htext, Except.map]
  | some text =>
    obtain ⟨s, tail, ⟨hcount, hc, hsides, hrest⟩, -, -⟩ := diceText?_eq_some_iff.mp htext
    next count sides rest c m =>
    have hm : ∀ p ∈ m, Numeral.Digits p.2 := by
      cases hrest with
      | absent => rintro _ ⟨⟩
      | present hne hletters hdigits =>
        rintro _ ⟨⟩
        exact hdigits.digits
    simp only [diceSpec, htext, modifier_capped hm]
    cases modifier value m with
    | error failure => rfl
    | ok parts =>
      cases number sides with
      | error failure => rfl
      | ok n =>
        show Except.ok _ = Except.ok _
        rw [Except.ok.injEq]
        simp only [DiceSpec.capCounts, count_capped hcount]

/-- The capped reader reads a term as the exact one does, up to the cut. -/
theorem readTerm_capped (first : Bool) (slice : List Char) :
    readTerm capped first slice = (readTerm value first slice).map Term.capCounts := by
  rcases hslice : splitOperator slice with ⟨operator, body⟩
  simp only [readTerm, hslice]
  split
  · rw [diceSpec_capped]
    cases diceSpec value body with
    | error failure => rfl
    | ok spec =>
      have hsome : spec.capCounts.modifier.isSome = spec.modifier.isSome := Option.isSome_map
      show (if first = false ∧ spec.capCounts.modifier.isSome then _ else _) =
        (if first = false ∧ spec.modifier.isSome then _ else _ : Except Failure Term).map _
      rw [hsome]
      split <;> rfl
  · cases literal body <;> rfl

/-- The same holds of the first term. -/
theorem readFirst_capped (slice : List Char) :
    readFirst capped slice = (readFirst value slice).map Term.capCounts := by
  unfold readFirst
  split
  · rfl
  · exact readTerm_capped true slice

/-- Steps that differ in what becomes of their results differ in what becomes of all of them. -/
theorem mapM_of_map {α β γ ε : Type} {f : α → Except ε β} {f' : α → Except ε γ} {k : β → γ}
    (h : ∀ x, f' x = (f x).map k) (xs : List α) : xs.mapM f' = (xs.mapM f).map (List.map k) := by
  induction xs with
  | nil => rfl
  | cons x xs ih =>
    rw [List.mapM_cons, List.mapM_cons, h x, ih]
    cases f x with
    | error e => rfl
    | ok y => cases xs.mapM f <;> rfl

/-- Read with a cap, a command has the terms that it has in full, with their counts cut down. -/
theorem readTermsWith_capped (command : List Char) :
    readTermsWith capped command =
      (readTermsWith value command).map (List.map Term.capCounts) := by
  cases hexpr : expression? command with
  | none => simp only [readTermsWith, hexpr, Except.map]
  | some expr =>
    cases hslices : slices expr with
    | nil => simp only [readTermsWith, hexpr, hslices, Except.map]
    | cons slice rest =>
      rw [readTermsWith_of_slices hexpr hslices, readTermsWith_of_slices hexpr hslices,
        readFirst_capped, mapM_of_map (readTerm_capped false)]
      cases readFirst value slice with
      | error failure => rfl
      | ok term => cases rest.mapM (readTerm value false) <;> rfl

/-- The terms that the reader gives have no count above the cap. -/
theorem exists_capCounts_of_readTerms {command : List Char} {terms : List Term}
    (h : readTerms command = .ok terms) : ∃ full : List Term, terms = full.map Term.capCounts := by
  rw [readTerms, readTermsWith_capped] at h
  cases hfull : readTermsWith value command with
  | error failure =>
    rw [hfull] at h
    cases h
  | ok full =>
    rw [hfull] at h
    cases h
    exact ⟨full, rfl⟩

end Command

/-! ### The range rules -/

section check

variable {limit : Limit} (hlimit : limit.BelowCap)
include hlimit

/-- The range rules refuse counts that are cut down as they refuse the counts in full. -/
theorem DiceSpec.check_capCounts (spec : DiceSpec) :
    spec.capCounts.check limit = (spec.check limit).mapError Failure.capModifier := by
  obtain ⟨count, sides, m⟩ := spec
  have hcap : (1 : Int) ≤ cap := by decide
  unfold check capCounts
  rcases Int.lt_or_le count cap with hlt | hge
  · -- The count stays as it is; only a modifier can have been cut down, and it is too large still.
    dsimp only
    rw [Int.min_eq_left (Int.le_of_lt hlt)]
    split
    · rfl
    split
    · rfl
    split
    · rfl
    cases m with
    | none => rfl
    | some m =>
      have hm : count < min m.count cap ↔ count < m.count := by omega
      simp only [Option.map_some, Modifier.capCount, hm]
      split <;> rfl
  · -- A count that is cut down has exceeded the limit before, and exceeds it after.
    have hafter := hlimit.exceededBy_cap
    have hbefore := Limit.exceededBy_mono hge hafter
    dsimp only
    rw [Int.min_eq_right hge, if_neg (Int.not_lt.mpr hcap), if_pos hafter,
      if_neg (Int.not_lt.mpr (Int.le_trans hcap hge)), if_pos hbefore]
    rfl

/-- A term with its counts cut is checked like the term, up to the count that is reported. -/
theorem Command.checkTerm_capCounts (term : Term) :
    checkTerm limit term.capCounts = (checkTerm limit term).mapError Failure.capModifier := by
  obtain ⟨operator, p⟩ := term
  cases p with
  | literal n => rfl
  | dice spec => exact spec.check_capCounts hlimit

/-- Counts in range are below the cap, so cutting them down changes nothing. -/
theorem DiceSpec.capCounts_of_check {spec : DiceSpec} (h : spec.check limit = .ok ()) :
    spec.capCounts = spec := by
  obtain ⟨-, hexceeded, -, hm⟩ := DiceSpec.check_eq_ok_iff.mp h
  have hcount : spec.count < cap := hlimit.lt_cap hexceeded
  exact DiceSpec.capCounts_eq_self hcount fun m hmem => Int.lt_of_le_of_lt (hm m hmem) hcount

/-- What passes the check has counts below the cap. -/
theorem Term.capCounts_eq_self {term : Term} (h : Command.checkTerm limit term = .ok ()) :
    term.capCounts = term := by
  obtain ⟨operator, p⟩ := term
  cases p with
  | literal n => rfl
  | dice spec => simp only [capCounts, Payload.capCounts, spec.capCounts_of_check hlimit h]

/-- Terms with their counts cut are checked like the terms, up to the count that is reported. -/
theorem Command.checkTerms_capCounts (terms : List Term) :
    checkTerms limit (terms.map Term.capCounts) =
      (checkTerms limit terms).mapError Failure.capModifier := by
  induction terms with
  | nil => rfl
  | cons term terms ih =>
    rw [List.map_cons, checkTerms, checkTerms, checkTerm_capCounts hlimit, ih]
    cases checkTerm limit term <;> rfl

/-- Terms that pass the check are not cut. -/
theorem Command.map_capCounts_eq_self {terms : List Term} (h : checkTerms limit terms = .ok ()) :
    terms.map Term.capCounts = terms := by
  have hself : ∀ term ∈ terms, term.capCounts = id term := fun term hmem =>
    Term.capCounts_eq_self hlimit (checkTerms_eq_ok_iff.mp h term hmem)
  rw [List.map_congr_left hself, List.map_id]

/-- Read with a cap, a command is turned down for what it is turned down for when read in full, with
the count of a modifier cut down. -/
theorem Command.parseWith_capped (raw : List Char) :
    parseWith capped limit raw = (parseWith value limit raw).mapError Failure.capModifier := by
  have hcapped := readTermsWith_capped raw
  cases hread : readTermsWith value raw with
  | error failure =>
    rw [hread] at hcapped
    rw [parseWith_of_error hcapped, parseWith_of_error hread]
    have hsame := (malformed_of_readTermsWith hread).capModifier_eq
    simp only [Except.mapError, hsame]
  | ok terms =>
    rw [hread] at hcapped
    rw [parseWith_of_ok limit hcapped, parseWith_of_ok limit hread, checkTerms_capCounts hlimit]
    cases hcheck : checkTerms limit terms with
    | error failure => rfl
    | ok _ =>
      rw [map_capCounts_eq_self hlimit hcheck]
      rfl

/-- The reader of commands reports what an exact reader finds, with the count of a modifier cut
down. -/
theorem Command.parse_eq_mapError (raw : List Char) :
    parse limit raw = (parseWith value limit raw).mapError Failure.capModifier := by
  rw [parse_eq_parseWith hlimit.isPrintable, parseWith_capped hlimit]

end check

/-! ### The term that a command is turned down for -/

namespace Command

/-- The first element that a step refuses, with the refusal. Places are counted from `i` on. -/
def firstRefused {α β : Type} (step : α → Except Failure β) : Nat → List α → Option (Nat × Failure)
  | _, [] => none
  | i, x :: xs =>
    match step x with
    | .error failure => some (i, failure)
    | .ok _ => firstRefused step (i + 1) xs

/-- The first slice that cannot be read, by its place, with the failure. -/
def unread? (readCount : List Char → Nat) : List (List Char) → Option (Nat × Failure)
  | [] => none
  | slice :: rest =>
    firstRefused (readFirst readCount) 0 [slice] <|> firstRefused (readTerm readCount false) 1 rest

/-- The term that a command is turned down for, by its place, with the failure: the first slice that
cannot be read, or, if all can be read, the first term out of range. -/
def offence? (readCount : List Char → Nat) (limit : Limit) (command : List Char) :
    Option (Nat × Failure) :=
  ((expression? command).bind fun expr => unread? readCount (slices expr)) <|>
    match readTermsWith readCount command with
    | .ok terms => firstRefused (checkTerm limit) 0 terms
    | .error _ => none

variable {α β γ : Type} {step : α → Except Failure β}

/-- The failure of a list of steps is that of the first step refused. -/
theorem exists_firstRefused_of_mapM {xs : List α} {failure : Failure}
    (h : xs.mapM step = .error failure) (i : Nat) :
    ∃ j, firstRefused step i xs = some (j, failure) := by
  induction xs generalizing i with
  | nil => cases h
  | cons x xs ih =>
    rw [List.mapM_cons] at h
    simp only [firstRefused]
    rcases bind_eq_error_iff.mp h with hx | ⟨y, hx, h⟩
    · rw [hx]
      exact ⟨i, rfl⟩
    rcases bind_eq_error_iff.mp h with hxs | ⟨ys, -, h⟩
    · rw [hx]
      exact ih hxs (i + 1)
    · cases h

/-- If all steps succeed, none is refused. -/
theorem firstRefused_of_mapM {xs : List α} {ys : List β} (h : xs.mapM step = .ok ys) (i : Nat) :
    firstRefused step i xs = none := by
  induction xs generalizing ys i with
  | nil => rfl
  | cons x xs ih =>
    rw [List.mapM_cons] at h
    obtain ⟨y, hx, h⟩ := bind_eq_ok_iff.mp h
    obtain ⟨ys, hxs, -⟩ := bind_eq_ok_iff.mp h
    simp only [firstRefused, hx]
    exact ih hxs (i + 1)

/-- The failure of a check is that of the first term refused. -/
theorem exists_firstRefused_of_checkTerms {limit : Limit} {terms : List Term} {failure : Failure}
    (h : checkTerms limit terms = .error failure) (i : Nat) :
    ∃ j, firstRefused (checkTerm limit) i terms = some (j, failure) := by
  induction terms generalizing i with
  | nil => cases h
  | cons term terms ih =>
    simp only [firstRefused]
    rcases bind_eq_error_iff.mp h with hterm | ⟨_, hterm, hterms⟩
    · rw [hterm]
      exact ⟨i, rfl⟩
    · rw [hterm]
      exact ih hterms (i + 1)

/-- Steps that differ only in what becomes of their results refuse the same elements. -/
theorem firstRefused_of_map {step' : α → Except Failure γ} {k : β → γ}
    (h : ∀ x, step' x = (step x).map k) (i : Nat) (xs : List α) :
    firstRefused step' i xs = firstRefused step i xs := by
  induction xs generalizing i with
  | nil => rfl
  | cons x xs ih =>
    simp only [firstRefused, h x]
    cases step x with
    | error failure => rfl
    | ok y => exact ih (i + 1)

/-- The same term is refused after the cut. -/
theorem firstRefused_checkTerm_capCounts {limit : Limit} (hlimit : limit.BelowCap) (i : Nat)
    (terms : List Term) :
    firstRefused (checkTerm limit) i (terms.map Term.capCounts) =
      (firstRefused (checkTerm limit) i terms).map (Prod.map id Failure.capModifier) := by
  induction terms generalizing i with
  | nil => rfl
  | cons term terms ih =>
    simp only [List.map_cons, firstRefused, checkTerm_capCounts hlimit term]
    cases checkTerm limit term with
    | error failure => rfl
    | ok _ => exact ih (i + 1)

/-- An expression has at least one slice. -/
theorem exists_slices_of_expression? {command expr : List Char}
    (h : expression? command = some expr) : ∃ slice rest, slices expr = slice :: rest := by
  obtain ⟨hw₁, hword, hne, hw₂, hexpr, htight, hw₃⟩ := expression?_eq_some_iff.mp h
  apply List.exists_cons_of_ne_nil
  intro hnil
  rw [slices_eq, List.append_eq_nil_iff, List.map_eq_nil_iff] at hnil
  obtain ⟨hhead, hpieces⟩ := hnil
  have hcut : (cut expr).1 = expr := by simpa [hpieces] using cut_append expr
  rw [hcut, Text.trim_eq_self htight, if_neg hexpr] at hhead
  cases hhead

section offence

variable {readCount : List Char → Nat} {limit : Limit} {command expr : List Char}
  (hexpr : expression? command = some expr)
include hexpr

/-- If a command cannot be read, one of its slices cannot. -/
theorem exists_unread_of_error {failure : Failure}
    (h : readTermsWith readCount command = .error failure) :
    ∃ i, unread? readCount (slices expr) = some (i, failure) := by
  obtain ⟨slice, rest, hslices⟩ := exists_slices_of_expression? hexpr
  rw [readTermsWith_of_slices hexpr hslices] at h
  rw [hslices]
  simp only [unread?, firstRefused]
  rcases bind_eq_error_iff.mp h with hfirst | ⟨term, hfirst, h⟩
  · rw [hfirst]
    exact ⟨0, rfl⟩
  rcases bind_eq_error_iff.mp h with hrest | ⟨terms, -, h⟩
  · rw [hfirst]
    exact exists_firstRefused_of_mapM hrest 1
  · cases h

/-- If a command can be read, all of its slices can. -/
theorem unread?_of_ok {terms : List Term} (h : readTermsWith readCount command = .ok terms) :
    unread? readCount (slices expr) = none := by
  obtain ⟨slice, rest, hslices⟩ := exists_slices_of_expression? hexpr
  rw [readTermsWith_of_slices hexpr hslices] at h
  obtain ⟨term, hfirst, h⟩ := bind_eq_ok_iff.mp h
  obtain ⟨others, hrest, -⟩ := bind_eq_ok_iff.mp h
  rw [hslices]
  simp only [unread?, firstRefused, hfirst, firstRefused_of_mapM hrest]
  rfl

/-- A slice that cannot be read is what the command is turned down for. -/
theorem offence?_of_unread {i : Nat} {failure : Failure}
    (h : unread? readCount (slices expr) = some (i, failure)) :
    offence? readCount limit command = some (i, failure) := by
  simp only [offence?, hexpr, Option.bind_some, h]
  rfl

/-- If all slices can be read, the first term out of range is. -/
theorem offence?_of_ok {terms : List Term} (h : readTermsWith readCount command = .ok terms) :
    offence? readCount limit command = firstRefused (checkTerm limit) 0 terms := by
  simp only [offence?, hexpr, Option.bind_some, unread?_of_ok hexpr h, h]
  rfl

end offence

/-- Both readers stop at the same slice. -/
theorem unread?_capped (parts : List (List Char)) : unread? capped parts = unread? value parts := by
  cases parts with
  | nil => rfl
  | cons slice rest =>
    simp only [unread?, firstRefused_of_map readFirst_capped,
      firstRefused_of_map (readTerm_capped false)]

/-- A command with an expression is turned down for one of its terms. Cut down or not, it is the
same one, and the failure is the same but for the count of a modifier. -/
theorem exists_offence_of_parseWith {limit : Limit} (hlimit : limit.BelowCap)
    {command expr : List Char} {failure : Failure} (hexpr : expression? command = some expr)
    (h : parseWith value limit command = .error failure) :
    ∃ i, offence? value limit command = some (i, failure) ∧
      offence? capped limit command = some (i, failure.capModifier) := by
  have hcapped := readTermsWith_capped command
  cases hread : readTermsWith value command with
  | error fault =>
    rw [parseWith_of_error hread] at h
    cases h
    obtain ⟨i, hi⟩ := exists_unread_of_error hexpr hread
    rw [(malformed_of_readTermsWith hread).capModifier_eq]
    refine ⟨i, offence?_of_unread hexpr hi, offence?_of_unread hexpr ?_⟩
    rw [unread?_capped]
    exact hi
  | ok terms =>
    rw [hread] at hcapped
    rw [parseWith_of_ok limit hread] at h
    rw [offence?_of_ok hexpr hread, offence?_of_ok hexpr hcapped,
      firstRefused_checkTerm_capCounts hlimit]
    rcases bind_eq_error_iff.mp h with hcheck | ⟨_, -, h⟩
    · obtain ⟨i, hi⟩ := exists_firstRefused_of_checkTerms hcheck 0
      rw [hi]
      exact ⟨i, rfl, rfl⟩
    · cases h

/-- **Nothing is lost by the cap.** With a limit below the cap, the reader of commands gives the
terms that an exact reader gives, which reads every count in full, or it turns the command down as
the exact reader does, for the same term; at most the count of a modifier that is reported then has
been cut down. -/
theorem capping_loses_nothing {limit : Limit} (hlimit : limit.BelowCap) (raw : List Char) :
    parse limit raw = (parseWith value limit raw).mapError Failure.capModifier ∧
    ∀ expr failure, expression? raw = some expr → parseWith value limit raw = .error failure →
      ∃ i, offence? value limit raw = some (i, failure) ∧
        offence? capped limit raw = some (i, failure.capModifier) :=
  ⟨parse_eq_mapError hlimit raw, fun _ _ hexpr h => exists_offence_of_parseWith hlimit hexpr h⟩

/-- A modifier that counts more dice than can be reported, on the first term of two in fault. -/
theorem capping_loses_nothing_modifier :
    (Limit.whole 1000).BelowCap ∧
      parseWith value (.whole 1000) "/r 2d6m12345678901 + 0d4".toList =
        .error (.rejected (.modifierTooLarge 12345678901 2)) ∧
      parse (.whole 1000) "/r 2d6m12345678901 + 0d4".toList =
        .error (.rejected (.modifierTooLarge 1000000000 2)) ∧
      expression? "/r 2d6m12345678901 + 0d4".toList = some "2d6m12345678901 + 0d4".toList ∧
      ∃ i, offence? value (.whole 1000) "/r 2d6m12345678901 + 0d4".toList =
          some (i, .rejected (.modifierTooLarge 12345678901 2)) ∧
        offence? capped (.whole 1000) "/r 2d6m12345678901 + 0d4".toList =
          some (i, .rejected (.modifierTooLarge 1000000000 2)) := by
  have hlimit : (Limit.whole 1000).BelowCap := by decide
  have hexact : parseWith value (.whole 1000) "/r 2d6m12345678901 + 0d4".toList =
      .error (.rejected (.modifierTooLarge 12345678901 2)) := by rfl
  have hexpr : expression? "/r 2d6m12345678901 + 0d4".toList =
      some "2d6m12345678901 + 0d4".toList := by rfl
  obtain ⟨hparse, hoffence⟩ := capping_loses_nothing hlimit "/r 2d6m12345678901 + 0d4".toList
  rw [hexact] at hparse
  exact ⟨hlimit, hexact, hparse, hexpr, hoffence _ _ hexpr hexact⟩

end Command

end ChatDice
