import ChatDice.Proofs.CommandReading
import ChatDice.Proofs.Rolls

/-!
# Terms in range

A command is read in two passes, and so a parsed command is described by two conditions: it spells
its terms, and each of them passes the range rules (`parseWith_eq_ok_iff`). A command that is not
parsed is turned down, for a fault of form or for a number out of range
(`exists_rejected_of_parseWith`); the reasons of the second kind are `Rejection.IsRange`.

`WellFormed` says what a list of terms is like that comes out of this, without the reader: it is the
invariant that the evaluation of commands builds on. Limits may be fractions or truth values; the
ones that settings allow are `Limit.BelowCap`.
-/

namespace ChatDice

open Numeral (cap)

/-! ### Limits -/

namespace Limit

/-- A limit from one up to the cap of counts, the cap excluded. -/
def BelowCap (limit : Limit) : Prop :=
  limit.between 1 cap = true

instance (limit : Limit) : Decidable limit.BelowCap :=
  inferInstanceAs (Decidable (limit.between 1 cap = true))

/-- An integer is a limit below the cap if it is from one up to the cap, the cap excluded. -/
@[simp] theorem belowCap_whole {n : Int} : (whole n).BelowCap ↔ 1 ≤ n ∧ n < cap := by
  have hlow : (compare n 1 = .gt ∨ compare n 1 = .eq) ↔ 1 ≤ n := by
    rw [Int.compare_eq_gt, Int.compare_eq_eq]
    omega
  simp only [BelowCap, between, compareInt, Bool.and_eq_true, Bool.or_eq_true, beq_iff_eq,
    Option.some_inj, Int.compare_eq_lt, hlow]

/-- The cap of counts is above every limit that settings allow. -/
theorem BelowCap.exceededBy_cap {limit : Limit} (h : limit.BelowCap) :
    limit.exceededBy cap = true := by
  unfold BelowCap between at h
  rw [Bool.and_eq_true] at h
  exact h.2

/-- A number of dice above one that exceeds the limit exceeds it too. -/
theorem exceededBy_mono {limit : Limit} {m n : Int} (hmn : m ≤ n)
    (h : limit.exceededBy m = true) : limit.exceededBy n = true := by
  have hlt : ∀ {a b c d : Int}, (a < b → c < d) →
      (some (compare a b) == some Ordering.lt) = true →
      (some (compare c d) == some Ordering.lt) = true := by
    intro a b c d himp hab
    rw [beq_iff_eq, Option.some_inj, Int.compare_eq_lt] at hab ⊢
    exact himp hab
  unfold exceededBy at h ⊢
  cases limit with
  | whole k => exact hlt (fun hk => Int.lt_of_lt_of_le hk hmn) h
  | flag b => exact hlt (fun hb => Int.lt_of_lt_of_le hb hmn) h
  | real x =>
    cases x with
    | infinite negative => exact h
    | nan => exact h
    | finite negative mantissa exponent =>
      simp only [compareInt, Binary64.compareInt] at h ⊢
      split at h
      · next hexp =>
        rw [if_pos hexp]
        exact hlt (fun hk => Int.lt_of_lt_of_le hk hmn) h
      · next hexp =>
        rw [if_neg hexp]
        have hpow : (0 : Int) ≤ 2 ^ (-exponent).toNat := Int.le_of_lt (Int.pow_pos (by decide))
        exact hlt (fun hk => Int.lt_of_lt_of_le hk (Int.mul_le_mul_of_nonneg_right hmn hpow)) h

/-- No more dice than such a limit are fewer than the cap. -/
theorem BelowCap.lt_cap {limit : Limit} (h : limit.BelowCap) {n : Int}
    (hn : limit.exceededBy n = false) : n < cap := by
  by_contra hge
  rw [exceededBy_mono (Int.not_lt.mp hge) h.exceededBy_cap] at hn
  cases hn

/-- Such limits can be printed. -/
theorem BelowCap.isPrintable {limit : Limit} (h : limit.BelowCap) : limit.isPrintable = true := by
  cases limit with
  | whole n =>
    have hn := belowCap_whole.mp h
    exact Numeral.isPrintable_of_natAbs_le_cap (by omega)
  | real x => rfl
  | flag b => rfl

end Limit

/-! ### Well-formed terms -/

/-- A group of dice in range. -/
structure DiceSpec.WellFormed (limit : Limit) (spec : DiceSpec) : Prop where
  /-- There is at least one die. -/
  one_le_count : 1 ≤ spec.count
  /-- There are no more dice than the limit. -/
  not_exceeded : limit.exceededBy spec.count = false
  /-- A die has at least one side. -/
  one_le_sides : 1 ≤ spec.sides
  /-- A die has fewer sides than the cap. -/
  sides_lt : spec.sides < cap
  /-- A modifier counts some of the dice, possibly none or all. -/
  modifier_mem : ∀ m ∈ spec.modifier, 0 ≤ m.count ∧ m.count ≤ spec.count

/-- A payload in range. -/
def Payload.WellFormed (limit : Limit) : Payload → Prop
  | .dice spec => spec.WellFormed limit
  | .literal n => 0 ≤ n ∧ n < cap

/-- A list of terms as commands describe it. -/
structure WellFormed (limit : Limit) (terms : List Term) : Prop where
  /-- There is a term. -/
  ne_nil : terms ≠ []
  /-- The first term is added. -/
  head_add : ∀ term ∈ terms.head?, term.operator = .add
  /-- Every term is combined by one of the four operators. -/
  operator_mem : ∀ term ∈ terms, term.operator ∈ [.add, .sub, .mul, .div]
  /-- Every term is in range. -/
  payload : ∀ term ∈ terms, term.payload.WellFormed limit
  /-- Only the first term may have a modifier. -/
  tail_plain : ∀ term ∈ terms.tail, term.payload.IsPlain

/-! ### The range rules -/

/-- A group is in range exactly if its dice, its sides and its modifier are. -/
theorem DiceSpec.check_eq_ok_iff {spec : DiceSpec} {limit : Limit} :
    spec.check limit = .ok () ↔
      1 ≤ spec.count ∧ limit.exceededBy spec.count = false ∧ 1 ≤ spec.sides ∧
        ∀ m ∈ spec.modifier, m.count ≤ spec.count := by
  unfold check
  split
  · next h => exact ⟨fun hcon => (nomatch hcon), fun hcon => absurd hcon.1 (Int.not_le.mpr h)⟩
  split
  · next h => exact ⟨fun hcon => (nomatch hcon), fun hcon => by simp [h] at hcon⟩
  split
  · next h => exact ⟨fun hcon => (nomatch hcon), fun hcon => absurd hcon.2.2.1 (Int.not_le.mpr h)⟩
  next hcount hlimit hsides =>
  rw [Bool.not_eq_true] at hlimit
  cases hm : spec.modifier with
  | none => simp [Int.not_lt.mp hcount, hlimit, Int.not_lt.mp hsides]
  | some m =>
    simp only
    split
    · next h => exact ⟨fun hcon => (nomatch hcon), fun hcon => by
        have := hcon.2.2.2 m rfl
        omega⟩
    · next h =>
      refine ⟨fun _ => ⟨Int.not_lt.mp hcount, hlimit, Int.not_lt.mp hsides, ?_⟩, fun _ => rfl⟩
      rintro m' ⟨⟩
      exact Int.not_lt.mp h

/-- The reasons for which a group of dice can be out of range. -/
inductive Rejection.IsRange (limit : Limit) : Rejection → Prop
  | noDice : IsRange limit .noDice
  | tooManyDice : IsRange limit (.tooManyDice limit)
  | badSides (sides : Int) : IsRange limit (.badSides sides)
  | modifierTooLarge (selected dice : Int) : IsRange limit (.modifierTooLarge selected dice)

/-- A number out of range is no fault of form. -/
theorem Rejection.IsRange.ne_malformed {limit : Limit} {why : Rejection} (h : why.IsRange limit)
    (fault : FormatFault) : why ≠ .malformed fault := by
  rintro rfl
  cases h

/-- A group is turned down only for a range rule. -/
theorem DiceSpec.exists_isRange_of_check {spec : DiceSpec} {limit : Limit} {failure : Failure}
    (h : spec.check limit = .error failure) : ∃ why, why.IsRange limit ∧ failure = .rejected why := by
  unfold check at h
  repeat' split at h
  all_goals cases h
  · exact ⟨_, .noDice, rfl⟩
  · exact ⟨_, .tooManyDice, rfl⟩
  · exact ⟨_, .badSides _, rfl⟩
  · exact ⟨_, .modifierTooLarge _ _, rfl⟩

namespace Command

/-- Terms are in range if each of them is. -/
theorem checkTerms_eq_ok_iff {limit : Limit} {terms : List Term} :
    checkTerms limit terms = .ok () ↔ ∀ term ∈ terms, checkTerm limit term = .ok () := by
  induction terms with
  | nil => exact ⟨fun _ => List.forall_mem_nil _, fun _ => rfl⟩
  | cons term terms ih =>
    rw [checkTerms, bind_eq_ok_iff, List.forall_mem_cons, ← ih]
    exact ⟨fun ⟨_, h, hs⟩ => ⟨h, hs⟩, fun h => ⟨(), h⟩⟩

/-- Terms are turned down for one of them. -/
theorem exists_mem_of_checkTerms {limit : Limit} {terms : List Term} {failure : Failure}
    (h : checkTerms limit terms = .error failure) :
    ∃ term ∈ terms, checkTerm limit term = .error failure := by
  induction terms with
  | nil => cases h
  | cons term terms ih =>
    rw [checkTerms] at h
    rcases bind_eq_error_iff.mp h with hterm | ⟨_, -, hterms⟩
    · exact ⟨term, List.mem_cons_self, hterm⟩
    · obtain ⟨later, hmem, hlater⟩ := ih hterms
      exact ⟨later, List.mem_cons_of_mem _ hmem, hlater⟩

/-- Terms are turned down only for a range rule. -/
theorem exists_isRange_of_checkTerms {limit : Limit} {terms : List Term} {failure : Failure}
    (h : checkTerms limit terms = .error failure) :
    ∃ why, why.IsRange limit ∧ failure = .rejected why := by
  obtain ⟨⟨operator, p⟩, -, hterm⟩ := exists_mem_of_checkTerms h
  cases p with
  | literal n => cases hterm
  | dice spec => exact DiceSpec.exists_isRange_of_check hterm

/-! ### Both passes -/

variable {readCount : List Char → Nat} {limit : Limit} {command : List Char}

/-- A command is parsed as the terms that it spells if all of them pass the range rules. -/
theorem parseWith_eq_ok_iff {terms : List Term} :
    parseWith readCount limit command = .ok terms ↔
      Spells readCount command terms ∧ ∀ term ∈ terms, checkTerm limit term = .ok () := by
  rw [parseWith, bind_eq_ok_iff, ← readTermsWith_eq_ok_iff, ← checkTerms_eq_ok_iff]
  constructor
  · rintro ⟨terms', hread, h⟩
    obtain ⟨_, hcheck, h⟩ := bind_eq_ok_iff.mp h
    cases h
    exact ⟨hread, hcheck⟩
  · rintro ⟨hread, hcheck⟩
    exact ⟨terms, hread, bind_eq_ok_iff.mpr ⟨(), hcheck, rfl⟩⟩

/-- The form comes first: terms that cannot be read are not checked. -/
theorem parseWith_of_error {failure : Failure}
    (h : readTermsWith readCount command = .error failure) :
    parseWith readCount limit command = .error failure := by
  rw [parseWith, h]
  rfl

/-- Terms that can be read are what the command is parsed as, unless one is out of range. -/
theorem parseWith_of_ok (limit : Limit) {terms : List Term}
    (h : readTermsWith readCount command = .ok terms) :
    parseWith readCount limit command = checkTerms limit terms >>= fun _ => .ok terms := by
  rw [parseWith, h]
  rfl

/-- What a command is not parsed for: a fault of form or a number out of range. -/
theorem found_or_isRange_of_parseWith {failure : Failure}
    (h : parseWith readCount limit command = .error failure) :
    failure.IsFound ∨ ∃ why, why.IsRange limit ∧ failure = .rejected why := by
  cases hread : readTermsWith readCount command with
  | error fault =>
    rw [parseWith_of_error hread] at h
    cases h
    exact .inl (found_of_readTermsWith hread)
  | ok terms =>
    rw [parseWith_of_ok limit hread] at h
    rcases bind_eq_error_iff.mp h with hcheck | ⟨_, -, h⟩
    · exact .inr (exists_isRange_of_checkTerms hcheck)
    · cases h

/-- A command that is not parsed is turned down. -/
theorem exists_rejected_of_parseWith {failure : Failure}
    (h : parseWith readCount limit command = .error failure) : ∃ why, failure = .rejected why := by
  rcases found_or_isRange_of_parseWith h with ⟨fault, rfl, -⟩ | ⟨why, -, rfl⟩
  · exact ⟨_, rfl⟩
  · exact ⟨_, rfl⟩

/-! ### What is reported -/

/-- What is found out about a command is what it is parsed as. -/
theorem parse_eq_ok_iff {terms : List Term} :
    parse limit command = .ok terms ↔ parseWith Numeral.capped limit command = .ok terms :=
  mapError_eq_ok_iff

/-- A command is reported for what it is turned down for. -/
theorem parse_eq_error_iff {failure : Failure} :
    parse limit command = .error failure ↔
      ∃ why, parseWith Numeral.capped limit command = .error (.rejected why) ∧
        (Failure.rejected why).reported = failure := by
  rw [parse, mapError_eq_error_iff]
  constructor
  · rintro ⟨found, h, hreported⟩
    obtain ⟨why, rfl⟩ := exists_rejected_of_parseWith h
    exact ⟨why, h, hreported⟩
  · rintro ⟨why, h, hreported⟩
    exact ⟨_, h, hreported⟩

/-- A fault of form is reported as it is. -/
theorem parse_of_malformed {fault : FormatFault}
    (h : readTerms command = .error (.malformed fault)) :
    parse limit command = .error (.malformed fault) :=
  parse_eq_error_iff.mpr ⟨_, parseWith_of_error h, Failure.reported_malformed fault⟩

/-- The count of a group of dice, read with the cap, does not exceed it. -/
theorem SpellsCount.le_cap {text : List Char} {n : Int} (h : SpellsCount Numeral.capped text n) :
    0 ≤ n ∧ n ≤ cap := by
  cases h with
  | omitted => decide
  | written h =>
    rw [Numeral.capped_eq_min h.digits]
    omega

/-- The count of a modifier, read with the cap, does not exceed it. -/
theorem SpellsModifier.le_cap {text : List Char} {m : Option Modifier}
    (h : SpellsModifier Numeral.capped text m) : ∀ m' ∈ m, 0 ≤ m'.count ∧ m'.count ≤ cap := by
  cases h with
  | absent => rintro _ ⟨⟩
  | @present kind digits h =>
    rintro _ ⟨⟩
    have hle : Numeral.capped digits ≤ cap := by
      rw [Numeral.capped_eq_min h.digits]
      exact Nat.min_le_right _ _
    exact ⟨Int.natCast_nonneg _, Int.ofNat_le.mpr hle⟩

/-- No number in a group of dice that a command spells exceeds the cap. -/
theorem SpellsPayload.natAbs_le_cap {body : List Char} {spec : DiceSpec}
    (h : SpellsPayload Numeral.capped body (.dice spec)) :
    ∀ n ∈ spec.numbers [], n.natAbs ≤ cap := by
  cases h with
  | @dice _ sides _ _ count m hcount hc hsides hlt hrest =>
    have hcount := hcount.le_cap
    simp only [DiceSpec.numbers, List.append_nil, List.forall_mem_cons, List.mem_map,
      Option.mem_toList]
    refine ⟨by omega, by omega, ?_⟩
    rintro _ ⟨m', hm', rfl⟩
    have hm := hrest.le_cap m' hm'
    omega

/-- Every term of an expression has a body that spells it. -/
theorem SpellsTerms.exists_spellsPayload {expr : List Char} {terms : List Term}
    (h : SpellsTerms readCount expr terms) :
    ∀ term ∈ terms, ∃ body, SpellsPayload readCount body term.payload := by
  induction h with
  | first hbody => exact List.forall_mem_singleton.mpr ⟨_, hbody⟩
  | next h hw₁ hsign hw₂ hbody hp ih =>
    exact List.forall_mem_append.mpr ⟨ih, List.forall_mem_singleton.mpr ⟨_, hbody⟩⟩

/-- The reader of commands gives no number above the cap. -/
theorem natAbs_le_cap_of_readTerms {terms : List Term} (h : readTerms command = .ok terms) :
    ∀ term ∈ terms, ∀ spec, term.payload = .dice spec →
      ∀ n ∈ spec.numbers [], n.natAbs ≤ cap := by
  intro term hmem spec hspec
  obtain ⟨expr, -, hterms⟩ := readTermsWith_eq_ok_iff.mp h
  obtain ⟨body, hbody⟩ := hterms.exists_spellsPayload term hmem
  rw [hspec] at hbody
  exact hbody.natAbs_le_cap

end Command

/-- Of the reasons to turn down a group of dice with small numbers, only the limit can be too long
for the message. -/
theorem DiceSpec.isPrintable_of_check {limit : Limit} {spec : DiceSpec} {why : Rejection}
    (hsmall : ∀ n ∈ spec.numbers [], n.natAbs ≤ cap)
    (h : spec.check limit = .error (.rejected why)) :
    why.isPrintable = true ∨ why = .tooManyDice limit ∧ limit.isPrintable = false := by
  unfold check at h
  repeat' split at h
  all_goals cases h
  · exact .inl rfl
  · cases hprint : limit.isPrintable with
    | true => exact .inl hprint
    | false => exact .inr ⟨rfl, rfl⟩
  · exact .inl rfl
  · next m hm _ =>
    refine .inl (Bool.and_eq_true_iff.mpr ⟨?_, ?_⟩)
    · refine Numeral.isPrintable_of_natAbs_le_cap (hsmall _ ?_)
      simp [numbers, hm]
    · exact Numeral.isPrintable_of_natAbs_le_cap (hsmall _ List.mem_cons_self)

namespace Command

variable {limit : Limit} {command : List Char} {why : Rejection}

/-- A command is turned down for a fault of form, or for one of its groups. -/
theorem malformed_or_exists_check_of_parseWith
    (h : parseWith Numeral.capped limit command = .error (.rejected why)) :
    (∃ fault, why = .malformed fault) ∨
      ∃ spec : DiceSpec, (∀ n ∈ spec.numbers [], n.natAbs ≤ cap) ∧
        spec.check limit = .error (.rejected why) := by
  cases hread : readTerms command with
  | error failure =>
    rw [parseWith_of_error hread] at h
    obtain ⟨fault, hfault, -⟩ := found_of_readTermsWith hread
    cases hfault.symm.trans (Except.error.inj h)
    exact .inl ⟨fault, rfl⟩
  | ok terms =>
    rw [parseWith_of_ok limit hread] at h
    rcases bind_eq_error_iff.mp h with hcheck | ⟨_, -, h⟩
    · obtain ⟨⟨operator, p⟩, hmem, hterm⟩ := exists_mem_of_checkTerms hcheck
      cases p with
      | literal n => cases hterm
      | dice spec => exact .inr ⟨spec, natAbs_le_cap_of_readTerms hread _ hmem spec rfl, hterm⟩
    · cases h

/-- What a command is turned down for can be put into a message, unless the limit cannot. -/
theorem isPrintable_of_parseWith
    (h : parseWith Numeral.capped limit command = .error (.rejected why)) :
    why.isPrintable = true ∨ why = .tooManyDice limit ∧ limit.isPrintable = false := by
  rcases malformed_or_exists_check_of_parseWith h with ⟨fault, rfl⟩ | ⟨spec, hsmall, hcheck⟩
  · exact .inl rfl
  · exact DiceSpec.isPrintable_of_check hsmall hcheck

/-- Under a limit that can be printed, a command is reported for what it is turned down for. -/
theorem parse_eq_rejected_iff (hlimit : limit.isPrintable = true) {failure : Failure} :
    parse limit command = .error failure ↔
      parseWith Numeral.capped limit command = .error failure := by
  rw [parse_eq_error_iff]
  constructor
  · rintro ⟨why, h, rfl⟩
    rcases isPrintable_of_parseWith h with hprint | ⟨-, hlong⟩
    · rwa [Failure.reported_rejected hprint]
    · rw [hlimit] at hlong
      cases hlong
  · intro h
    obtain ⟨why, rfl⟩ := exists_rejected_of_parseWith h
    rcases isPrintable_of_parseWith h with hprint | ⟨-, hlong⟩
    · exact ⟨why, h, Failure.reported_rejected hprint⟩
    · rw [hlimit] at hlong
      cases hlong

/-- So nothing is lost by reporting. -/
theorem parse_eq_parseWith (hlimit : limit.isPrintable = true) (command : List Char) :
    parse limit command = parseWith Numeral.capped limit command := by
  cases h : parseWith Numeral.capped limit command with
  | ok terms => exact parse_eq_ok_iff.mpr h
  | error failure => exact (parse_eq_rejected_iff hlimit).mpr h

/-- What is reported for a command: what it is turned down for, or that the limit is too long for
the message. -/
theorem rejected_or_unprintable_of_parse {failure : Failure}
    (h : parse limit command = .error failure) :
    (∃ why, failure = .rejected why ∧ why.isPrintable = true ∧
        parseWith Numeral.capped limit command = .error (.rejected why)) ∨
      failure = .unprintable ∧ limit.isPrintable = false ∧
        parseWith Numeral.capped limit command = .error (.rejected (.tooManyDice limit)) := by
  obtain ⟨why, hwhy, rfl⟩ := parse_eq_error_iff.mp h
  rcases isPrintable_of_parseWith hwhy with hprint | ⟨rfl, hlong⟩
  · exact .inl ⟨why, Failure.reported_rejected hprint, hprint, hwhy⟩
  · exact .inr ⟨Failure.reported_tooManyDice hlong, hlong, hwhy⟩

end Command

end ChatDice
