import ChatDice.Proofs.Ranges

/-!
# Parsing undoes writing

Main statement (`parse_eq_ok_iff_spelling`): a command is parsed as a list of terms exactly if the
list is well-formed and the command spells it. So each of the many spellings of a list leads back to
the list, and a command has no other parse.

The spellings meant here are the plain ones, in which a count is worth what its digits say. The
reader caps long counts instead, and a capped count is never in range: below the cap the two worths
agree (`Spells.congr`), and nothing else passes the range rules.
-/

namespace ChatDice.Command

open Numeral (IsNumeral cap value capped)

/-! ### Counts below the cap -/

/-- A payload whose counts are below the cap. -/
def CountsBelowCap : Payload → Prop
  | .dice spec => spec.count < cap ∧ ∀ m ∈ spec.modifier, m.count < cap
  | .literal _ => True

variable {readCount readCount' : List Char → Nat}

section congr

variable (hread : ∀ digits, IsNumeral digits → readCount digits < cap →
  readCount' digits = readCount digits)
include hread

/-- Both readers of counts agree on a count below the cap. -/
theorem SpellsCount.congr {text : List Char} {n : Int} (h : SpellsCount readCount text n)
    (hlt : n < cap) : SpellsCount readCount' text n := by
  cases h with
  | omitted => exact .omitted
  | written h =>
    rw [← hread text h (Int.ofNat_lt.mp hlt)]
    exact .written h

/-- They agree on a modifier whose count is below the cap. -/
theorem SpellsModifier.congr {text : List Char} {m : Option Modifier}
    (h : SpellsModifier readCount text m) (hlt : ∀ m' ∈ m, m'.count < cap) :
    SpellsModifier readCount' text m := by
  cases h with
  | absent => exact .absent
  | @present kind digits h =>
    have hcount : (readCount digits : Int) < cap := hlt ⟨kind, readCount digits⟩ rfl
    rw [← hread digits h (Int.ofNat_lt.mp hcount)]
    exact .present kind h

/-- Below the cap of counts, readers of counts that agree there give the same payloads. -/
theorem SpellsPayload.congr {body : List Char} {p : Payload} (h : SpellsPayload readCount body p)
    (hlt : CountsBelowCap p) : SpellsPayload readCount' body p := by
  cases h with
  | literal h hvalue => exact .literal h hvalue
  | dice hcount hc hsides hvalue hrest =>
    exact .dice (hcount.congr hread hlt.1) hc hsides hvalue (hrest.congr hread hlt.2)

/-- They agree on terms whose counts are below the cap. -/
theorem SpellsTerms.congr {expr : List Char} {terms : List Term}
    (h : SpellsTerms readCount expr terms) (hlt : ∀ term ∈ terms, CountsBelowCap term.payload) :
    SpellsTerms readCount' expr terms := by
  induction h with
  | first hbody => exact .first (hbody.congr hread (hlt _ List.mem_cons_self))
  | next h hw₁ hsign hw₂ hbody hp ih =>
    obtain ⟨hterms, hlast⟩ := List.forall_mem_append.mp hlt
    exact .next (ih hterms) hw₁ hsign hw₂ (hbody.congr hread (hlast _ List.mem_cons_self)) hp

/-- They agree on a command whose counts are below the cap. -/
theorem Spells.congr {command : List Char} {terms : List Term}
    (h : Spells readCount command terms) (hlt : ∀ term ∈ terms, CountsBelowCap term.payload) :
    Spells readCount' command terms := by
  obtain ⟨expr, hinvokes, hterms⟩ := h
  exact ⟨expr, hinvokes, hterms.congr hread hlt⟩

end congr

variable {limit : Limit}

/-- What is in range of a limit below the cap has its counts below the cap. -/
theorem countsBelowCap_of_wellFormed (hlimit : limit.BelowCap) {p : Payload}
    (h : p.WellFormed limit) : CountsBelowCap p := by
  cases p with
  | literal n => trivial
  | dice spec =>
    have hcount := hlimit.lt_cap h.not_exceeded
    exact ⟨hcount, fun m hm => Int.lt_of_le_of_lt (h.modifier_mem m hm).2 hcount⟩

/-! ### What is parsed is well-formed -/

/-- No modifier is spelled with a negative count. -/
theorem SpellsModifier.count_nonneg {text : List Char} {m : Option Modifier}
    (h : SpellsModifier readCount text m) : ∀ m' ∈ m, 0 ≤ m'.count := by
  cases h with
  | absent => rintro _ ⟨⟩
  | present kind h =>
    rintro _ ⟨⟩
    exact Int.natCast_nonneg _

/-- A spelled payload that passes the range rules is in range. -/
theorem SpellsPayload.wellFormed {body : List Char} {operator : Operator} {p : Payload}
    (h : SpellsPayload readCount body p) (hcheck : checkTerm limit ⟨operator, p⟩ = .ok ()) :
    p.WellFormed limit := by
  cases h with
  | literal h hlt => exact ⟨Int.natCast_nonneg _, Int.ofNat_lt.mpr hlt⟩
  | dice hcount hc hsides hlt hrest =>
    obtain ⟨hone, hlimit, hsides', hm⟩ := DiceSpec.check_eq_ok_iff.mp hcheck
    exact ⟨hone, hlimit, hsides', Int.ofNat_lt.mpr hlt,
      fun m' hm' => ⟨hrest.count_nonneg m' hm', hm m' hm'⟩⟩

/-- A character stands only for one of the four operators. -/
theorem mem_of_ofChar?_eq_some {c : Char} {operator : Operator}
    (h : Operator.ofChar? c = some operator) : operator ∈ [Operator.add, .sub, .mul, .div] := by
  unfold Operator.ofChar? at h
  split at h <;> cases h <;> decide

/-- A spelled list that passes the range rules is well-formed; each operator adds one term that is
not the first. -/
theorem SpellsTerms.wellFormed {expr : List Char} {terms : List Term}
    (h : SpellsTerms readCount expr terms)
    (hcheck : ∀ term ∈ terms, checkTerm limit term = .ok ()) : ChatDice.WellFormed limit terms := by
  induction h with
  | @first body p hbody =>
    have hp := hbody.wellFormed (hcheck _ List.mem_cons_self)
    refine ⟨List.cons_ne_nil _ _, ?_, ?_, ?_, List.forall_mem_nil _⟩
    · rintro _ ⟨⟩
      rfl
    · exact List.forall_mem_singleton.mpr List.mem_cons_self
    · exact List.forall_mem_singleton.mpr hp
  | @next expr w₁ w₂ body terms sign operator p h hw₁ hsign hw₂ hbody hplain ih =>
    obtain ⟨hterms, hlast⟩ := List.forall_mem_append.mp hcheck
    have hwf := ih hterms
    have hp := hbody.wellFormed (hlast _ List.mem_cons_self)
    refine ⟨by simp, ?_, ?_, ?_, ?_⟩
    · rw [List.head?_append_of_ne_nil _ hwf.ne_nil]
      exact hwf.head_add
    · exact List.forall_mem_append.mpr
        ⟨hwf.operator_mem, List.forall_mem_singleton.mpr (mem_of_ofChar?_eq_some hsign)⟩
    · exact List.forall_mem_append.mpr ⟨hwf.payload, List.forall_mem_singleton.mpr hp⟩
    · rw [List.tail_append_of_ne_nil hwf.ne_nil]
      exact List.forall_mem_append.mpr ⟨hwf.tail_plain, List.forall_mem_singleton.mpr hplain⟩

/-- What is parsed is well-formed. -/
theorem wellFormed_of_parse {command : List Char} {terms : List Term}
    (h : parse limit command = .ok terms) : ChatDice.WellFormed limit terms := by
  obtain ⟨⟨expr, -, hterms⟩, hcheck⟩ := parseWith_eq_ok_iff.mp (parse_eq_ok_iff.mp h)
  exact hterms.wellFormed hcheck

/-- A well-formed payload is in range. -/
theorem checkTerm_of_wellFormed {term : Term} (h : term.payload.WellFormed limit) :
    checkTerm limit term = .ok () := by
  obtain ⟨operator, p⟩ := term
  cases p with
  | literal n => rfl
  | dice spec =>
    exact DiceSpec.check_eq_ok_iff.mpr ⟨h.one_le_count, h.not_exceeded, h.one_le_sides,
      fun m hm => (h.modifier_mem m hm).2⟩

/-! ### Both directions -/

/-- A numeral below the cap is not cut. -/
theorem capped_eq_of_value {digits : List Char} (h : IsNumeral digits) (hlt : value digits < cap) :
    capped digits = value digits :=
  Numeral.capped_eq_of_value_lt h.digits hlt

/-- A numeral that is read below the cap was not cut. -/
theorem value_eq_of_capped {digits : List Char} (h : IsNumeral digits)
    (hlt : capped digits < cap) : value digits = capped digits :=
  (Numeral.capped_eq_value h.digits hlt).symm

/-- A parsed command spells its terms, its counts being worth what their digits say. -/
theorem spells_of_parse (hlimit : limit.BelowCap) {command : List Char} {terms : List Term}
    (h : parse limit command = .ok terms) : Spells value command terms := by
  have hwf := wellFormed_of_parse h
  refine (parseWith_eq_ok_iff.mp (parse_eq_ok_iff.mp h)).1.congr (fun _ => value_eq_of_capped) ?_
  exact fun term hmem => countsBelowCap_of_wellFormed hlimit (hwf.payload term hmem)

/-- A command that spells terms in range is parsed as these terms. -/
theorem parse_of_spells (hlimit : limit.BelowCap) {command : List Char} {terms : List Term}
    (hpayload : ∀ term ∈ terms, term.payload.WellFormed limit)
    (h : Spells value command terms) : parse limit command = .ok terms := by
  refine parse_eq_ok_iff.mpr (parseWith_eq_ok_iff.mpr ⟨h.congr (fun _ => capped_eq_of_value) ?_, ?_⟩)
  · exact fun term hmem => countsBelowCap_of_wellFormed hlimit (hpayload term hmem)
  · exact fun term hmem => checkTerm_of_wellFormed (hpayload term hmem)

/-- **Parsing undoes writing.** Under a limit below the cap, a command is parsed as a list of terms
exactly if the list is well-formed for the limit and the command is one of its spellings. -/
theorem parse_eq_ok_iff_spelling (hlimit : limit.BelowCap) (command : List Char)
    (terms : List Term) :
    parse limit command = .ok terms ↔
      ChatDice.WellFormed limit terms ∧ Spells value command terms :=
  ⟨fun h => ⟨wellFormed_of_parse h, spells_of_parse hlimit h⟩,
    fun ⟨hwf, h⟩ => parse_of_spells hlimit hwf.payload h⟩

/-- A command with every freedom of spelling: blanks, letter case, leading zeros and a count left
out. -/
theorem parse_eq_ok_of_free_spelling :
    (Limit.whole 1000).BelowCap ∧
      ChatDice.WellFormed (.whole 1000)
        [⟨.add, .dice ⟨2, 20, some ⟨.dropLowest, 1⟩⟩⟩, ⟨.mul, .literal 3⟩,
          ⟨.sub, .dice ⟨1, 6, none⟩⟩] ∧
      Spells value " /RoLaR\t02D020sm1 *  003 - d6 ".toList
        [⟨.add, .dice ⟨2, 20, some ⟨.dropLowest, 1⟩⟩⟩, ⟨.mul, .literal 3⟩,
          ⟨.sub, .dice ⟨1, 6, none⟩⟩] :=
  have hlimit : (Limit.whole 1000).BelowCap := by decide
  ⟨hlimit, (parse_eq_ok_iff_spelling hlimit _ _).mp rfl⟩

end ChatDice.Command
