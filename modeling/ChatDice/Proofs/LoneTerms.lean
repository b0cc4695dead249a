import ChatDice.Proofs.Capping
import ChatDice.Proofs.TermByTerm
import Mathlib.Data.Nat.Digits.Defs

/-!
# Terms on their own

The readers of single terms can be asked about any text, also one that no slice of a command is.
`SpellsTerm` says which texts are terms: an operator, which may be left out, and a body. The readers
pass over one line feed at the end of a text, and so what they accept is not quite that.

For dice this is all the difference (`SpellsLine`): a term with or without a line feed after it is
read as the group of dice that it describes, its counts cut down to the cap, and then its ranges are
checked (`diceTerm_of_spellsLine`); any other text is malformed (`malformed_diceTerm_iff`).

For literals the line feed goes into the conversion of the digits and counts as one of them. It
costs a literal the last of its nine digits, and it is all that is left of a zero when the leading
zeros are gone. `literalTerm_eq_ok_iff` and `literalTerm_eq_error` give the whole of it.

Without a line feed there is nothing to except: whatever its length and its leading zeros, a numeral
is read as what its digits stand for in positional notation, counts up to the cap and sides and
literals below it (`numerals_read_up_to_cap`).
-/

namespace ChatDice

open Numeral (IsNumeral Digits cap value)

/-! ### Digits with a line feed after them -/

namespace Numeral

/-- Without its leading zeros nothing is left of a zero but what stands after it. -/
theorem significant_append_of_value_eq_zero {text : List Char} (h : Digits text)
    (hzero : value text = 0) : significant (text ++ ['\n']) = ['\n'] := by
  apply significant_of_eq_cons
  rw [List.dropWhile_append, (dropWhile_zero_eq_nil_iff h).mpr hzero]
  rfl

/-- Of a numeral that is not zero the same zeros are dropped, whatever follows it. -/
theorem significant_append_of_value_ne_zero {text : List Char} (h : Digits text)
    (hzero : value text ≠ 0) (tail : List Char) :
    significant (text ++ tail) = significant text ++ tail := by
  cases hd : text.dropWhile (· == '0') with
  | nil => exact absurd ((dropWhile_zero_eq_nil_iff h).mp hd) hzero
  | cons c rest =>
    have happend : (text ++ tail).dropWhile (· == '0') = c :: (rest ++ tail) := by
      rw [List.dropWhile_append, hd]
      rfl
    rw [significant_of_eq_cons happend, significant_of_eq_cons hd]
    rfl

/-- Digits are converted with a line feed after them as without. -/
theorem integer?_append_lineFeed {text : List Char} (h : IsNumeral text) :
    integer? (text ++ ['\n']) = some (value text) := by
  have hlineFeed : Text.Blanks ['\n'] := by decide
  have htrim : Text.trim (text ++ ['\n']) = Text.trim text := by
    rw [Text.trim_eq_self h.tight]
    exact Text.trim_append_append Text.blanks_nil h.tight hlineFeed
  rw [integer?, htrim]
  exact integer?_of_isNumeral h

/-! ### Numerals of any length -/

/-- Positional notation: every digit counts ten times as much as the one after it. -/
theorem value_eq_ofDigits (text : List Char) :
    value text = Nat.ofDigits 10 (text.map digitValue).reverse := by
  induction text with
  | nil => rfl
  | cons c text ih =>
    rw [value_cons, ih, List.map_cons, Nat.ofDigits_reverse_cons, List.length_map]
    exact Nat.add_comm _ _

end Numeral

namespace Command

/-- **Numerals are read exactly up to the cap.** A count is read as what its digits stand for, or as
the cap if they stand for more. Sides and literals are read as what their digits stand for if that
is below the cap, and else turned down for having too many digits. -/
theorem numerals_read_up_to_cap {text : List Char} (h : IsNumeral text) {v : Nat}
    (hv : Nat.ofDigits 10 (text.map Numeral.digitValue).reverse = v) :
    Numeral.capped text = min v (10 ^ 9) ∧
      (v < 10 ^ 9 → number text = .ok v) ∧
      (10 ^ 9 ≤ v → number text = .error (.malformed (.tooManyDigits text))) := by
  rw [← Numeral.value_eq_ofDigits] at hv
  subst hv
  have hnumber := number_of_isNumeral h
  refine ⟨Numeral.capped_eq_min h.digits, fun hlt => ?_, fun hge => ?_⟩
  · rw [hnumber]
    exact if_pos hlt
  · rw [hnumber]
    exact if_neg (Nat.not_lt.mpr hge)

/-- Two zeros before the greatest number below the cap, and before the cap. -/
theorem numerals_read_up_to_cap_border :
    IsNumeral "00999999999".toList ∧ IsNumeral "001000000000".toList ∧
      Numeral.capped "00999999999".toList = 999999999 ∧
      number "00999999999".toList = .ok 999999999 ∧
      Numeral.capped "001000000000".toList = 1000000000 ∧
      number "001000000000".toList = .error (.malformed (.tooManyDigits "001000000000".toList)) := by
  have hbelow : IsNumeral "00999999999".toList := by decide
  have hcap : IsNumeral "001000000000".toList := by decide
  obtain ⟨hcount, hnumber, -⟩ := numerals_read_up_to_cap hbelow (v := 999999999) rfl
  obtain ⟨hcount', -, hnumber'⟩ := numerals_read_up_to_cap hcap (v := 1000000000) rfl
  exact ⟨hbelow, hcap, hcount, hnumber (by decide), hcount', hnumber' (by decide)⟩

/-- A line feed after a numeral counts as a digit of it; after a zero it is all that is left. -/
theorem number_append_lineFeed {text : List Char} (h : IsNumeral text) :
    number (text ++ ['\n']) =
      if value text = 0 then .error (.notNumeral ['\n'])
      else if value text < 10 ^ (Numeral.maxDigits - 1) then .ok (value text)
      else .error (.malformed (.tooManyDigits (text ++ ['\n']))) := by
  rw [number]
  by_cases hzero : value text = 0
  · rw [if_pos hzero, Numeral.significant_append_of_value_eq_zero h.digits hzero]
    rfl
  · have hsignificant : IsNumeral (Numeral.significant text) :=
      ⟨Numeral.significant_ne_nil text, Numeral.digits_significant h.digits⟩
    have hlength : (Numeral.significant text).length ≤ Numeral.maxDigits - 1 ↔
        value text < 10 ^ (Numeral.maxDigits - 1) :=
      Numeral.length_significant_le_iff h.digits (by decide)
    have hplaces : (Numeral.significant text).length + 1 > Numeral.maxDigits ↔
        ¬value text < 10 ^ (Numeral.maxDigits - 1) := by
      have hpos : 0 < Numeral.maxDigits := by decide
      rw [← hlength]
      omega
    rw [if_neg hzero, Numeral.significant_append_of_value_ne_zero h.digits hzero,
      Numeral.integer?_append_lineFeed hsignificant, Numeral.value_significant,
      List.length_append, List.length_singleton]
    by_cases hlt : value text < 10 ^ (Numeral.maxDigits - 1)
    · rw [if_neg (fun hlong => hplaces.mp hlong hlt), if_pos hlt]
    · rw [if_pos (hplaces.mpr hlt), if_neg hlt]

/-! ### The texts of terms -/

/-- The text of a term: its operator, which may be left out if the term is added, and its body. -/
inductive SpellsTerm (readCount : List Char → Nat) : List Char → Term → Prop
  | plain {body : List Char} {p : Payload} (hbody : SpellsPayload readCount body p) :
      SpellsTerm readCount body ⟨.add, p⟩
  | signed {sign : Char} {operator : Operator} {body : List Char} {p : Payload}
      (hsign : Operator.ofChar? sign = some operator) (hbody : SpellsPayload readCount body p) :
      SpellsTerm readCount (sign :: body) ⟨operator, p⟩

/-- The text of a term with at most one line feed after it. -/
def SpellsLine (readCount : List Char → Nat) (text : List Char) (term : Term) : Prop :=
  ∃ t tail, SpellsTerm readCount t term ∧ atEnd tail = true ∧ text = t ++ tail

variable {readCount : List Char → Nat} {text : List Char} {operator : Operator} {p : Payload}

/-- A term does not end in a line feed. -/
theorem SpellsTerm.getLast?_ne {term : Term} (h : SpellsTerm readCount text term) :
    text.getLast? ≠ some '\n' := by
  intro hlast
  have hvisible : ∀ {body : List Char} {p : Payload}, SpellsPayload readCount body p →
      body.getLast? ≠ some '\n' := by
    intro body p hbody hlast
    exact absurd (hbody.tight.2 '\n' hlast) (by decide)
  cases h with
  | plain hbody => exact hvisible hbody hlast
  | signed hsign hbody =>
    rw [List.getLast?_cons_of_ne_nil hbody.ne_nil] at hlast
    exact hvisible hbody hlast

/-- Only a line feed at the end of a text makes a difference. -/
theorem spellsLine_iff_of_getLast?_ne {term : Term} (h : text.getLast? ≠ some '\n') :
    SpellsLine readCount text term ↔ SpellsTerm readCount text term := by
  constructor
  · rintro ⟨t, tail, hterm, hend, rfl⟩
    rcases atEnd_iff.mp hend with rfl | rfl
    · rw [List.append_nil]
      exact hterm
    · exact absurd List.getLast?_concat h
  · intro hterm
    exact ⟨text, [], hterm, rfl, (List.append_nil text).symm⟩

/-- The operator of a term is taken off it, whatever stands after the term. -/
theorem exists_body_of_spellsTerm {t : List Char} (h : SpellsTerm readCount t ⟨operator, p⟩) :
    ∃ body, SpellsPayload readCount body p ∧
      ∀ tail, splitOperator (t ++ tail) = (operator, body ++ tail) := by
  cases h with
  | plain hbody =>
    refine ⟨t, hbody, fun tail => splitOperator_of_not_sign ?_⟩
    intro c hc
    rw [List.head?_append_of_ne_nil _ hbody.ne_nil] at hc
    exact hbody.forall_isSign_eq_false c (List.mem_of_mem_head? hc)
  | @signed sign _ body _ hsign hbody =>
    exact ⟨body, hbody, fun tail => splitOperator_of_sign (body ++ tail) hsign⟩

/-- When a body is left after the operator, with something at its end, the text was a term with the
same at its end. -/
theorem exists_spellsTerm_of_splitOperator {body tail : List Char}
    (hbody : SpellsPayload readCount body p)
    (h : splitOperator text = (operator, body ++ tail)) :
    ∃ t, SpellsTerm readCount t ⟨operator, p⟩ ∧ text = t ++ tail := by
  unfold splitOperator at h
  split at h
  · obtain ⟨hop, htext⟩ := Prod.mk.inj h
    rw [← hop]
    exact ⟨body, .plain hbody, htext⟩
  · next c s =>
    split at h
    · next found hfound =>
      obtain ⟨rfl, htext⟩ := Prod.mk.inj h
      exact ⟨c :: body, .signed hfound hbody, by rw [htext, List.cons_append]⟩
    · obtain ⟨hop, htext⟩ := Prod.mk.inj h
      rw [← hop]
      exact ⟨body, .plain hbody, htext⟩

/-! ### Literals -/

/-- A literal on its own is its operator and the literal after it. -/
theorem literalTerm_eq {body : List Char} (h : splitOperator text = (operator, body)) :
    literalTerm text = literal body >>= fun n => .ok (operator, n) := by
  simp only [literalTerm, h]
  rfl

/-- A text is a numeral, or a numeral with a line feed after it, or no literal at all. -/
theorem literal_cases (body : List Char) :
    IsNumeral body ∨ (∃ digits, IsNumeral digits ∧ body = digits ++ ['\n']) ∨
      literal body = .error (.malformed (.malformedLiteral body)) := by
  by_cases h : ∃ digits tail, IsNumeral digits ∧ atEnd tail = true ∧ body = digits ++ tail
  · obtain ⟨digits, tail, hdigits, hend, rfl⟩ := h
    rcases atEnd_iff.mp hend with rfl | rfl
    · rw [List.append_nil]
      exact .inl hdigits
    · exact .inr (.inl ⟨digits, hdigits, rfl⟩)
  · refine .inr (.inr (literal_eq_error_of_ne ?_))
    intro digits tail hdigits hend hbody
    exact h ⟨digits, tail, hdigits, hend, hbody⟩

/-- A numeral with a line feed after it: zero cannot be converted, and else the line feed counts as
one of the nine digits. -/
theorem literal_append_lineFeed {digits : List Char} (h : IsNumeral digits) :
    literal (digits ++ ['\n']) =
      if value digits = 0 then .error (.notNumeral ['\n'])
      else if value digits < 10 ^ (Numeral.maxDigits - 1) then .ok (value digits)
      else .error (.malformed (.tooManyDigits (digits ++ ['\n']))) := by
  rw [literal_append h rfl, number_append_lineFeed h]

/-- A text is read as the literal that it spells. One that ends in a line feed has a digit less, and
is not zero. -/
theorem literalTerm_eq_ok_iff {n : Nat} :
    literalTerm text = .ok (operator, n) ↔
      SpellsTerm value text ⟨operator, .literal n⟩ ∨
        ∃ t, SpellsTerm value t ⟨operator, .literal n⟩ ∧ text = t ++ ['\n'] ∧
          0 < n ∧ n < 10 ^ (Numeral.maxDigits - 1) := by
  constructor
  · intro h
    rcases hsplit : splitOperator text with ⟨found, body⟩
    rw [literalTerm_eq hsplit] at h
    obtain ⟨m, hliteral, hm⟩ := bind_eq_ok_iff.mp h
    obtain ⟨rfl, rfl⟩ := Prod.mk.inj (Except.ok.inj hm)
    rcases literal_cases body with hbody | ⟨digits, hdigits, rfl⟩ | herror
    · rw [literal_of_isNumeral hbody] at hliteral
      obtain ⟨hlt, rfl⟩ := (number_eq_ok_iff hbody).mp hliteral
      rw [← List.append_nil body] at hsplit
      have hpayload : SpellsPayload value body (.literal (value body)) := .literal hbody hlt
      obtain ⟨t, hterm, rfl⟩ := exists_spellsTerm_of_splitOperator hpayload hsplit
      rw [List.append_nil]
      exact .inl hterm
    · rw [literal_append_lineFeed hdigits] at hliteral
      split at hliteral
      · cases hliteral
      split at hliteral
      · next hzero hlt =>
        cases hliteral
        have hcap : value digits < cap := Nat.lt_trans hlt (by decide)
        have hpayload : SpellsPayload value digits (.literal (value digits)) :=
          .literal hdigits hcap
        obtain ⟨t, hterm, htext⟩ := exists_spellsTerm_of_splitOperator hpayload hsplit
        exact .inr ⟨t, hterm, htext, Nat.pos_of_ne_zero hzero, hlt⟩
      · cases hliteral
    · rw [herror] at hliteral
      cases hliteral
  · rintro (hterm | ⟨t, hterm, rfl, hpos, hlt⟩)
    · obtain ⟨body, hbody, hsplit⟩ := exists_body_of_spellsTerm hterm
      obtain ⟨hdigits, hcap, hn⟩ := spellsPayload_literal_iff.mp hbody
      have hsplit : splitOperator text = (operator, body) := by simpa using hsplit []
      have hnumber : number body = .ok n :=
        (number_eq_ok_iff hdigits).mpr ⟨hcap, Int.ofNat.inj hn⟩
      rw [literalTerm_eq hsplit, literal_of_isNumeral hdigits, hnumber]
      rfl
    · obtain ⟨body, hbody, hsplit⟩ := exists_body_of_spellsTerm hterm
      obtain ⟨hdigits, -, hn⟩ := spellsPayload_literal_iff.mp hbody
      obtain rfl : n = value body := Int.ofNat.inj hn
      rw [literalTerm_eq (hsplit ['\n']), literal_append_lineFeed hdigits,
        if_neg (Nat.pos_iff_ne_zero.mp hpos), if_pos hlt]
      rfl

/-- A zero with a line feed after it is taken for a numeral, and is none when it is converted. -/
theorem literalTerm_of_zero {t : List Char} (h : SpellsTerm value t ⟨operator, .literal 0⟩) :
    literalTerm (t ++ ['\n']) = .error (.notNumeral ['\n']) := by
  obtain ⟨body, hbody, hsplit⟩ := exists_body_of_spellsTerm h
  obtain ⟨hdigits, -, hzero⟩ := spellsPayload_literal_iff.mp hbody
  have hvalue : value body = 0 := (Int.ofNat.inj hzero).symm
  rw [literalTerm_eq (hsplit ['\n']), literal_append_lineFeed hdigits, if_pos hvalue]
  rfl

/-- What is not read as a literal is malformed, or a zero with a line feed after it. -/
theorem literalTerm_eq_error {failure : Failure} (h : literalTerm text = .error failure) :
    failure.IsMalformed ∨ failure = .notNumeral ['\n'] ∧
      ∃ t operator, SpellsTerm value t ⟨operator, .literal 0⟩ ∧ text = t ++ ['\n'] := by
  rcases hsplit : splitOperator text with ⟨operator, body⟩
  rw [literalTerm_eq hsplit] at h
  rcases bind_eq_error_iff.mp h with hliteral | ⟨n, -, hok⟩
  · rcases literal_cases body with hbody | ⟨digits, hdigits, rfl⟩ | herror
    · rw [literal_of_isNumeral hbody] at hliteral
      exact .inl (found_of_number hbody hliteral).isMalformed
    · rw [literal_append_lineFeed hdigits] at hliteral
      split at hliteral
      · next hzero =>
        cases hliteral
        have hbody : SpellsPayload value digits (.literal 0) :=
          spellsPayload_literal_iff.mpr ⟨hdigits, by rw [hzero]; decide, by rw [hzero]; rfl⟩
        obtain ⟨t, hterm, htext⟩ := exists_spellsTerm_of_splitOperator hbody hsplit
        exact .inr ⟨rfl, t, operator, hterm, htext⟩
      split at hliteral
      · cases hliteral
      · cases hliteral
        exact .inl ⟨_, rfl⟩
    · rw [herror] at hliteral
      cases hliteral
      exact .inl ⟨_, rfl⟩
  · cases hok

/-! ### Dice -/

variable {limit : Limit} {spec : DiceSpec}

/-- What describes a group of dice is a term, up to a last line feed. -/
theorem spellsLine_dice_iff :
    SpellsLine readCount text ⟨operator, .dice spec⟩ ↔
      ∃ body, splitOperator text = (operator, body) ∧ diceSpec readCount body = .ok spec := by
  constructor
  · rintro ⟨t, tail, hterm, hend, rfl⟩
    obtain ⟨body, hbody, hsplit⟩ := exists_body_of_spellsTerm hterm
    exact ⟨body ++ tail, hsplit tail,
      diceSpec_eq_ok_iff_append.mpr ⟨body, tail, hbody, hend, rfl⟩⟩
  · rintro ⟨_, hsplit, hspec⟩
    obtain ⟨body, tail, hbody, hend, rfl⟩ := diceSpec_eq_ok_iff_append.mp hspec
    obtain ⟨t, hterm, htext⟩ := exists_spellsTerm_of_splitOperator hbody hsplit
    exact ⟨t, tail, hterm, hend, htext⟩

/-- A term of dice is read as it is described, its counts cut down, if it is in range. -/
theorem diceTerm_of_spellsLine (h : SpellsLine value text ⟨operator, .dice spec⟩) :
    diceTerm limit text =
      (spec.capCounts.check limit >>= fun _ => .ok (operator, spec.capCounts)).mapError
        Failure.reported := by
  obtain ⟨body, hsplit, hspec⟩ := spellsLine_dice_iff.mp h
  have hcapped : diceSpec Numeral.capped body = .ok spec.capCounts := by
    rw [diceSpec_capped, hspec]
    rfl
  have hbody : (splitOperator text).2 = body := by rw [hsplit]
  rw [diceTerm_of_diceSpec (hbody ▸ hcapped), hsplit]

/-- Any other text is malformed. -/
theorem malformed_diceTerm_of_not_spellsLine
    (h : ∀ operator spec, ¬SpellsLine value text ⟨operator, .dice spec⟩) :
    ∃ fault, diceTerm limit text = .error (.malformed fault) := by
  rcases hsplit : splitOperator text with ⟨operator, body⟩
  cases hspec : diceSpec value body with
  | ok spec => exact absurd (spellsLine_dice_iff.mpr ⟨body, hsplit, hspec⟩) (h operator spec)
  | error failure =>
    obtain ⟨fault, rfl, -⟩ := found_of_diceSpec hspec
    refine ⟨fault, ?_⟩
    simp only [diceTerm, hsplit, diceSpec_capped, hspec]
    rfl

/-- Cut down, the counts of a term of dice do not exceed the cap, and neither do its sides. -/
theorem natAbs_le_cap_of_spellsLine (h : SpellsLine value text ⟨operator, .dice spec⟩) :
    ∀ n ∈ spec.capCounts.numbers [], n.natAbs ≤ cap := by
  obtain ⟨body, -, hspec⟩ := spellsLine_dice_iff.mp h
  have hcapped : diceSpec Numeral.capped body = .ok spec.capCounts := by
    rw [diceSpec_capped, hspec]
    rfl
  obtain ⟨_, _, hbody, -, -⟩ := diceSpec_eq_ok_iff_append.mp hcapped
  exact hbody.natAbs_le_cap

/-- A term of dice is in range, or it is turned down for a number out of range. This is reported,
unless there are too many dice and the limit cannot be printed. -/
theorem diceTerm_eq_ok_or_isRange (limit : Limit)
    (h : SpellsLine value text ⟨operator, .dice spec⟩) :
    diceTerm limit text = .ok (operator, spec.capCounts) ∨
      (∃ why, why.IsRange limit ∧ diceTerm limit text = .error (.rejected why)) ∨
      limit.isPrintable = false ∧ diceTerm limit text = .error .unprintable ∧
        spec.capCounts.check limit = .error (.rejected (.tooManyDice limit)) := by
  rw [diceTerm_of_spellsLine h]
  cases hcheck : spec.capCounts.check limit with
  | ok _ => exact .inl rfl
  | error failure =>
    obtain ⟨why, hwhy, rfl⟩ := DiceSpec.exists_isRange_of_check hcheck
    rcases DiceSpec.isPrintable_of_check (natAbs_le_cap_of_spellsLine h) hcheck with
      hprint | ⟨rfl, hlong⟩
    · exact .inr (.inl ⟨why, hwhy, congrArg Except.error (Failure.reported_rejected hprint)⟩)
    · exact .inr (.inr ⟨hlong, congrArg Except.error (Failure.reported_tooManyDice hlong), rfl⟩)

/-- Exactly the texts are malformed that describe no group of dice. -/
theorem malformed_diceTerm_iff :
    (∃ fault, diceTerm limit text = .error (.malformed fault)) ↔
      ∀ operator spec, ¬SpellsLine value text ⟨operator, .dice spec⟩ := by
  constructor
  · rintro ⟨fault, hfault⟩ operator spec hline
    rcases diceTerm_eq_ok_or_isRange limit hline with
      hok | ⟨why, hwhy, herror⟩ | ⟨-, hlong, -⟩
    · rw [hok] at hfault
      cases hfault
    · rw [herror] at hfault
      exact hwhy.ne_malformed fault (Failure.rejected.inj (Except.error.inj hfault))
    · rw [hlong] at hfault
      cases hfault
  · exact malformed_diceTerm_of_not_spellsLine

/-- What is read as a group of dice describes one. -/
theorem exists_spellsLine_of_diceTerm (h : diceTerm limit text = .ok (operator, spec)) :
    ∃ operator' full, SpellsLine value text ⟨operator', .dice full⟩ := by
  by_contra hnone
  push Not at hnone
  obtain ⟨fault, hfault⟩ := malformed_diceTerm_iff.mpr hnone
  rw [h] at hfault
  cases hfault

/-- Under a limit below the cap, whatever is in range is read as it is described. -/
theorem diceTerm_eq_ok_iff (hlimit : limit.BelowCap) :
    diceTerm limit text = .ok (operator, spec) ↔
      SpellsLine value text ⟨operator, .dice spec⟩ ∧ spec.check limit = .ok () := by
  constructor
  · intro h
    obtain ⟨operator', full, hline⟩ := exists_spellsLine_of_diceTerm h
    rw [diceTerm_of_spellsLine hline, DiceSpec.check_capCounts hlimit] at h
    cases hcheck : full.check limit with
    | error failure =>
      rw [hcheck] at h
      cases h
    | ok _ =>
      rw [hcheck, DiceSpec.capCounts_of_check hlimit hcheck] at h
      obtain ⟨rfl, rfl⟩ := Prod.mk.inj (Except.ok.inj h)
      exact ⟨hline, hcheck⟩
  · rintro ⟨hline, hcheck⟩
    rw [diceTerm_of_spellsLine hline, DiceSpec.capCounts_of_check hlimit hcheck, hcheck]
    rfl

/-! ### Both readers -/

/-- **Terms on their own.** The readers of single terms, asked about any text.

The reader of literals accepts the terms that are literals, and those below the last of nine digits
with a line feed after them, except zero; everything else is malformed but for a zero with a line
feed after it, which is no numeral when it is converted. The reader of dice finds a text malformed
exactly if it is no term of dice, up to one line feed at the end. It reads the others with their
counts cut down to the cap, which no limit that settings allow can tell, and turns them down only
for a number out of range, which it reports unless that is the limit and the limit has too many
digits to be told. A text that does not end in a line feed is a term up to one exactly if it
is a term. -/
theorem lone_terms_read (limit : Limit) (text : List Char) :
    (∀ operator n, literalTerm text = .ok (operator, n) ↔
        SpellsTerm value text ⟨operator, .literal n⟩ ∨
          ∃ t, SpellsTerm value t ⟨operator, .literal n⟩ ∧ text = t ++ ['\n'] ∧
            0 < n ∧ n < 10 ^ (Numeral.maxDigits - 1)) ∧
      (∀ failure, literalTerm text = .error failure →
        failure.IsMalformed ∨ failure = .notNumeral ['\n']) ∧
      (literalTerm text = .error (.notNumeral ['\n']) ↔
        ∃ t operator, SpellsTerm value t ⟨operator, .literal 0⟩ ∧ text = t ++ ['\n']) ∧
      ((∃ fault, diceTerm limit text = .error (.malformed fault)) ↔
        ∀ operator spec, ¬SpellsLine value text ⟨operator, .dice spec⟩) ∧
      (∀ operator spec, SpellsLine value text ⟨operator, .dice spec⟩ →
        diceTerm limit text = .ok (operator, spec.capCounts) ∨
          (∃ why, why.IsRange limit ∧ diceTerm limit text = .error (.rejected why)) ∨
          limit.isPrintable = false ∧ diceTerm limit text = .error .unprintable ∧
            spec.capCounts.check limit = .error (.rejected (.tooManyDice limit))) ∧
      (limit.BelowCap → ∀ operator spec, diceTerm limit text = .ok (operator, spec) ↔
        SpellsLine value text ⟨operator, .dice spec⟩ ∧ spec.check limit = .ok ()) ∧
      (text.getLast? ≠ some '\n' →
        ∀ term, SpellsLine value text term ↔ SpellsTerm value text term) := by
  refine ⟨fun operator n => literalTerm_eq_ok_iff, ?_, ?_, malformed_diceTerm_iff,
    fun operator spec => diceTerm_eq_ok_or_isRange limit,
    fun hlimit operator spec => diceTerm_eq_ok_iff hlimit,
    fun hlast term => spellsLine_iff_of_getLast?_ne hlast⟩
  · intro failure hfailure
    exact (literalTerm_eq_error hfailure).imp_right And.left
  · constructor
    · intro h
      rcases literalTerm_eq_error h with ⟨fault, hfault⟩ | ⟨-, hzero⟩
      · cases hfault
      · exact hzero
    · rintro ⟨t, operator, hzero, rfl⟩
      exact literalTerm_of_zero hzero

/-- A literal with its sign and a leading zero, and dice with a line feed after them. -/
theorem lone_terms_read_signed :
    SpellsTerm value "-012".toList ⟨.sub, .literal 12⟩ ∧
      literalTerm "-012".toList = .ok (.sub, 12) ∧
      (Limit.whole 1000).BelowCap ∧
      SpellsLine value "*3D06sM2\n".toList ⟨.mul, .dice ⟨3, 6, some ⟨.dropHighest, 2⟩⟩⟩ ∧
      diceTerm (.whole 1000) "*3D06sM2\n".toList =
        .ok (.mul, ⟨3, 6, some ⟨.dropHighest, 2⟩⟩) := by
  have hlimit : (Limit.whole 1000).BelowCap := by decide
  obtain ⟨hliteral, -⟩ := lone_terms_read (.whole 1000) "-012".toList
  obtain ⟨-, -, -, -, -, hdice, -⟩ := lone_terms_read (.whole 1000) "*3D06sM2\n".toList
  have hspells : SpellsTerm value "-012".toList ⟨.sub, .literal 12⟩ :=
    .signed rfl (spellsPayload_literal_iff.mpr ⟨by decide, by decide, by decide⟩)
  have hread : diceTerm (.whole 1000) "*3D06sM2\n".toList =
      .ok (.mul, ⟨3, 6, some ⟨.dropHighest, 2⟩⟩) := by rfl
  exact ⟨hspells, (hliteral .sub 12).mpr (.inl hspells), hlimit,
    ((hdice hlimit .mul _).mp hread).1, hread⟩

/-- With a line feed after it a twelve is accepted though it is no term, and a zero is neither
accepted nor found malformed. -/
theorem line_feed_after_literal :
    (∀ term, ¬SpellsTerm value "12\n".toList term) ∧
      literalTerm "12\n".toList = .ok (.add, 12) ∧
      (∀ term, ¬SpellsTerm value "0\n".toList term) ∧
      literalTerm "0\n".toList = .error (.notNumeral ['\n']) ∧
      ¬(Failure.notNumeral ['\n']).IsMalformed := by
  refine ⟨fun term hterm => hterm.getLast?_ne rfl, by rfl, fun term hterm => hterm.getLast?_ne rfl,
    by rfl, ?_⟩
  rintro ⟨fault, hfault⟩
  cases hfault

end Command

end ChatDice
