import ChatDice.Proofs.LogAndReply

/-!
# Lines in the log

The log is read line by line, and what is noted about a command that fails names pieces of what a
person has typed. None of these pieces can break the line: they are quoted, with every control
character escaped (`Text.controlFree_quoted`), or they are digits. A number that is too long is the
one piece that is shown without quotes, and reading calls nothing but a numeral by that name
(`FormatFault.IsFound`).

What a command is turned down for is a fault that reading finds, a number out of range or a division
by zero (`isCause_or_unprintable_of_evaluate`), and no detail of these has a control character in
it (`Rejection.IsCause.controlFree_detail`).

Main statement (`DiceTable.failed_command_stays_on_its_line`): whatever is typed, the record of a
command that fails is one line of visible text.
-/

namespace ChatDice

/-! ### Texts without control characters -/

namespace Text

/-- A text in which no character is a control of ASCII. -/
def ControlFree (s : List Char) : Prop :=
  ∀ c ∈ s, 0x20 ≤ c.toNat ∧ c.toNat ≠ 0x7F

instance (s : List Char) : Decidable (ControlFree s) :=
  List.decidableBAll (fun c : Char => 0x20 ≤ c.toNat ∧ c.toNat ≠ 0x7F) s

/-- The empty text has no control characters. -/
theorem controlFree_nil : ControlFree [] :=
  List.forall_mem_nil _

/-- A text has none if the first character is none and the rest has none. -/
theorem controlFree_cons {c : Char} {s : List Char} :
    ControlFree (c :: s) ↔ (0x20 ≤ c.toNat ∧ c.toNat ≠ 0x7F) ∧ ControlFree s :=
  List.forall_mem_cons

/-- Two texts together have none if both have none. -/
theorem controlFree_append {s t : List Char} :
    ControlFree (s ++ t) ↔ ControlFree s ∧ ControlFree t :=
  List.forall_mem_append

/-- The same holds of strings. -/
theorem controlFree_toList_append {s t : String} :
    ControlFree (s ++ t).toList ↔ ControlFree s.toList ∧ ControlFree t.toList := by
  rw [String.toList_append]
  exact controlFree_append

/-- A fixed text is looked at character by character. -/
theorem controlFree_toList {s : String} {chars : List Char} (hs : s = String.ofList chars)
    (h : ControlFree chars) : ControlFree s.toList := by
  rw [hs, String.toList_ofList]
  exact h

/-- Digits are no control characters. -/
theorem controlFree_of_digits {s : List Char} (h : Numeral.Digits s) : ControlFree s := by
  intro c hc
  have := Numeral.toNat_of_isDigit (h c hc)
  omega

/-- An integer is printed without control characters. -/
theorem controlFree_toString (n : Int) : ControlFree (toString n).toList := by
  intro c hc
  rcases Numeral.isDigit_or_eq_minus_of_mem_toString hc with hdigit | rfl
  · have := Numeral.toNat_of_isDigit hdigit
    omega
  · decide

/-! ### Quoted texts -/

/-- So are hexadecimal digits. -/
theorem controlFree_hexDigits (width n : Nat) : ControlFree (hexDigits width n) := by
  have hdigit : ∀ d < 16, 0x20 ≤ (hexDigit d).toNat ∧ (hexDigit d).toNat ≠ 0x7F := by decide
  induction width generalizing n with
  | zero => exact controlFree_nil
  | succ width ih =>
    have hlast := hdigit (n % 16) (Nat.mod_lt n (by decide))
    exact controlFree_append.mpr ⟨ih (n / 16), controlFree_cons.mpr ⟨hlast, controlFree_nil⟩⟩

/-- So is an escaped code point. -/
theorem controlFree_codePointEscape (n : Nat) : ControlFree (codePointEscape n) := by
  have hmarked (letter : Char) (width : Nat) (h : ControlFree ['\\', letter]) :
      ControlFree ('\\' :: letter :: hexDigits width n) :=
    controlFree_append.mpr ⟨h, controlFree_hexDigits width n⟩
  unfold codePointEscape
  split
  · exact hmarked 'x' 2 (by decide)
  split
  · exact hmarked 'u' 4 (by decide)
  · exact hmarked 'U' 8 (by decide)

/-- However a character is quoted, no control character is left: one that is shown as it is can be
printed. -/
theorem controlFree_quoteChar {mark : Char} (hmark : ControlFree [mark]) (c : Char) :
    ControlFree (quoteChar mark c) := by
  unfold quoteChar
  split
  · next hc =>
    rcases hc with rfl | rfl
    · exact controlFree_cons.mpr ⟨by decide, hmark⟩
    · decide
  split
  · decide
  split
  · decide
  split
  · decide
  split
  · next hprintable => exact controlFree_cons.mpr ⟨isPrintable_ascii hprintable, controlFree_nil⟩
  · exact controlFree_codePointEscape c.toNat

/-- Whatever a text holds, quoted it holds no control character. -/
theorem controlFree_quoted (s : List Char) : ControlFree (quoted s) := by
  have hmark : ControlFree [quoteMark s] := by
    unfold quoteMark
    split <;> decide
  have hchars : ControlFree (s.flatMap (quoteChar (quoteMark s))) := by
    intro c hc
    obtain ⟨d, -, hd⟩ := List.mem_flatMap.mp hc
    exact controlFree_quoteChar hmark d c hd
  exact controlFree_append.mpr ⟨hmark, controlFree_append.mpr ⟨hchars, hmark⟩⟩

/-- Whatever a text holds, it is quoted without control characters. -/
theorem controlFree_quote (s : List Char) : ControlFree (quote s).toList := by
  rw [quote, String.toList_ofList]
  exact controlFree_quoted s

/-- A quoted text with words before it. -/
theorem controlFree_append_quote {words : String} (h : ControlFree words.toList) (s : List Char) :
    ControlFree (words ++ quote s).toList :=
  controlFree_toList_append.mpr ⟨h, controlFree_quote s⟩

end Text

open Log (notable)
open Text (ControlFree controlFree_toList controlFree_toList_append controlFree_append_quote
  controlFree_toString)

/-! ### What the log is told -/

/-- A fault that reading finds is told without control characters. -/
theorem FormatFault.controlFree_detail {fault : FormatFault} (h : fault.IsFound) :
    ControlFree fault.detail.toList := by
  cases fault with
  | missingExpression command =>
    have hwords : ControlFree "prefixo ou expressão ausente: ".toList :=
      controlFree_toList rfl (by decide)
    exact controlFree_append_quote hwords command
  | noTerms command =>
    have hwords : ControlFree "expressão vazia: ".toList := controlFree_toList rfl (by decide)
    exact controlFree_append_quote hwords command
  | leadingOperator slice =>
    have hwords : ControlFree "operador antes do primeiro termo: ".toList :=
      controlFree_toList rfl (by decide)
    exact controlFree_append_quote hwords slice
  | malformedDice body =>
    have hwords : ControlFree "definição de dados inválida: ".toList :=
      controlFree_toList rfl (by decide)
    exact controlFree_append_quote hwords body
  | unknownModifier letters =>
    have hwords : ControlFree "modificador inválido: ".toList := controlFree_toList rfl (by decide)
    exact controlFree_append_quote hwords letters
  | lateModifier slice =>
    have hwords : ControlFree "modificador fora do primeiro termo: ".toList :=
      controlFree_toList rfl (by decide)
    exact controlFree_append_quote hwords slice
  | malformedLiteral body =>
    have hwords : ControlFree "valor numérico inválido: ".toList :=
      controlFree_toList rfl (by decide)
    exact controlFree_append_quote hwords body
  | tooManyDigits digits =>
    -- The digits are shown as they are; that they are digits is what reading has seen to.
    have hnumeral : Numeral.IsNumeral digits := h
    have hshown : ControlFree (String.ofList (digits.take shownDigits)).toList := by
      rw [String.toList_ofList]
      exact Text.controlFree_of_digits fun c hc => hnumeral.digits c (List.mem_of_mem_take hc)
    have hwords : ControlFree "número grande demais: ".toList := controlFree_toList rfl (by decide)
    have hdots : ControlFree "...".toList := controlFree_toList rfl (by decide)
    have htext : (tooManyDigits digits).detail =
        "número grande demais: " ++ String.ofList (digits.take shownDigits) ++ "..." := rfl
    rw [htext, controlFree_toList_append, controlFree_toList_append]
    exact ⟨⟨hwords, hshown⟩, hdots⟩
  | unknownOperator sign => exact h.elim

namespace Rejection

/-- What a command can be turned down for. -/
inductive IsCause (limit : Limit) : Rejection → Prop
  | malformed {fault : FormatFault} (h : fault.IsFound) : IsCause limit (.malformed fault)
  | range {why : Rejection} (h : why.IsRange limit) : IsCause limit why
  | divisionByZero : IsCause limit .divisionByZero

/-- A number out of range is told without control characters. -/
theorem IsRange.controlFree_detail {n : Int} {why : Rejection} (h : why.IsRange (.whole n)) :
    ControlFree why.detail.toList := by
  cases h with
  | noDice => exact controlFree_toList rfl (by decide)
  | badSides sides => exact controlFree_toList rfl (by decide)
  | tooManyDice =>
    have hwords : ControlFree "O número de dados não pode ser maior que ".toList :=
      controlFree_toList rfl (by decide)
    have htext : (Rejection.tooManyDice (.whole n)).detail =
        "O número de dados não pode ser maior que " ++ toString n := rfl
    rw [htext, controlFree_toList_append]
    exact ⟨hwords, controlFree_toString n⟩
  | modifierTooLarge selected dice =>
    have hfirst : ControlFree "O modificador não pode manter ou soltar mais dados (".toList :=
      controlFree_toList rfl (by decide)
    have hsecond : ControlFree ") do que os rolados (".toList := controlFree_toList rfl (by decide)
    have hlast : ControlFree ").".toList := controlFree_toList rfl (by decide)
    have htext : (Rejection.modifierTooLarge selected dice).detail =
        "O modificador não pode manter ou soltar mais dados (" ++ toString selected ++
          ") do que os rolados (" ++ toString dice ++ ")." := rfl
    simp only [htext, controlFree_toList_append]
    exact ⟨⟨⟨⟨hfirst, controlFree_toString selected⟩, hsecond⟩, controlFree_toString dice⟩, hlast⟩

/-- Whatever a command is turned down for is told without control characters. -/
theorem IsCause.controlFree_detail {n : Int} {why : Rejection} (h : why.IsCause (.whole n)) :
    ControlFree why.detail.toList := by
  cases h with
  | malformed hfault => exact FormatFault.controlFree_detail hfault
  | range hrange => exact hrange.controlFree_detail
  | divisionByZero => exact controlFree_toList rfl (by decide)

end Rejection

/-! ### How a command can fail -/

section evaluation

variable {σ : Type} {g : Generator σ} {limit : Limit} {command : String} {s : σ}

/-- Terms that are combined by operators fail for a division by zero, or because a number is too
long to print. -/
theorem failure_of_evaluateTerms {terms : List Term}
    (hmem : ∀ term ∈ terms, term.operator ∈ [Operator.add, .sub, .mul, .div]) {failure : Failure}
    (h : (evaluateTerms g terms s).outcome = .error failure) :
    failure = .rejected .divisionByZero ∨ failure = .unprintable := by
  cases htally : (tally g terms .empty s).outcome with
  | error reason =>
    rw [outcome_evaluateTerms_of_error htally] at h
    cases h
    exact (unprintable_or_divisionByZero_of_tally hmem htally).symm
  | ok account =>
    unfold evaluateTerms at h
    simp only [htally] at h
    cases hprint : account.result.printTotal with
    | error reason =>
      simp only [hprint] at h
      cases h
      exact .inr (compose_eq_error_iff.mp hprint).2
    | ok total =>
      simp only [hprint] at h
      cases h

/-- A command fails for one of the causes, or because a number is too long to print. -/
theorem isCause_or_unprintable_of_evaluate {failure : Failure}
    (h : (evaluate g limit command s).outcome = .error failure) :
    (∃ why, failure = .rejected why ∧ why.IsCause limit) ∨ failure = .unprintable := by
  cases hparse : Command.parse limit command.toList with
  | error reason =>
    rw [outcome_evaluate_of_error hparse] at h
    cases h
    obtain ⟨why, rfl, -, hwhy⟩ | ⟨rfl, -⟩ := Command.rejected_or_unprintable_of_parse hparse
    · rcases Command.found_or_isRange_of_parseWith hwhy with ⟨fault, heq, hfault⟩ | ⟨_, hrange, heq⟩
      · cases heq
        exact .inl ⟨_, rfl, .malformed hfault⟩
      · cases heq
        exact .inl ⟨why, rfl, .range hrange⟩
    · exact .inr rfl
  | ok terms =>
    rw [outcome_evaluate_of_parse hparse] at h
    have hmem := (Command.wellFormed_of_parse hparse).operator_mem
    rcases failure_of_evaluateTerms hmem h with rfl | rfl
    · exact .inl ⟨_, rfl, .divisionByZero⟩
    · exact .inr rfl

end evaluation

/-! ### Records of failures -/

namespace DiceTable

variable {σ : Type}

/-- The warning of a command that is turned down has no control characters. -/
theorem controlFree_rejectionNote (command : String) {n : Int} {why : Rejection}
    (h : why.IsCause (.whole n)) :
    ControlFree ("無效的指令: " ++ Text.quote command.toList ++ " (" ++ why.detail ++ ")").toList := by
  have hwords : ControlFree "無效的指令: ".toList := controlFree_toList rfl (by decide)
  have hopen : ControlFree " (".toList := controlFree_toList rfl (by decide)
  have hclose : ControlFree ")".toList := controlFree_toList rfl (by decide)
  have hquoted := controlFree_append_quote hwords command.toList
  simp only [controlFree_toList_append] at hquoted ⊢
  exact ⟨⟨⟨hquoted, hopen⟩, h.controlFree_detail⟩, hclose⟩

/-- The error that tells of a number too long to print has none either. -/
theorem controlFree_unprintableNote (command : String) :
    ControlFree ("處理指令時出現錯誤: " ++ Text.quote command.toList ++ ": " ++
      Failure.unprintable.text).toList := by
  have hwords : ControlFree "處理指令時出現錯誤: ".toList := controlFree_toList rfl (by decide)
  have hcolon : ControlFree ": ".toList := controlFree_toList rfl (by decide)
  have hreason : ControlFree Failure.unprintable.text.toList :=
    controlFree_toList_append.mpr
      ⟨controlFree_toList rfl (by decide), controlFree_toList rfl (by decide)⟩
  have hquoted := controlFree_append_quote hwords command.toList
  rw [controlFree_toList_append, controlFree_toList_append]
  exact ⟨⟨hquoted, hcolon⟩, hreason⟩

/-- A command that fails is noted once: its evaluation warns of it, or its answer is an error. -/
theorem exists_note_of_failure (g : Generator σ) (limit : Int) (name command : String) (s : σ)
    {failure : Failure} (h : (evaluate g (.whole limit) command s).outcome = .error failure) :
    (∃ why text, failure = .rejected why ∧
      notable (evaluate g (.whole limit) command s).log = [.warning text] ∧
      notable (answer g (.whole limit) name command s).log = [.warning text] ∧
      ControlFree text.toList) ∨
    ∃ text, failure = .unprintable ∧
      notable (answer g (.whole limit) name command s).log = [.unforeseenError text] ∧
      ControlFree text.toList := by
  have hevaluate := notable_evaluate (g := g) (.whole limit) command s
  have hanswer := notable_answer g (.whole limit) name command s
  rw [h] at hevaluate hanswer
  rcases isCause_or_unprintable_of_evaluate h with ⟨why, rfl, hwhy⟩ | rfl
  · exact .inl ⟨why, _, rfl, hevaluate, hanswer, controlFree_rejectionNote command hwhy⟩
  · exact .inr ⟨_, rfl, hanswer, controlFree_unprintableNote command⟩

/-- **A command that fails stays on its line.** Where the limit is an integer, a command that fails
is turned down, and evaluating it leaves one warning, or a number is too long to print, and the
answer leaves one error. Whatever control characters and line breaks the command has, the record
has none; so nobody can type what reads like a second record. -/
theorem failed_command_stays_on_its_line (g : Generator σ) (limit : Int) (name command : String)
    (s : σ) :
    (∀ failure, (evaluate g (.whole limit) command s).outcome = .error failure →
      (∃ why text, failure = .rejected why ∧
        notable (evaluate g (.whole limit) command s).log = [.warning text] ∧
        ControlFree text.toList) ∨
      ∃ text, failure = .unprintable ∧
        notable (answer g (.whole limit) name command s).log = [.unforeseenError text] ∧
        ControlFree text.toList) ∧
    ∀ record ∈ (answer g (.whole limit) name command s).log,
      Log.Level.warning.rank ≤ record.level.rank → ControlFree record.text.toList := by
  constructor
  · intro failure heval
    exact (exists_note_of_failure g limit name command s heval).imp_left
      fun ⟨why, text, hwhy, hevaluate, _, htext⟩ => ⟨why, text, hwhy, hevaluate, htext⟩
  · intro record hmem hrank
    have hnotable : record ∈ notable (answer g (.whole limit) name command s).log := by
      refine List.mem_filter.mpr ⟨hmem, decide_eq_true ?_⟩
      exact Int.le_trans (by decide) hrank
    cases heval : (evaluate g (.whole limit) command s).outcome with
    | ok result =>
      have hanswer := notable_answer g (.whole limit) name command s
      rw [heval] at hanswer
      rw [hanswer] at hnotable
      obtain rfl := List.mem_singleton.mp hnotable
      have hbelow : ¬Log.Level.warning.rank ≤ Log.Level.info.rank := by decide
      exact absurd hrank hbelow
    | error failure =>
      rcases exists_note_of_failure g limit name command s heval with
        ⟨_, text, -, -, hanswer, htext⟩ | ⟨text, -, hanswer, htext⟩
      all_goals
        rw [hanswer] at hnotable
        obtain rfl := List.mem_singleton.mp hnotable
        exact htext

/-- A command with a line break and what might pass for a record after it. -/
theorem failed_command_stays_on_its_line_forged :
    '\n' ∈ "/r 2d6x\nRPGDiceBot - INFO - Ana".toList ∧
      (evaluate .highest (.whole 1000) "/r 2d6x\nRPGDiceBot - INFO - Ana" ()).outcome =
        .error (.malformed (.malformedDice "2d6x\nRPGDiceBot".toList)) ∧
      ∃ text,
        notable (evaluate .highest (.whole 1000) "/r 2d6x\nRPGDiceBot - INFO - Ana" ()).log =
          [.warning text] ∧
        ControlFree text.toList := by
  have heval : (evaluate .highest (.whole 1000) "/r 2d6x\nRPGDiceBot - INFO - Ana" ()).outcome =
      .error (.malformed (.malformedDice "2d6x\nRPGDiceBot".toList)) := by decide +kernel
  obtain ⟨hfailure, -⟩ := failed_command_stays_on_its_line .highest 1000 "Ana"
    "/r 2d6x\nRPGDiceBot - INFO - Ana" ()
  refine ⟨by decide, heval, ?_⟩
  rcases hfailure _ heval with ⟨why, text, -, hnotable, htext⟩ | ⟨text, hcon, -⟩
  · exact ⟨text, hnotable, htext⟩
  · cases hcon

end DiceTable

end ChatDice
