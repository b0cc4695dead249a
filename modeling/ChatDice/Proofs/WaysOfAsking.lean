import ChatDice.Proofs.TableSteps

/-!
# Ways of asking for a roll

A person asks for a roll by one of the two commands of the table, which take an expression, or by a
message of a command word, some blanks and the expression. In each case the reader is given a
command word, blanks and the expression, and finds the expression without the blanks at its ends, if
anything is left of it (`Command.expression?_of_word`).

Texts in which the same expression is found are read alike: they have the same terms, or both are
malformed (`Command.parse_of_expression?_eq`). The faults may differ, since they quote what was
typed, but a reply to a malformed text does not show its fault. So the replies agree, and the dice
are left in the same state (`DiceTable.evaluate_of_expression?_eq`).

Main statement (`DiceTable.every_way_of_asking_agrees`): however a person asks for an expression to
be rolled, the same text is sent and the same draws are made.
-/

namespace ChatDice

open Text (Blanks isBlank trim)

/-! ### The expression -/

namespace Command

/-- After a command word alone there is no argument. -/
theorem argument?_of_word {candidate word after : List Char}
    (hword : word.map Char.toLower ∈ words) (h : stripWord? candidate word = some after) :
    argument? after = none := by
  obtain ⟨front, -, rfl⟩ := stripWord?_eq_some_iff.mp h
  rw [Option.eq_none_iff_forall_ne_some]
  intro expr hexpr
  obtain ⟨w, hne, hw, rfl, -, -⟩ := argument?_eq_some_iff.mp hexpr
  obtain ⟨c, w, rfl⟩ := List.exists_cons_of_ne_nil hne
  have hc := isBlank_eq_false_of_mem_word hword c (by simp)
  rw [(Text.blanks_cons.mp hw).1] at hc
  cases hc

/-- What is found after a command word and blanks: the rest without the blanks at its ends, if
anything is left of it. -/
theorem expression?_of_word {word w e : List Char} (hword : word.map Char.toLower ∈ words)
    (hne : w ≠ []) (hw : Blanks w) :
    expression? ('/' :: (word ++ (w ++ e))) = if trim e = [] then none else some (trim e) := by
  obtain ⟨w₁, w₃, hw₁, hw₃, he⟩ := Text.exists_eq_append_trim e
  split
  · next hempty =>
    have hblanks : Blanks (w ++ e) := by
      rw [he, hempty, List.nil_append]
      exact Text.blanks_append.mpr ⟨hw, Text.blanks_append.mpr ⟨hw₁, hw₃⟩⟩
    have htight : Text.Tight ('/' :: word) := by
      apply Text.Tight.of_forall
      exact List.forall_mem_cons.mpr ⟨by decide, isBlank_eq_false_of_mem_word hword⟩
    have htrim : trim ('/' :: (word ++ (w ++ e))) = '/' :: word := by
      simpa using Text.trim_append_append Text.blanks_nil htight hblanks
    simp only [expression?, htrim]
    apply List.findSome?_eq_none_iff.mpr
    intro candidate _
    apply Option.bind_eq_none_iff.mpr
    intro after hafter
    exact argument?_of_word hword hafter
  · next hfull =>
    apply expression?_eq_some_iff.mpr
    have hblanks : Blanks (w ++ w₁) := Text.blanks_append.mpr ⟨hw, hw₁⟩
    have hinvokes := Invokes.intro Text.blanks_nil hword (by simp [hne]) hblanks hfull
      (Text.tight_trim e) hw₃
    rw [he, Text.trim_append_append hw₁ (Text.tight_trim e) hw₃]
    simpa using hinvokes

variable {command command' : List Char}

/-- Texts with the same expression have the same form, or both are malformed. -/
theorem readTermsWith_of_expression?_eq {readCount : List Char → Nat}
    (h : expression? command = expression? command') :
    readTermsWith readCount command = readTermsWith readCount command' ∨
      ∃ fault fault', readTermsWith readCount command = .error (.malformed fault) ∧
        readTermsWith readCount command' = .error (.malformed fault') := by
  cases hexpr : expression? command' with
  | none =>
    right
    exact ⟨.missingExpression command, .missingExpression command', by simp [readTermsWith, h, hexpr],
      by simp [readTermsWith, hexpr]⟩
  | some expr =>
    rw [hexpr] at h
    cases hslices : slices expr with
    | nil =>
      right
      exact ⟨.noTerms command, .noTerms command', by simp [readTermsWith, h, hslices],
        by simp [readTermsWith, hexpr, hslices]⟩
    | cons slice rest =>
      left
      rw [readTermsWith_of_slices h hslices, readTermsWith_of_slices hexpr hslices]

/-- Texts with the same expression are read alike, or both are malformed. -/
theorem parse_of_expression?_eq (h : expression? command = expression? command') (limit : Limit) :
    parse limit command = parse limit command' ∨
      ∃ fault fault', parse limit command = .error (.malformed fault) ∧
        parse limit command' = .error (.malformed fault') := by
  rcases readTermsWith_of_expression?_eq h with hsame | ⟨fault, fault', hfault, hfault'⟩
  · left
    unfold parse parseWith
    rw [hsame]
  · right
    exact ⟨fault, fault', parse_of_malformed hfault, parse_of_malformed hfault'⟩

end Command

/-! ### Replies and draws -/

namespace DiceTable

variable {σ : Type} {g : Generator σ} {command command' : String}

/-- Texts with the same expression have the same reply, and leave the dice in the same state. -/
theorem evaluate_of_expression?_eq
    (h : Command.expression? command.toList = Command.expression? command'.toList)
    (g : Generator σ) (limit : Limit) (name : String) (s : σ) :
    replyTo name (evaluate g limit command s).outcome =
        replyTo name (evaluate g limit command' s).outcome ∧
      (evaluate g limit command s).dice = (evaluate g limit command' s).dice := by
  rcases Command.parse_of_expression?_eq h limit with hsame | ⟨fault, fault', hfault, hfault'⟩
  · cases hparse : Command.parse limit command'.toList with
    | error failure =>
      rw [hparse] at hsame
      rw [outcome_evaluate_of_error hparse, outcome_evaluate_of_error hsame,
        dice_evaluate_of_error hparse, dice_evaluate_of_error hsame]
      exact ⟨rfl, rfl⟩
    | ok terms =>
      rw [hparse] at hsame
      rw [outcome_evaluate_of_parse hparse, outcome_evaluate_of_parse hsame,
        dice_evaluate_of_parse hparse, dice_evaluate_of_parse hsame]
      exact ⟨rfl, rfl⟩
  · rw [outcome_evaluate_of_error hfault, outcome_evaluate_of_error hfault',
      dice_evaluate_of_error hfault, dice_evaluate_of_error hfault']
    exact ⟨rfl, rfl⟩

/-- Texts with the same expression make the same draws. -/
theorem draws_of_expression?_eq
    (h : Command.expression? command.toList = Command.expression? command'.toList)
    (g : Generator σ) (limit : Limit) (s : σ) :
    draws g limit command s = draws g limit command' s := by
  unfold draws
  rw [(evaluate_of_expression?_eq h g.recorded limit "" (s, [])).2]

/-! ### Asking -/

/-- The ways in which a person can ask for an expression to be rolled: by one of the two commands,
or by a message of a command word in any case, some blanks, and the expression. -/
inductive Asks (name expression : String) : Event → Prop
  | command (which : RollCommand) (delivery : Delivery) :
      Asks name expression (.command which name expression delivery)
  | message {word w : String} (hword : word.toList ∈ Command.Grammar.word) (hne : w ≠ "")
      (hw : Blanks w.toList) (delivery : Delivery) :
      Asks name expression (.message name false (word ++ w ++ expression) delivery)

/-- The expression of a command, as it is read. -/
theorem expression?_command (which : RollCommand) (expression : String) :
    Command.expression? ("/" ++ which.word ++ " " ++ expression).toList =
      if trim expression.toList = [] then none else some (trim expression.toList) := by
  have hword : which.word.toList.map Char.toLower ∈ Command.words := by
    cases which <;> decide
  have hread := Command.expression?_of_word (e := expression.toList) hword
    (List.cons_ne_nil ' ' []) (Text.blanks_cons.mpr ⟨by decide, Text.blanks_nil⟩)
  simpa using hread

/-- The expression of a message, as it is read. -/
theorem expression?_message {word w : List Char} (hword : word ∈ Command.Grammar.word)
    (hne : w ≠ []) (hw : Blanks w) (expression : List Char) :
    Command.expression? (word ++ w ++ expression) =
      if trim expression = [] then none else some (trim expression) := by
  obtain ⟨letters, hletters, rfl⟩ := Command.Grammar.mem_word_iff.mp hword
  simpa using Command.expression?_of_word (e := expression) hletters hne hw

/-- A person who asks for an expression puts a command in which the expression is found, and is
answered with the reply to it. -/
theorem Asks.exists_command {name expression : String} {event : Event}
    (h : Asks name expression event) (g : Generator σ) (state : State σ) :
    ∃ command, event.command? = some command ∧
      Command.expression? command.toList =
        (if trim expression.toList = [] then none else some (trim expression.toList)) ∧
      (take g state event).1.sent =
        [replyTo name (evaluate g state.limit command state.dice).outcome] := by
  cases h with
  | command which delivery =>
    refine ⟨"/" ++ which.word ++ " " ++ expression, rfl, expression?_command which expression, ?_⟩
    rw [take_command, respond_eq]
  | @message word w hword hne hw delivery =>
    have hblanks : w.toList ≠ [] := by simpa using hne
    have hconcerns : concerns false (word ++ w ++ expression) = true := by
      rw [concerns_iff, String.toList_append, String.toList_append, List.append_assoc]
      exact ⟨rfl, Command.mem_calls_of_word hword hblanks hw expression.toList⟩
    refine ⟨word ++ w ++ expression, if_pos hconcerns, ?_, ?_⟩
    · rw [String.toList_append, String.toList_append]
      exact expression?_message hword hblanks hw expression.toList
    · rw [take_of_concerns hconcerns, respond_eq]

/-- **All ways of asking agree.** Whatever the expression is, empty, blank or malformed as it may
be, it decides with the name, the limit and the dice what a person gets who asks for it: the one
text that is sent, the draws that are made and the state that is left. The command, the case of its
word, the blanks after the word and the fate of the answer have no part in it. -/
theorem every_way_of_asking_agrees (g : Generator σ) (state : State σ) (name expression : String) :
    ∃ text drawn next, ∀ event, Asks name expression event →
      (observe g state event).1.response.sent = [text] ∧
      (observe g state event).1.draws = drawn ∧
      (observe g state event).2 = next := by
  -- Any way of asking will do for comparison; this is the shortest.
  have hshort : Asks name expression (.command .r name expression none) := .command .r none
  obtain ⟨reference, -, hreference, -⟩ := hshort.exists_command g state
  refine ⟨replyTo name (evaluate g state.limit reference state.dice).outcome,
    draws g state.limit reference state.dice,
    { state with dice := (evaluate g state.limit reference state.dice).dice }, ?_⟩
  intro event hasks
  obtain ⟨command, hputs, hcommand, hsent⟩ := hasks.exists_command g state
  have hsame := hcommand.trans hreference.symm
  obtain ⟨hreply, hdice⟩ := evaluate_of_expression?_eq hsame g state.limit name state.dice
  rw [observe_eq]
  refine ⟨?_, ?_, ?_⟩
  · rw [hsent, hreply]
  · rw [Event.draws_of_command? hputs, draws_of_expression?_eq hsame]
  · rw [next_of_command? hputs, hdice]

/-- An expression that begins with a line break and what looks like a command, asked for in two
ways. It is malformed, and the two texts in which it stands are not the same. -/
theorem every_way_of_asking_agrees_malformed :
    ∃ text, (observe .highest ⟨.whole 10, ()⟩
        (.message "Ana" false "/RoLaR\u00a0\n\n/r 2d6 " none)).1.response.sent = [text] ∧
      (observe .highest ⟨.whole 10, ()⟩
        (.command .rolar "Ana" "\n/r 2d6 " (some "500"))).1.response.sent = [text] := by
  obtain ⟨text, drawn, next, h⟩ :=
    every_way_of_asking_agrees .highest ⟨.whole 10, ()⟩ "Ana" "\n/r 2d6 "
  refine ⟨text, (h _ ?_).1, (h _ (.command .rolar (some "500"))).1⟩
  have hword : "/RoLaR".toList ∈ Command.Grammar.word :=
    Command.Grammar.mem_word_iff.mpr ⟨"RoLaR".toList, by decide, rfl⟩
  have hblanks : Blanks "\u00a0\n".toList := by decide
  exact .message hword (by decide) hblanks none

end DiceTable

end ChatDice
