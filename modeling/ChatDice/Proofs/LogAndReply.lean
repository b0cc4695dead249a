import ChatDice.Proofs.Replies

/-!
# The log and the reply

Rolling notes every step, but only for the one who looks for a fault (`notable_tally`). What is left
for everybody else is one record for each command: the warning of a command that is turned down
(`notable_evaluate`), or what the dice table adds where there was none (`DiceTable.notable_answer`).

The person who typed the command is told the same in the reply, and the reply alone shows which of
the three it was: two failures differ in their messages (`Rejection.message_ne_genericMessage`), and
a success begins with a die before the name, so that the comma which a failure has after the name
cannot stand there (`Reply.failure_ne_success`).

Main statement (`DiceTable.log_tells_what_reply_says`): both together, for every command.
-/

namespace ChatDice

/-! ### Records for everybody -/

namespace Log

/-- The records that are not only for the one who looks for a fault. -/
def notable (records : List Record) : List Record :=
  atLeast Level.info.rank records

/-- No records, none for everybody. -/
@[simp] theorem notable_nil : notable [] = [] := rfl

/-- What is for everybody is picked out of two lists of records one after the other. -/
theorem notable_append (records more : List Record) :
    notable (records ++ more) = notable records ++ notable more :=
  List.filter_append records more

/-- A record for the one who looks for a fault is left out. -/
@[simp] theorem notable_cons_debug (text : String) (records : List Record) :
    notable (.debug text :: records) = notable records :=
  rfl

end Log

open Log (Record notable notable_append)

section evaluation

variable {σ : Type} {g : Generator σ}

/-- Texts are noted only for the one who looks for a fault. -/
theorem notable_noteAll (texts : List (Except Failure String)) :
    notable (noteAll texts).2 = [] := by
  induction texts with
  | nil => rfl
  | cons text texts ih =>
    cases text with
    | error failure => rfl
    | ok text => exact ih

/-- And so is all that is noted about a payload. -/
theorem Payload.notable_appraise (p : Payload) (s : σ) :
    notable (p.appraise g s).1.log = [] := by
  cases p with
  | literal n => rfl
  | dice spec => exact notable_noteAll _

/-- Terms are taken without a word to everybody. -/
theorem notable_tally (terms : List Term) (account : Tally) (s : σ) :
    notable (tally g terms account s).log = [] := by
  induction terms generalizing account s with
  | nil => rfl
  | cons term terms ih =>
    have hterm := Payload.notable_appraise (g := g) term.payload s
    simp only [tally]
    cases account.add term.operator (term.payload.appraise g s).1 with
    | error failure => exact hterm
    | ok next =>
      dsimp only
      rw [notable_append, hterm, ih, List.append_nil]

/-- A roll is made without a word to everybody. -/
theorem notable_evaluateTerms (terms : List Term) (s : σ) :
    notable (evaluateTerms g terms s).log = [] := by
  have hterms := notable_tally (g := g) terms .empty s
  unfold evaluateTerms
  dsimp only
  split
  · exact hterms
  · split
    · exact hterms
    · rw [notable_append, hterms]
      simp [RollResult.note]

/-- Of an evaluation everybody reads that the command was turned down, or nothing. -/
theorem notable_evaluate (limit : Limit) (command : String) (s : σ) :
    notable (evaluate g limit command s).log =
      rejectionNotes command (evaluate g limit command s).outcome := by
  have hnotes : ∀ outcome, notable (rejectionNotes command outcome) =
      rejectionNotes command outcome := by
    intro outcome
    unfold rejectionNotes
    split <;> rfl
  unfold evaluate
  dsimp only
  rw [Log.notable_cons_debug, notable_append, hnotes]
  split
  · simp
  · simp [notable_evaluateTerms]

end evaluation

/-! ### Replies that cannot be confused -/

/-- A text that comes again after some characters has one of these wherever it ended before. -/
theorem mem_of_append_cons_eq_append {α : Type} {lead text rest rest' : List α} {c : α}
    (hne : lead ≠ []) (h : text ++ c :: rest = lead ++ (text ++ rest')) : c ∈ lead := by
  induction hn : text.length using Nat.strong_induction_on generalizing text with
  | _ n ih =>
    rcases List.append_eq_append_iff.mp h with ⟨more, hlead, hrest⟩ | ⟨after, htext, hrest⟩
    · cases more with
      | nil =>
        rw [List.append_nil] at hlead
        obtain ⟨d, lead, rfl⟩ := List.exists_cons_of_ne_nil hne
        rw [List.nil_append, ← hlead, List.cons_append] at hrest
        simp [(List.cons.inj hrest).1]
      | cons d more =>
        rw [List.cons_append] at hrest
        simp [hlead, (List.cons.inj hrest).1]
    · -- The text itself begins with these characters, and what it goes on with is shorter.
      have hlt : after.length < n := by
        rw [← hn, htext, List.length_append]
        exact Nat.lt_add_of_pos_left (List.length_pos_iff.mpr hne)
      apply ih after.length hlt _ rfl
      rw [← hrest, htext, List.append_assoc]

namespace Reply

/-- However it is shortened, a success is the beginning of a text that begins with its head. -/
theorem exists_fit_isPrefix (head breakdown foot : List Char) (n : Nat) :
    ∃ rest, fit head breakdown foot (some n) <+: head ++ rest := by
  rcases Nat.lt_or_ge n (head.length + breakdown.length + foot.length) with hlt | hge
  · rw [fit_of_lt hlt, List.append_assoc]
    exact ⟨_, List.take_prefix _ _⟩
  · rw [fit_of_le hge, List.append_assoc]
    exact ⟨_, List.prefix_rfl⟩

/-- No success reads like a failure. -/
theorem failure_ne_success {name breakdown note reply : String} {total : Int}
    (h : success name total breakdown note (some messageLimit) = .ok reply) (message : String) :
    reply ≠ failure name message := by
  unfold success at h
  split at h
  · cases h
  next text htext =>
  obtain rfl := Except.ok.inj h
  intro hsame
  have hlist := congrArg String.toList hsame
  rw [String.toList_ofList, messageLimit_eq] at hlist
  obtain ⟨rest, after, hrest⟩ :=
    exists_fit_isPrefix (head name text).toList breakdown.toList (foot note).toList 2000
  rw [hlist] at hrest
  have hcomma : name.toList ++ ',' :: (" aconteceu um erro interno...\n".toList ++
      (message.toList ++ after)) =
        "🎲 ".toList ++ (name.toList ++ (" rolou:\n".toList ++ (text.toList ++
          ("\n\n".toList ++ rest)))) := by
    simpa [failure, head, String.toList_append] using hrest
  exact absurd (mem_of_append_cons_eq_append (by decide) hcomma) (by decide)

/-- Replies that explain failures differ as their messages do. -/
theorem failure_inj {name message message' : String} :
    failure name message = failure name message' ↔ message = message' := by
  unfold failure
  rw [String.append_assoc, String.append_assoc, String.append_right_inj, String.append_right_inj]

end Reply

/-- A text that is written out begins with its first character. -/
theorem head?_toList_ofList (c : Char) (s : List Char) :
    (String.ofList (c :: s)).toList.head? = some c := by
  rw [String.toList_ofList]
  rfl

/-- And so does a text that goes on with another one. -/
theorem head?_toList_ofList_append (c : Char) (s : List Char) (more : String) :
    (String.ofList (c :: s) ++ more).toList.head? = some c := by
  rw [String.toList_append, String.toList_ofList]
  rfl

/-- The message of a rejection begins with one of three letters. -/
theorem Rejection.exists_head?_message (why : Rejection) :
    ∃ c ∈ ['F', 'O', 'N'], why.message.toList.head? = some c := by
  cases why with
  | malformed fault =>
    refine ⟨'F', by decide, ?_⟩
    show usage.toList.head? = some 'F'
    unfold usage
    rw [String.append_assoc, String.append_assoc, String.append_assoc]
    exact head?_toList_ofList_append _ _ _
  | tooManyDice limit => exact ⟨'O', by decide, head?_toList_ofList_append _ _ _⟩
  | noDice => exact ⟨'O', by decide, head?_toList_ofList _ _⟩
  | badSides sides => exact ⟨'O', by decide, head?_toList_ofList _ _⟩
  | modifierTooLarge selected dice =>
    refine ⟨'O', by decide, ?_⟩
    show ("O modificador não pode manter ou soltar mais dados (" ++ toString selected ++
      ") do que os rolados (" ++ toString dice ++ ").").toList.head? = some 'O'
    rw [String.append_assoc, String.append_assoc, String.append_assoc]
    exact head?_toList_ofList_append _ _ _
  | divisionByZero => exact ⟨'N', by decide, head?_toList_ofList _ _⟩

/-- No rejection is explained in general terms. -/
theorem Rejection.message_ne_genericMessage (why : Rejection) :
    why.message ≠ DiceTable.genericMessage := by
  intro h
  obtain ⟨c, hc, hmessage⟩ := why.exists_head?_message
  have hgeneric : DiceTable.genericMessage.toList.head? = some 'E' := head?_toList_ofList _ _
  rw [h, hgeneric] at hmessage
  cases hmessage
  exact absurd hc (by decide)

namespace Reply

/-- The level at which the log tells of a reply to somebody: a warning if the reply explains a
rejection, an error if it is in general terms, and the ordinary level if it shows a roll. -/
def IsToldAt (name reply : String) : Log.Level → Prop
  | .debug => False
  | .info => ∃ total breakdown note,
      success name total breakdown note (some messageLimit) = .ok reply
  | .warning => ∃ why : Rejection, reply = failure name why.message
  | .error => reply = failure name DiceTable.genericMessage

/-- The text of a reply shows at which level the log tells of it. -/
theorem IsToldAt.unique {name reply : String} {level level' : Log.Level}
    (h : IsToldAt name reply level) (h' : IsToldAt name reply level') : level = level' := by
  cases level with
  | debug => exact h.elim
  | info =>
    obtain ⟨total, breakdown, note, hsuccess⟩ := h
    cases level' with
    | debug => exact h'.elim
    | info => rfl
    | warning =>
      obtain ⟨why, hwhy⟩ := h'
      exact absurd hwhy (failure_ne_success hsuccess _)
    | error => exact absurd h' (failure_ne_success hsuccess _)
  | warning =>
    obtain ⟨why, rfl⟩ := h
    cases level' with
    | debug => exact h'.elim
    | info =>
      obtain ⟨total, breakdown, note, hsuccess⟩ := h'
      exact absurd rfl (failure_ne_success hsuccess _)
    | warning => rfl
    | error => exact absurd (failure_inj.mp h') why.message_ne_genericMessage
  | error =>
    obtain rfl : reply = failure name DiceTable.genericMessage := h
    cases level' with
    | debug => exact h'.elim
    | info =>
      obtain ⟨total, breakdown, note, hsuccess⟩ := h'
      exact absurd rfl (failure_ne_success hsuccess _)
    | warning =>
      obtain ⟨why, hwhy⟩ := h'
      exact absurd (failure_inj.mp hwhy).symm why.message_ne_genericMessage
    | error => rfl

/-- If a reply is told of at the level of a record, it is told of at no other. -/
theorem level_eq_iff_isToldAt {name reply : String} {record : Record}
    (h : IsToldAt name reply record.level) (level : Log.Level) :
    record.level = level ↔ IsToldAt name reply level := by
  constructor
  · rintro rfl
    exact h
  · exact h.unique

end Reply

/-! ### One record for each command -/

/-- The failures that nobody's mistake explains. -/
def Failure.IsUnforeseen (failure : Failure) : Prop :=
  ∀ why, failure ≠ .rejected why

/-- The three ways in which a command can end. -/
theorem outcome_cases (outcome : Except Failure RollResult) :
    (∃ result, outcome = .ok result) ∨ (∃ why, outcome = .error (.rejected why)) ∨
      ∃ failure : Failure, outcome = .error failure ∧ failure.IsUnforeseen := by
  cases outcome with
  | ok result => exact .inl ⟨result, rfl⟩
  | error failure =>
    cases failure with
    | rejected why => exact .inr (.inl ⟨why, rfl⟩)
    | notNumeral text => exact .inr (.inr ⟨_, rfl, nofun⟩)
    | unprintable => exact .inr (.inr ⟨_, rfl, nofun⟩)

namespace DiceTable

variable {σ : Type} {g : Generator σ} {limit : Limit} {name command : String} {s : σ}

/-- What the person who typed a command is told, by the way in which it ended. -/
def replyTo (name : String) : Except Failure RollResult → String
  | .error (.rejected why) => Reply.failure name why.message
  | .error _ => Reply.failure name genericMessage
  | .ok result =>
    String.ofList (Reply.fit (Reply.head name (toString result.total)).toList
      result.breakdown.toList (Reply.foot (Critical.note result.critical)).toList
      (some Reply.messageLimit))

/-- What the table adds to the log about a command, by the way in which it ended. A rejection has
been noted by then. -/
def notesOn (name command : String) : Except Failure RollResult → List Record
  | .error (.rejected _) => []
  | .error failure =>
    [.unforeseenError
      ("處理指令時出現錯誤: " ++ Text.quote command.toList ++ ": " ++ failure.text)]
  | .ok result => [.info (name ++ " 擲骰: " ++ command ++ " = " ++ toString result.total)]

/-- A failure that nobody foresaw is passed over in general terms. -/
theorem replyTo_of_unforeseen {failure : Failure} (h : failure.IsUnforeseen) :
    replyTo name (.error failure) = Reply.failure name genericMessage := by
  unfold replyTo
  split <;> simp_all [Failure.IsUnforeseen]

/-- A failure that nobody foresaw is noted once. -/
theorem notesOn_of_unforeseen {failure : Failure} (h : failure.IsUnforeseen) :
    rejectionNotes command (.error failure) ++ notesOn name command (.error failure) =
      [.unforeseenError
        ("處理指令時出現錯誤: " ++ Text.quote command.toList ++ ": " ++ failure.text)] := by
  cases failure with
  | rejected why => exact absurd rfl (h why)
  | notNumeral text => rfl
  | unprintable => rfl

/-- Every command is answered, and the answer is settled by the way in which it ended. -/
theorem toPlay_answer (g : Generator σ) (limit : Limit) (name command : String) (s : σ) :
    (answer g limit name command s).toPlay =
      ⟨.ok (replyTo name (evaluate g limit command s).outcome), (evaluate g limit command s).dice,
        (evaluate g limit command s).log ++
          notesOn name command (evaluate g limit command s).outcome⟩ := by
  rcases outcome_cases (evaluate g limit command s).outcome with
    ⟨result, heval⟩ | ⟨why, heval⟩ | ⟨failure, heval, hunforeseen⟩
  · have htotal := printTotal_of_evaluate heval
    have hreply : (answer g limit name command s).outcome = .ok _ := outcome_answer_of_ok heval
    simp only [answer, toPlay_evaluateWith_none, heval, htotal] at hreply ⊢
    rw [hreply]
    rfl
  · simp only [answer, toPlay_evaluateWith_none, heval, replyTo, notesOn, List.append_nil]
  · cases failure with
    | rejected why => exact absurd rfl (hunforeseen why)
    | notNumeral text => simp only [answer, toPlay_evaluateWith_none, heval, replyTo, notesOn]
    | unprintable => simp only [answer, toPlay_evaluateWith_none, heval, replyTo, notesOn]

/-- Every command is evaluated once, with a generator made for it. -/
theorem generators_answer (g : Generator σ) (limit : Limit) (name command : String) (s : σ) :
    (answer g limit name command s).generators = 1 := by
  unfold answer
  dsimp only
  split
  · rfl
  · rfl
  · split <;> rfl

/-- Everybody reads in the log that the command was turned down, or what the table adds. -/
theorem notable_answer (g : Generator σ) (limit : Limit) (name command : String) (s : σ) :
    notable (answer g limit name command s).log =
      rejectionNotes command (evaluate g limit command s).outcome ++
        notesOn name command (evaluate g limit command s).outcome := by
  have hnotes : notable (notesOn name command (evaluate g limit command s).outcome) =
      notesOn name command (evaluate g limit command s).outcome := by
    unfold notesOn
    split <;> rfl
  rw [toPlay_answer, notable_append, notable_evaluate, hnotes]

/-- A roll that has a result is answered with a success. -/
theorem success_eq_of_evaluate (name : String) {result : RollResult}
    (h : (evaluate g limit command s).outcome = .ok result) :
    Reply.success name result.total result.breakdown (Critical.note result.critical)
      (some Reply.messageLimit) = .ok (replyTo name (.ok result)) := by
  unfold Reply.success
  rw [print?_of_evaluate h]
  rfl

/-- **The log and the reply tell the same story.** Every command is answered, and of what is noted
about it everybody reads one record. A command that is turned down is explained in the reply, and
the record is a warning with the detail. Any other failure is passed over in the reply in general
terms, and the record is an error. A roll is shown in the reply, and the record ends in its total.
The text of the reply alone shows which of the three it is, and so which level the record has. -/
theorem log_tells_what_reply_says (g : Generator σ) (limit : Limit) (name command : String)
    (s : σ) :
    ∃ reply record, (answer g limit name command s).outcome = .ok reply ∧
      notable (answer g limit name command s).log = [record] ∧
      (∀ why, (evaluate g limit command s).outcome = .error (.rejected why) →
        reply = Reply.failure name why.message ∧
          record = .warning
            ("無效的指令: " ++ Text.quote command.toList ++ " (" ++ why.detail ++ ")")) ∧
      (∀ failure, (evaluate g limit command s).outcome = .error failure →
        (∀ why, failure ≠ .rejected why) →
          reply = Reply.failure name genericMessage ∧
            record = .unforeseenError
              ("處理指令時出現錯誤: " ++ Text.quote command.toList ++ ": " ++ failure.text)) ∧
      (∀ result, (evaluate g limit command s).outcome = .ok result →
        Reply.success name result.total result.breakdown (Critical.note result.critical)
            (some Reply.messageLimit) = .ok reply ∧
          record = .info (name ++ " 擲骰: " ++ command ++ " = " ++ toString result.total)) ∧
      ∀ level, record.level = level ↔ Reply.IsToldAt name reply level := by
  have hnotable := notable_answer g limit name command s
  refine ⟨replyTo name (evaluate g limit command s).outcome, ?_⟩
  rw [toPlay_answer] at hnotable ⊢
  rcases outcome_cases (evaluate g limit command s).outcome with
    ⟨result, heval⟩ | ⟨why, heval⟩ | ⟨failure, heval, hunforeseen⟩
  · have hsuccess := success_eq_of_evaluate name heval
    rw [heval] at hnotable ⊢
    refine ⟨_, rfl, hnotable, nofun, nofun, ?_, ?_⟩
    · rintro result' ⟨⟩
      exact ⟨hsuccess, rfl⟩
    · exact Reply.level_eq_iff_isToldAt ⟨_, _, _, hsuccess⟩
  · rw [heval] at hnotable ⊢
    refine ⟨_, rfl, hnotable, ?_, ?_, nofun, ?_⟩
    · rintro why' ⟨⟩
      exact ⟨rfl, rfl⟩
    · rintro failure' ⟨⟩ hne
      exact absurd rfl (hne why)
    · exact Reply.level_eq_iff_isToldAt ⟨why, rfl⟩
  · rw [heval, replyTo_of_unforeseen hunforeseen]
    rw [heval, notesOn_of_unforeseen hunforeseen] at hnotable
    refine ⟨_, rfl, hnotable, ?_, ?_, nofun, ?_⟩
    · rintro why ⟨⟩
      exact absurd rfl (hunforeseen why)
    · rintro failure' ⟨⟩ -
      exact ⟨rfl, rfl⟩
    · exact Reply.level_eq_iff_isToldAt rfl

/-- A roll that ends in a division by zero. -/
theorem log_tells_what_reply_says_division :
    (evaluate .highest (.whole 1000) "/r 2d6 / 0" ()).outcome =
        .error (.rejected .divisionByZero) ∧
      ∃ reply record, (answer .highest (.whole 1000) "Ana" "/r 2d6 / 0" ()).outcome = .ok reply ∧
        notable (answer .highest (.whole 1000) "Ana" "/r 2d6 / 0" ()).log = [record] ∧
        reply = Reply.failure "Ana" "Não é possível dividir por zero." ∧ record.level = .warning := by
  have heval : (evaluate .highest (.whole 1000) "/r 2d6 / 0" ()).outcome =
      .error (.rejected .divisionByZero) := by decide +kernel
  obtain ⟨reply, record, hreply, hnotable, hrejected, -, -, hlevel⟩ :=
    log_tells_what_reply_says .highest (.whole 1000) "Ana" "/r 2d6 / 0" ()
  obtain ⟨htext, -⟩ := hrejected _ heval
  exact ⟨heval, reply, record, hreply, hnotable, htext, (hlevel _).mpr ⟨.divisionByZero, htext⟩⟩

end DiceTable

end ChatDice
