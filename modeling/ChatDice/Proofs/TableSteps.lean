import ChatDice.Proofs.Draws
import ChatDice.Proofs.Grammar
import ChatDice.Proofs.LogAndReply

/-!
# Events at the table, one by one

Seen from outside, a run at the dice table is a list of steps, each of them an event with what it
led to and the draws that were made for it (`history`). A step is what the table does with the event
when its draws are recorded (`observe`), and recording changes nothing (`observe_eq`,
`map_response_history`).

Whether a message is answered is decided by a test of its own, which is looser than the reader of
commands. The messages that pass it are the language `Command.Grammar.calls`
(`Command.addressed_iff`), and nothing that the reader accepts is missed if it begins with no blank
(`Command.mem_calls_of_validate`).

Main statement (`DiceTable.one_answer_per_command`): in every run, a command and a message of that
language are answered exactly once, whether the answer can be delivered or not, and any other
message leaves no trace.
-/

namespace ChatDice

open Text (Blanks isBlank)

/-! ### Messages that are commands -/

namespace Command

/-- The messages that begin with the slash and a command word, if the word ends there: the message
ends with it, or goes on with a blank. -/
def Grammar.calls : Language Char :=
  {s | ∃ p rest, p ∈ word ∧ (∀ c ∈ rest.head?, isBlank c = true) ∧ s = p ++ rest}

/-- A word has ended where a blank follows or nothing does. -/
theorem endsWord_iff {s : List Char} : endsWord s = true ↔ ∀ c ∈ s.head?, isBlank c = true := by
  cases s <;> simp [endsWord]

/-- The messages that address the table are the calls. -/
theorem addressed_iff {content : List Char} :
    addressed content = true ↔ content ∈ Grammar.calls := by
  constructor
  · intro h
    unfold addressed at h
    split at h
    · next rest =>
      obtain ⟨candidate, hmem, hfound⟩ := List.any_eq_true.mp h
      obtain ⟨after, hstrip, hends⟩ := (Option.any_eq_true _ _).mp hfound
      obtain ⟨word, rfl, rfl⟩ := stripWord?_eq_some_iff.mp hstrip
      exact ⟨'/' :: word, after, Grammar.mem_word_iff.mpr ⟨word, hmem, rfl⟩, endsWord_iff.mp hends,
        rfl⟩
    · cases h
  · rintro ⟨p, rest, hp, hrest, rfl⟩
    obtain ⟨word, hword, rfl⟩ := Grammar.mem_word_iff.mp hp
    rw [List.cons_append, addressed]
    apply List.any_eq_true.mpr
    refine ⟨_, hword, (Option.any_eq_true _ _).mpr ⟨rest, ?_, endsWord_iff.mpr hrest⟩⟩
    exact stripWord?_eq_some_iff.mpr ⟨word, rfl, rfl⟩

/-- A command word with blanks after it is a call, whatever comes next. -/
theorem mem_calls_of_word {word w : List Char} (hword : word ∈ Grammar.word) (hne : w ≠ [])
    (hw : Blanks w) (rest : List Char) : word ++ (w ++ rest) ∈ Grammar.calls := by
  refine ⟨word, w ++ rest, hword, ?_, rfl⟩
  rw [List.head?_append_of_ne_nil _ hne]
  intro c hc
  exact hw c (List.mem_of_mem_head? hc)

/-- What the reader accepts is a call, if it begins with no blank. -/
theorem mem_calls_of_validate {content : List Char} (h : validate content = .ok true)
    (hhead : ∀ c ∈ content.head?, isBlank c = false) : content ∈ Grammar.calls := by
  unfold validate at h
  split at h
  · next terms hread =>
    obtain ⟨expr, ⟨hw₁, hword, hne, hw₂, -, -, -⟩, -⟩ := readTermsWith_eq_ok_iff.mp hread
    next w₁ word w₂ w₃ =>
    obtain rfl : w₁ = [] := by
      cases w₁ with
      | nil => rfl
      | cons c w₁ =>
        have hblank := (Text.blanks_cons.mp hw₁).1
        rw [hhead c rfl] at hblank
        cases hblank
    exact mem_calls_of_word (Grammar.mem_word_iff.mpr ⟨word, hword, rfl⟩) hne hw₂ (expr ++ w₃)
  · cases h
  · cases h

end Command

namespace DiceTable

variable {σ : Type} {g : Generator σ}

/-! ### What an event does -/

/-- An event that asks for an answer in the channel: a command, or a message that is a call and not
the message of a bot. -/
def Event.AsksForAnswer : Event → Prop
  | .message _ fromBot content _ => fromBot = false ∧ content.toList ∈ Command.Grammar.calls
  | .command .. => True
  | .inquiry .. => False
  | .setLimit _ => False

/-- A message in the channel. -/
def Event.IsMessage (event : Event) : Prop :=
  ∃ name fromBot content delivery, event = .message name fromBot content delivery

/-- A message concerns the table if it is a call and not from a bot. -/
theorem concerns_iff {fromBot : Bool} {content : String} :
    concerns fromBot content = true ↔
      fromBot = false ∧ content.toList ∈ Command.Grammar.calls := by
  rw [concerns, Bool.and_eq_true, Command.addressed_iff, Bool.not_eq_true']

/-- A command is answered by one text, from one generator. -/
theorem respond_eq (g : Generator σ) (state : State σ) (name command : String)
    (delivery : Delivery) :
    respond g state name command delivery =
      (⟨[replyTo name (evaluate g state.limit command state.dice).outcome], none, 1,
          (answer g state.limit name command state.dice).log ++ deliver delivery, none⟩,
        { state with dice := (evaluate g state.limit command state.dice).dice }) := by
  simp only [respond, toPlay_answer, generators_answer]

/-- A message that concerns the table is noted and answered. -/
theorem take_of_concerns {name content : String} {fromBot : Bool} {delivery : Delivery}
    (h : concerns fromBot content = true) (state : State σ) :
    take g state (.message name fromBot content delivery) =
      ({ (respond g state name content delivery).1 with
          log := .info ("偵測到指令: " ++ content) ::
            (respond g state name content delivery).1.log },
        (respond g state name content delivery).2) :=
  if_pos h

/-- A message that does not concern the table is passed over. -/
theorem take_of_not_concerns {name content : String} {fromBot : Bool} {delivery : Delivery}
    (h : ¬concerns fromBot content = true) (state : State σ) :
    take g state (.message name fromBot content delivery) = (.silent, state) :=
  if_neg h

/-- A command is answered as the text that it stands for. -/
theorem take_command (which : RollCommand) (name expression : String) (delivery : Delivery)
    (state : State σ) :
    take g state (.command which name expression delivery) =
      respond g state name ("/" ++ which.word ++ " " ++ expression) delivery :=
  rfl

/-- Who inquires is told what the channel would be, and nothing is sent. -/
theorem take_inquiry (name command : String) (state : State σ) :
    take g state (.inquiry name command) =
      (⟨[], some (replyTo name (evaluate g state.limit command state.dice).outcome), 1,
          (answer g state.limit name command state.dice).log, none⟩,
        { state with dice := (evaluate g state.limit command state.dice).dice }) := by
  simp only [take, toPlay_answer, generators_answer]

/-- A message that asks for no answer does not concern the table. -/
theorem exists_not_concerns_of_ignored {event : Event} (hmessage : event.IsMessage)
    (h : ¬event.AsksForAnswer) :
    ∃ name fromBot content delivery, event = .message name fromBot content delivery ∧
      ¬concerns fromBot content = true := by
  obtain ⟨name, fromBot, content, delivery, rfl⟩ := hmessage
  exact ⟨name, fromBot, content, delivery, rfl, fun hconcerns => h (concerns_iff.mp hconcerns)⟩

/-- A message that does not ask for an answer is passed over. -/
theorem take_of_ignored {event : Event} (hmessage : event.IsMessage) (h : ¬event.AsksForAnswer)
    (state : State σ) : take g state event = (.silent, state) := by
  obtain ⟨name, fromBot, content, delivery, rfl, hconcerns⟩ :=
    exists_not_concerns_of_ignored hmessage h
  exact take_of_not_concerns hconcerns state

/-- Nothing escapes from an event, whatever becomes of the answer. -/
theorem failure_take (state : State σ) (event : Event) :
    (take g state event).1.failure = none := by
  cases event with
  | message name fromBot content delivery =>
    by_cases h : concerns fromBot content = true
    · rw [take_of_concerns h, respond_eq]
    · rw [take_of_not_concerns h]
      rfl
  | command which name expression delivery => rw [take_command, respond_eq]
  | inquiry name command => rw [take_inquiry]
  | setLimit limit => rfl

/-- An event that asks for an answer gets one, from one generator. -/
theorem exists_sent_of_asks {event : Event} (h : event.AsksForAnswer) (state : State σ) :
    ∃ reply, (take g state event).1.sent = [reply] ∧ (take g state event).1.generators = 1 := by
  cases event with
  | message name fromBot content delivery =>
    rw [take_of_concerns (concerns_iff.mpr h), respond_eq]
    exact ⟨_, rfl, rfl⟩
  | command which name expression delivery =>
    rw [take_command, respond_eq]
    exact ⟨_, rfl, rfl⟩
  | inquiry name command => exact h.elim
  | setLimit limit => exact h.elim

/-! ### Draws -/

/-- The command that an event puts to the table, if it puts one. -/
def Event.command? : Event → Option String
  | .message _ fromBot content _ => if concerns fromBot content then some content else none
  | .command which _ expression _ => some ("/" ++ which.word ++ " " ++ expression)
  | .inquiry _ text => some text
  | .setLimit _ => none

/-- The draws made for an event: those of its command. -/
def Event.draws (g : Generator σ) (state : State σ) (event : Event) : List Draw :=
  match event.command? with
  | none => []
  | some text => ChatDice.draws g state.limit text state.dice

/-- Nothing is drawn for a message that does not concern the table. -/
theorem Event.draws_of_not_concerns {fromBot : Bool} {content : String}
    (h : ¬concerns fromBot content = true) (g : Generator σ) (state : State σ) (name : String)
    (delivery : Delivery) : (Event.message name fromBot content delivery).draws g state = [] := by
  rw [draws, command?, if_neg h]

/-- Nothing is drawn for a message that asks for no answer. -/
theorem Event.draws_of_ignored {event : Event} (hmessage : event.IsMessage)
    (h : ¬event.AsksForAnswer) (g : Generator σ) (state : State σ) : event.draws g state = [] := by
  obtain ⟨name, fromBot, content, delivery, rfl, hconcerns⟩ :=
    exists_not_concerns_of_ignored hmessage h
  exact draws_of_not_concerns hconcerns g state name delivery

/-- For an event that stands for a command the draws of the command are made. -/
theorem Event.draws_of_command? {event : Event} {command : String}
    (h : event.command? = some command) (g : Generator σ) (state : State σ) :
    event.draws g state = ChatDice.draws g state.limit command state.dice := by
  simp only [draws, h]

/-- An event leaves the state that its command leaves. -/
theorem next_of_command? {event : Event} {command : String} (h : event.command? = some command)
    (state : State σ) :
    (take g state event).2 =
      { state with dice := (evaluate g state.limit command state.dice).dice } := by
  cases event with
  | message name fromBot content delivery =>
    rw [Event.command?] at h
    split at h
    · next hconcerns =>
      obtain rfl := Option.some.inj h
      rw [take_of_concerns hconcerns, respond_eq]
    · cases h
  | command which name expression delivery =>
    obtain rfl := Option.some.inj h
    rw [take_command, respond_eq]
  | inquiry name text =>
    obtain rfl := Option.some.inj h
    rw [take_inquiry]
  | setLimit limit => cases h

/-- A command is answered alike with a record, and the record grows by its draws. -/
theorem respond_recorded (state : State σ) (earlier : List Draw) (name command : String)
    (delivery : Delivery) :
    respond g.recorded ⟨state.limit, (state.dice, earlier)⟩ name command delivery =
      ((respond g state name command delivery).1,
        ⟨state.limit, (respond g state name command delivery).2.dice,
          (draws g state.limit command state.dice).reverse ++ earlier⟩) := by
  simp only [respond_eq, toPlay_answer, evaluate_recorded]

/-- The table does the same with a record, and the record grows by the draws made for the event. -/
theorem take_recorded (state : State σ) (earlier : List Draw) (event : Event) :
    take g.recorded ⟨state.limit, (state.dice, earlier)⟩ event =
      ((take g state event).1,
        ⟨(take g state event).2.limit, (take g state event).2.dice,
          (event.draws g state).reverse ++ earlier⟩) := by
  cases event with
  | message name fromBot content delivery =>
    by_cases h : concerns fromBot content = true
    · simp only [take_of_concerns h, Event.draws, Event.command?, if_pos h, respond_recorded]
      rw [respond_eq]
    · rw [take_of_not_concerns h, take_of_not_concerns h, Event.draws_of_not_concerns h]
      rfl
  | command which name expression delivery =>
    simp only [take_command, Event.draws, Event.command?, respond_recorded]
    rw [respond_eq]
  | inquiry name command =>
    simp only [take_inquiry, Event.draws, Event.command?, toPlay_answer, evaluate_recorded]
  | setLimit limit => rfl

/-! ### Runs -/

/-- One event as it can be seen from outside. -/
structure Step where
  /-- The event. -/
  event : Event
  /-- What it led to. -/
  response : Response
  /-- The draws made for it, in order. -/
  draws : List Draw

/-- One event at the table, with a record of the draws made for it. -/
def observe (g : Generator σ) (state : State σ) (event : Event) : Step × State σ :=
  let (response, next) := take g.recorded ⟨state.limit, (state.dice, [])⟩ event
  (⟨event, response, next.dice.2.reverse⟩, ⟨next.limit, next.dice.1⟩)

/-- A sequence of events at the table, with a record of the draws made for each. -/
def history (g : Generator σ) : List Event → State σ → List Step
  | [], _ => []
  | event :: events, state =>
    (observe g state event).1 :: history g events (observe g state event).2

/-- Looking on changes nothing. -/
theorem observe_eq (g : Generator σ) (state : State σ) (event : Event) :
    observe g state event =
      (⟨event, (take g state event).1, event.draws g state⟩, (take g state event).2) := by
  simp only [observe, take_recorded, List.append_nil, List.reverse_reverse]

/-- A history begins with its first step. -/
theorem history_cons (event : Event) (events : List Event) (state : State σ) :
    history g (event :: events) state =
      ⟨event, (take g state event).1, event.draws g state⟩ ::
        history g events (take g state event).2 := by
  rw [history, observe_eq]

/-- A run begins with its first event. -/
theorem run_cons (event : Event) (events : List Event) (state : State σ) :
    run g (event :: events) state =
      ((take g state event).1 :: (run g events (take g state event).2).1,
        (run g events (take g state event).2).2) :=
  rfl

/-- The events of a history are those of the run. -/
theorem map_event_history (events : List Event) (state : State σ) :
    (history g events state).map Step.event = events := by
  induction events generalizing state with
  | nil => rfl
  | cons event events ih => rw [history_cons, List.map_cons, ih]

/-- The responses of a history are those of the run. -/
theorem map_response_history (events : List Event) (state : State σ) :
    (history g events state).map Step.response = (run g events state).1 := by
  induction events generalizing state with
  | nil => rfl
  | cons event events ih => rw [history_cons, List.map_cons, ih, run_cons]

/-- What holds of every event, whatever the state that it meets, holds all along a history. -/
theorem forall_mem_history {P : Step → Prop}
    (h : ∀ state event, P ⟨event, (take g state event).1, event.draws g state⟩)
    (events : List Event) (state : State σ) : ∀ step ∈ history g events state, P step := by
  induction events generalizing state with
  | nil => exact List.forall_mem_nil _
  | cons event events ih =>
    rw [history_cons]
    exact List.forall_mem_cons.mpr ⟨h state event, ih _⟩

/-- **One answer to each command, and none to anything else.** In every run, nothing escapes from an
event, whether its answer is delivered or not. A command, and a message that is a call and not from
a bot, is answered by one text, from one generator. Any other message leaves nothing behind: no
text, no generator, no draws, no records. And no command is missed: what the reader accepts is
answered, if it begins with no blank and comes from a person. -/
theorem one_answer_per_command (g : Generator σ) (state : State σ) (events : List Event) :
    (history g events state).map Step.event = events ∧
    (history g events state).map Step.response = (run g events state).1 ∧
    (∀ step ∈ history g events state,
      step.response.failure = none ∧
      (step.event.AsksForAnswer →
        step.response.sent.length = 1 ∧ step.response.generators = 1) ∧
      (step.event.IsMessage → ¬step.event.AsksForAnswer →
        step.response = .silent ∧ step.draws = [])) ∧
    ∀ content : String, Command.validate content.toList = .ok true →
      (∀ c ∈ content.toList.head?, isBlank c = false) → ∀ name delivery,
        (Event.message name false content delivery).AsksForAnswer ∧
          ∃ reply, (take g state (.message name false content delivery)).1.sent = [reply] := by
  refine ⟨map_event_history events state, map_response_history events state, ?_, ?_⟩
  · apply forall_mem_history
    intro state event
    refine ⟨failure_take state event, ?_, ?_⟩
    · intro hasks
      obtain ⟨reply, hsent, hgenerators⟩ := exists_sent_of_asks (g := g) hasks state
      exact ⟨congrArg List.length hsent, hgenerators⟩
    · intro hmessage hasks
      exact ⟨congrArg Prod.fst (take_of_ignored hmessage hasks state),
        Event.draws_of_ignored hmessage hasks g state⟩
  · intro content hvalid hhead name delivery
    have hasks : (Event.message name false content delivery).AsksForAnswer :=
      ⟨rfl, Command.mem_calls_of_validate hvalid hhead⟩
    obtain ⟨reply, hsent, -⟩ := exists_sent_of_asks (g := g) hasks state
    exact ⟨hasks, reply, hsent⟩

/-- A person whose answer the channel refuses, and a bot with the same text. -/
theorem one_answer_per_command_refused :
    ∃ answered ignored,
      history .highest [.message "Ana" false "/R\n2d6" (some "500"),
        .message "Bot" true "/R\n2d6" none] ⟨.whole 1000, ()⟩ = [answered, ignored] ∧
      answered.response.sent.length = 1 ∧ answered.response.generators = 1 ∧
      answered.response.failure = none ∧
      ignored.response = .silent ∧ ignored.draws = [] ∧
      (Event.message "Eva" false "/R\n2d6" none).AsksForAnswer := by
  obtain ⟨-, -, hsteps, hread⟩ := one_answer_per_command .highest ⟨.whole 1000, ()⟩
    [.message "Ana" false "/R\n2d6" (some "500"), .message "Bot" true "/R\n2d6" none]
  have hvalid : Command.validate "/R\n2d6".toList = .ok true := by decide +kernel
  have hhead : ∀ c ∈ "/R\n2d6".toList.head?, isBlank c = false := by
    rintro c ⟨⟩
    rfl
  obtain ⟨hasks, -⟩ := hread "/R\n2d6" hvalid hhead "Ana" (some "500")
  obtain ⟨hasks', -⟩ := hread "/R\n2d6" hvalid hhead "Eva" none
  rw [history_cons, history_cons, history] at hsteps ⊢
  refine ⟨_, _, rfl, ?_⟩
  obtain ⟨hfailure, hone, -⟩ := hsteps _ List.mem_cons_self
  obtain ⟨-, -, hsilent⟩ := hsteps _ (List.mem_cons_of_mem _ List.mem_cons_self)
  have hbot : ¬(Event.message "Bot" true "/R\n2d6" none).AsksForAnswer := fun h => nomatch h.1
  obtain ⟨hresponse, hdraws⟩ := hsilent ⟨"Bot", true, "/R\n2d6", none, rfl⟩ hbot
  exact ⟨(hone hasks).1, (hone hasks).2, hfailure, hresponse, hdraws, hasks'⟩

end DiceTable

end ChatDice
