import ChatDice.Proofs.TableSteps

/-!
# What one event does to the others

The events at the table share a limit and the dice, and that is all that one of them can leave to
the next. An event that is passed over, or whose command is not parsed under the limit in force,
leaves both as they were (`Event.IsFruitless`, `next_of_isFruitless`). So it can be struck from a
run, and nothing changes for the events that stay (`history_of_struck`).

Whether the answer to an event is delivered shows in the records of this event only, as one more
record at the end (`take_withDelivery`).

Main statement (`DiceTable.bad_event_affects_only_itself`): both hold in every run, for any number
of struck events, and for any event that is answered.
-/

namespace ChatDice

open Log (Record)

/-- The elements that are marked to be kept. -/
def kept {α : Type} (entries : List (α × Bool)) : List α :=
  (entries.filter Prod.snd).map Prod.fst

/-- An entry that is marked is kept. -/
@[simp] theorem kept_cons_true {α : Type} (a : α) (entries : List (α × Bool)) :
    kept ((a, true) :: entries) = a :: kept entries :=
  rfl

/-- Any other is not. -/
@[simp] theorem kept_cons_false {α : Type} (a : α) (entries : List (α × Bool)) :
    kept ((a, false) :: entries) = kept entries :=
  rfl

namespace DiceTable

variable {σ : Type} {g : Generator σ} {state : State σ} {event : Event}

/-! ### Runs in parts -/

/-- A run goes on where the one before it ended. -/
theorem run_append (before after : List Event) (state : State σ) :
    run g (before ++ after) state =
      ((run g before state).1 ++ (run g after (run g before state).2).1,
        (run g after (run g before state).2).2) := by
  induction before generalizing state with
  | nil => rfl
  | cons event before ih => rw [List.cons_append, run_cons, run_cons, ih, List.cons_append]

/-- A history goes on where the one before it ended. -/
theorem history_append (before after : List Event) (state : State σ) :
    history g (before ++ after) state =
      history g before state ++ history g after (run g before state).2 := by
  induction before generalizing state with
  | nil => rfl
  | cons event before ih =>
    rw [List.cons_append, history_cons, history_cons, run_cons, ih, List.cons_append]

/-! ### Events that can be struck -/

/-- An event that comes to nothing: a message that is passed over, or one whose command is not
parsed under the limit. -/
inductive Event.IsFruitless (limit : Limit) (event : Event) : Prop
  | ignored (hmessage : event.IsMessage) (h : ¬event.AsksForAnswer)
  | rejected {command : String} {failure : Failure} (hcommand : event.command? = some command)
      (h : Command.parse limit command.toList = .error failure)

/-- An event that comes to nothing leaves the state as it was. -/
theorem next_of_isFruitless (h : event.IsFruitless state.limit) :
    (take g state event).2 = state := by
  cases h with
  | ignored hmessage hasks => rw [take_of_ignored hmessage hasks]
  | rejected hcommand hfailure =>
    rw [next_of_command? hcommand, dice_evaluate_of_error hfailure]

/-- Events that come to nothing can be struck from a run, here those marked `false`: what is seen of
the others stays as it is, and so does the state that the run leaves. -/
theorem history_of_struck {entries : List (Event × Bool)} {state : State σ}
    (h : ∀ before event after, entries = before ++ (event, false) :: after →
      event.IsFruitless (run g (before.map Prod.fst) state).2.limit) :
    kept ((history g (entries.map Prod.fst) state).zip (entries.map Prod.snd)) =
        history g (kept entries) state ∧
      (run g (entries.map Prod.fst) state).2 = (run g (kept entries) state).2 := by
  induction entries generalizing state with
  | nil => exact ⟨rfl, rfl⟩
  | cons entry entries ih =>
    obtain ⟨event, flag⟩ := entry
    have hrest : ∀ before struck after, entries = before ++ (struck, false) :: after →
        struck.IsFruitless (run g (before.map Prod.fst) (take g state event).2).2.limit := by
      intro before struck after hentries
      apply h ((event, flag) :: before) struck after
      rw [hentries, List.cons_append]
    obtain ⟨hsteps, hstate⟩ := ih hrest
    rw [List.map_cons, List.map_cons, history_cons, List.zip_cons_cons, run_cons]
    cases flag with
    | true =>
      rw [kept_cons_true, kept_cons_true, history_cons, run_cons, hsteps]
      exact ⟨rfl, hstate⟩
    | false =>
      have hnext : (take g state event).2 = state := next_of_isFruitless (h [] event entries rfl)
      rw [hnext] at hsteps hstate ⊢
      exact ⟨hsteps, hstate⟩

/-! ### Answers that cannot be delivered -/

/-- The same event with another fate of its answer. -/
def Event.withDelivery (delivery : Delivery) : Event → Event
  | .message name fromBot content _ => .message name fromBot content delivery
  | .command which name expression _ => .command which name expression delivery
  | .inquiry name text => .inquiry name text
  | .setLimit limit => .setLimit limit

/-- The same step with an answer that the channel refuses: one more record, at the end. -/
def Step.refused (refusal : String) (step : Step) : Step :=
  { step with
    event := step.event.withDelivery (some refusal)
    response := { step.response with
      log := step.response.log ++ [Record.error ("發送訊息失敗: " ++ refusal)] } }

/-- The last change of the delivery counts. -/
theorem Event.withDelivery_withDelivery (delivery delivery' : Delivery) (event : Event) :
    (event.withDelivery delivery).withDelivery delivery' = event.withDelivery delivery' := by
  cases event <;> rfl

/-- An event asks for the same, however its answer is delivered. -/
theorem Event.command?_withDelivery (delivery : Delivery) (event : Event) :
    (event.withDelivery delivery).command? = event.command? := by
  cases event <;> rfl

/-- The draws for an event do not depend on how its answer is delivered. -/
theorem Event.draws_withDelivery (delivery : Delivery) (event : Event) (g : Generator σ)
    (state : State σ) : (event.withDelivery delivery).draws g state = event.draws g state := by
  rw [draws, draws, command?_withDelivery]

/-- What becomes of the answer shows at the end of the records, and nowhere else. -/
theorem take_withDelivery (h : event.AsksForAnswer) (delivery : Delivery) (state : State σ) :
    take g state (event.withDelivery delivery) =
      ({ (take g state (event.withDelivery none)).1 with
          log := (take g state (event.withDelivery none)).1.log ++ deliver delivery },
        (take g state (event.withDelivery none)).2) := by
  cases event with
  | message name fromBot content original =>
    have hconcerns := concerns_iff.mpr h
    simp [Event.withDelivery, take_of_concerns hconcerns, respond_eq, deliver]
  | command which name expression original =>
    simp [Event.withDelivery, take, respond_eq, deliver]
  | inquiry name text => exact h.elim
  | setLimit limit => exact h.elim

/-- **One bad event affects only itself.** Messages that are passed over and events whose commands
are not parsed under the limit in force can be struck from a run: each of the other events leads to
the same texts, draws and records, and the run leaves the same state. If the answer to an event
cannot be delivered, this event has one more record, of an error and as its last, and nothing else
in the run changes. -/
theorem bad_event_affects_only_itself (g : Generator σ) (state : State σ) :
    (∀ entries : List (Event × Bool),
      (∀ before event after, entries = before ++ (event, false) :: after →
        event.IsFruitless (run g (before.map Prod.fst) state).2.limit) →
      kept ((history g (entries.map Prod.fst) state).zip (entries.map Prod.snd)) =
          history g (kept entries) state ∧
        (run g (entries.map Prod.fst) state).2 = (run g (kept entries) state).2) ∧
    ∀ before (event : Event) after refusal, event.AsksForAnswer →
      ∃ earlier step later, earlier.length = before.length ∧
        history g (before ++ event.withDelivery none :: after) state =
          earlier ++ step :: later ∧
        history g (before ++ event.withDelivery (some refusal) :: after) state =
          earlier ++ step.refused refusal :: later ∧
        (run g (before ++ event.withDelivery (some refusal) :: after) state).2 =
          (run g (before ++ event.withDelivery none :: after) state).2 := by
  refine ⟨fun entries h => history_of_struck h, ?_⟩
  intro before event after refusal hasks
  refine ⟨history g before state,
    (observe g (run g before state).2 (event.withDelivery none)).1,
    history g after (observe g (run g before state).2 (event.withDelivery none)).2, ?_, ?_, ?_, ?_⟩
  · rw [← List.length_map Step.event, map_event_history]
  · rw [history_append, history]
  · rw [history_append, history_cons, observe_eq, take_withDelivery hasks (some refusal),
      Event.draws_withDelivery, Step.refused, Event.withDelivery_withDelivery,
      Event.draws_withDelivery]
    rfl
  · rw [run_append, run_append, run_cons, run_cons, take_withDelivery hasks (some refusal)]

/-- Small talk and a group of two dice, which only the new limit forbids, struck from a run; and the
last answer of what stays, refused. -/
theorem bad_event_affects_only_itself_scripted :
    kept ((history (.scripted #[3, 5]) [.message "Ana" false "oi" none, .setLimit (.whole 1),
          .command .r "Eva" "2d6" none, .command .rolar "Ana" "d6" none] ⟨.whole 10, 0⟩).zip
        [false, true, false, true]) =
      history (.scripted #[3, 5]) [.setLimit (.whole 1), .command .rolar "Ana" "d6" none]
        ⟨.whole 10, 0⟩ ∧
    ∃ earlier step later, earlier.length = 1 ∧
      history (.scripted #[3, 5]) [.setLimit (.whole 1), .command .rolar "Ana" "d6" none]
        ⟨.whole 10, 0⟩ = earlier ++ step :: later ∧
      history (.scripted #[3, 5]) [.setLimit (.whole 1), .command .rolar "Ana" "d6" (some "500")]
        ⟨.whole 10, 0⟩ = earlier ++ step.refused "500" :: later := by
  obtain ⟨hstruck, hrefused⟩ := bad_event_affects_only_itself (.scripted #[3, 5]) ⟨.whole 10, 0⟩
  constructor
  · refine (hstruck [(.message "Ana" false "oi" none, false), (.setLimit (.whole 1), true),
      (.command .r "Eva" "2d6" none, false), (.command .rolar "Ana" "d6" none, true)] ?_).1
    intro before event after h
    simp only [List.cons_eq_append_iff, List.cons.injEq, Prod.mk.injEq, and_true,
      Bool.false_eq_true, and_false, false_and, List.nil_eq, List.append_eq_nil_iff, reduceCtorEq,
      exists_const, or_self, or_false, ↓existsAndEq, true_and, false_or] at h
    rcases h with ⟨rfl, rfl, -⟩ | ⟨rfl, rfl, -⟩
    · have hpassed : ¬concerns false "oi" = true := by decide
      exact .ignored ⟨"Ana", false, "oi", none, rfl⟩ fun h => hpassed (concerns_iff.mpr h)
    · have hrejected : Command.parse (.whole 1) "/r 2d6".toList =
          .error (.rejected (.tooManyDice (.whole 1))) :=
        (Command.parse_eq_rejected_iff (Limit.BelowCap.isPrintable (by decide))).mpr rfl
      exact .rejected rfl hrejected
  · obtain ⟨earlier, step, later, hlength, hsent, hnot, -⟩ :=
      hrefused [.setLimit (.whole 1)] (.command .rolar "Ana" "d6" none) [] "500" trivial
    exact ⟨earlier, step, later, hlength, hsent, hnot⟩

end DiceTable

end ChatDice
