import ChatDice.Chat.Reply
import ChatDice.Command.Expression

/-!
# The dice table

The dice table is the part of the chat that rolls. It is asked in two ways: a message in the channel
that begins with the command word, or one of the commands `r` and `rolar` with an expression. Either
way the answer is worked out by `answer` and sent once.

* `answer` never passes over a failure in silence: a rejection is explained, and what nobody foresaw
  is noted in the log and answered in general terms.
* `deliver` sends a text. A channel that refuses it costs one record and nothing else.
* `take` is one event at the table, and `run` a sequence of events.

No generator is at hand at the table, so that one is made for each evaluation; how many were made is
part of what a step leaves behind.
-/

namespace ChatDice.DiceTable

open Log (Record)

/-- The reply where nobody foresaw the failure. -/
def genericMessage : String :=
  "Erro ao processar o comando."

variable {σ : Type}

/-- Works out the reply to a command. The outcome is a failure only if a total that has been printed
once could not be printed again. -/
def answer (g : Generator σ) (limit : Limit) (name command : String) (s : σ) :
    Evaluation σ String :=
  let play := evaluateWith none g limit command s
  match play.outcome with
  | .error (.rejected why) => { play with outcome := .ok (Reply.failure name why.message) }
  | .error failure =>
    { play with
      outcome := .ok (Reply.failure name genericMessage)
      log := play.log ++
        [.unforeseenError ("處理指令時出現錯誤: " ++ Text.quote command.toList ++ ": " ++
          failure.text)] }
  | .ok result =>
    match result.printTotal with
    | .error failure => { play with outcome := .error failure }
    | .ok total =>
      { play with
        outcome := Reply.success name result.total result.breakdown (Critical.note result.critical)
          (some Reply.messageLimit)
        log := play.log ++ [.info (name ++ " 擲骰: " ++ command ++ " = " ++ total)] }

/-- How the channel takes a text that is sent: with the words of an error if it refuses. -/
abbrev Delivery := Option String

/-- What is noted when a text is sent. -/
def deliver : Delivery → List Record
  | none => []
  | some refusal => [.error ("發送訊息失敗: " ++ refusal)]

/-- The commands that roll. -/
inductive RollCommand where
  /-- The short command. -/
  | r
  /-- The long command. -/
  | rolar
deriving DecidableEq, Repr

/-- The word of a command. -/
def RollCommand.word : RollCommand → String
  | r => "r"
  | rolar => "rolar"

/-- Something that happens at the table. -/
inductive Event where
  /-- A message in the channel. -/
  | message (name : String) (fromBot : Bool) (content : String) (delivery : Delivery)
  /-- A command with an expression. -/
  | command (which : RollCommand) (name : String) (expression : String) (delivery : Delivery)
  /-- A reply is asked for but not sent. -/
  | inquiry (name : String) (command : String)
  /-- The limit is changed. -/
  | setLimit (limit : Limit)
deriving Repr

/-- The state of the table: the configured limit and the dice. -/
structure State (σ : Type) where
  /-- The limit on the dice of a group. -/
  limit : Limit
  /-- The state of the generator. -/
  dice : σ

/-- What one event leads to. -/
structure Response where
  /-- The texts sent to the channel, in order. -/
  sent : List String
  /-- The reply worked out for an inquiry. -/
  reply : Option String
  /-- How many generators were made. -/
  generators : Nat
  /-- What was noted, at every level. -/
  log : List Record
  /-- The failure that ended the event, if one did. -/
  failure : Option Failure
deriving Repr

namespace Response

/-- Nothing was said, asked for or noted. -/
def silent : Response := ⟨[], none, 0, [], none⟩

end Response

/-- Answers a command and sends the reply. -/
def respond (g : Generator σ) (state : State σ) (name command : String) (delivery : Delivery) :
    Response × State σ :=
  let play := answer g state.limit name command state.dice
  let state := { state with dice := play.dice }
  match play.outcome with
  | .error failure => (⟨[], none, play.generators, play.log, some failure⟩, state)
  | .ok text => (⟨[text], none, play.generators, play.log ++ deliver delivery, none⟩, state)

/-- Whether a message is one for the table to answer. -/
def concerns (fromBot : Bool) (content : String) : Bool :=
  !fromBot && Command.addressed content.toList

/-- One event at the table. -/
def take (g : Generator σ) (state : State σ) : Event → Response × State σ
  | .message name fromBot content delivery =>
    if concerns fromBot content then
      let (response, state) := respond g state name content delivery
      ({ response with log := .info ("偵測到指令: " ++ content) :: response.log }, state)
    else (.silent, state)
  | .command which name expression delivery =>
    respond g state name ("/" ++ which.word ++ " " ++ expression) delivery
  | .inquiry name command =>
    let play := answer g state.limit name command state.dice
    let state := { state with dice := play.dice }
    match play.outcome with
    | .error failure => (⟨[], none, play.generators, play.log, some failure⟩, state)
    | .ok text => (⟨[], some text, play.generators, play.log, none⟩, state)
  | .setLimit limit => (.silent, { state with limit := limit })

/-- A sequence of events at the table. -/
def run (g : Generator σ) : List Event → State σ → List Response × State σ
  | [], state => ([], state)
  | event :: events, state =>
    let (response, state) := take g state event
    let (responses, state) := run g events state
    (response :: responses, state)

end ChatDice.DiceTable
