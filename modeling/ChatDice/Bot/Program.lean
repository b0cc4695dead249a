import ChatDice.Bot.Basic

/-!
# The program

The program makes a bot, lets it run, and closes it. It notes when it starts and when the bot is
closed.

A bot that cannot be made because something has a wrong value ends the program with a note of the
cause and the status `1`. Every other error ends it as it is. The connection runs until it ends in
one of the ways of `Ending`; whichever it is, the bot is closed and that is noted.
-/

namespace ChatDice.Bot.Program

open Log (Record Journal)

/-- How the connection ends. -/
inductive Ending where
  /-- It ends by itself. -/
  | finished
  /-- Somebody interrupts the program. -/
  | interrupted
  /-- The chat service refuses. -/
  | refused
  /-- Something breaks. -/
  | broken
deriving DecidableEq, Repr

/-- How the program ends. -/
inductive Exit where
  /-- It returns. -/
  | returned
  /-- It ends with a status. -/
  | status (code : Int)
  /-- The bot cannot be made, and the error is not one that is explained. -/
  | unexplained (why : BuildError)
  /-- The connection ended in an error. -/
  | connection (ending : Ending)
deriving DecidableEq, Repr

/-- A run of the program. -/
structure Run where
  /-- How it ended. -/
  exit : Exit
  /-- How often the bot signed in. -/
  started : Nat
  /-- Whether the bot was closed at the end; nothing if there was none. -/
  closed : Option Bool
  /-- The records that were not passed over. -/
  log : List Record

/-- The note at the start. -/
def startNote : Record := .info "正在啟動 RPG Dice Bot..."

/-- The note of the cause for which no bot was made. -/
def causeNote (cause : String) : Record := .error ("錯誤：" ++ cause)

/-- The note that somebody interrupted the program. -/
def interruptNote : Record := .info "收到中斷信號，正在關閉機器人..."

/-- The note at the end. -/
def closeNote : Record := .info "機器人已關閉"

/-- How the program ends after the connection. -/
def exitAfter : Ending → Exit
  | .finished => .returned
  | .interrupted => .returned
  | ending => .connection ending

/-- What is noted after the connection. -/
def notesAfter : Ending → List Record
  | .interrupted => [interruptNote, closeNote]
  | _ => [closeNote]

variable {σ : Type}

/-- Why the program ends before there is a bot, and what is noted about it. -/
structure Refusal where
  /-- How the program ends. -/
  exit : Exit
  /-- What is noted. -/
  notes : List Record

/-- The refusal that an error leads to. -/
def refusal (why : BuildError) : Refusal :=
  match why.cause? with
  | some cause => ⟨.status 1, [causeNote cause]⟩
  | none => ⟨.unexplained why, []⟩

/-- Makes the bot, or says how the program ends without one. -/
def launch (loader : Environment.Loader) (known : Environment.Variables) (world : World)
    (dice : σ) : Except Refusal (State σ) × World :=
  match build loader known world dice with
  | (.error why, world) => (.error (refusal why), world)
  | (.ok bot, world) => (.ok bot, world)

/-- Lets a bot run until its connection ends, and closes it: how often it signed in, and the bot
afterwards. -/
def runBot (service : Service) (g : Generator σ) (bot : State σ) : Nat × State σ :=
  let (effect, _, bot) := take service g bot .start
  let (_, _, bot) := take service g bot .close
  match effect with
  | .started _ => (1, bot)
  | _ => (0, bot)

/-- The whole program. Each record is measured by the level in force when it is noted. -/
def run (loader : Environment.Loader) (service : Service) (g : Generator σ)
    (known : Environment.Variables) (world : World) (ending : Ending) (dice : σ) : Run :=
  let opening := world.journal.visible [startNote]
  match launch loader known world dice with
  | (.error refusal, world) =>
    ⟨refusal.exit, 0, none, opening ++ world.journal.visible refusal.notes⟩
  | (.ok bot, world) =>
    let (started, bot) := runBot service g bot
    ⟨exitAfter ending, started, some bot.connection.closed,
      opening ++ world.journal.visible (notesAfter ending)⟩

end ChatDice.Bot.Program
