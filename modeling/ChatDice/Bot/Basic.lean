import ChatDice.Bot.Environment
import ChatDice.Chat.DiceTable
import ChatDice.Chat.Help
import ChatDice.Log.Journal
import ChatDice.Settings.Store

/-!
# The bot

The bot joins the parts: it signs in with a token, has settings, keeps a journal, and answers at the
dice table and with help.

`build` makes one from the environment and the files. It looks for the token first, then opens the
settings, then sets up the journal, and stops at the first of these that fails. `Bot.take` is one
event in its life.

Two things are left to libraries: how an environment file is read (`Environment.Loader`), and what
becomes of the commands and the connection when the one are loaded and the other is closed
(`Service`). The program works with any that keep the laws they come with. With `Service.discord`,
commands can be loaded once until closing takes them away, and messages reach the dice table only
while they are loaded.
-/

namespace ChatDice.Bot

open Log (Record Journal JournalError)

/-- The variable that holds the token. -/
def tokenName : String := "DISCORD_TOKEN"

/-- The file of assignments that may hold the token. -/
def environmentFile : String := ".env"

/-- The file of settings. -/
def settingsFile : String := "config.json"

/-- What the bot says about itself. -/
def description : String := "Bot de rolagem de dados para RPG"

/-- The message about a token that is missing. -/
def noTokenMessage : String :=
  "未找到 DISCORD_TOKEN 環境變量，請在 .env 文件或終端中設置"

/-- Why a bot cannot be made. -/
inductive BuildError where
  /-- The environment file cannot be loaded. -/
  | environment (why : Environment.LoadError)
  /-- There is no token. -/
  | noToken
  /-- There are no settings. -/
  | settings (why : SettingsError)
  /-- There is no journal. -/
  | journal (why : JournalError)
deriving DecidableEq, Repr

/-- The cause of an error in words, where the error is one about the value of something. -/
def BuildError.cause? : BuildError → Option String
  | environment why => why.cause?
  | noToken => some noTokenMessage
  | settings why => why.cause?
  | journal why => why.cause?

/-- What the bot works with besides its own state. -/
structure World where
  /-- The files. -/
  files : Files
  /-- The journal. -/
  journal : Journal

/-- What the chat service keeps of a bot. -/
structure Connection where
  /-- Whether the commands are loaded. -/
  loaded : Bool
  /-- Whether the connection is closed. -/
  closed : Bool
deriving DecidableEq, Repr

/-- The connection of a new bot. -/
def Connection.initial : Connection := ⟨false, false⟩

/-- A library for the chat service. -/
structure Service where
  /-- Loads the commands, or refuses to. -/
  load : Connection → Option Connection
  /-- Closes the connection. -/
  close : Connection → Connection
  /-- The commands of a new bot can be loaded. -/
  load_initial : load .initial = some { Connection.initial with loaded := true }
  /-- A connection that has been closed is closed. -/
  closed_close : ∀ connection, (close connection).closed = true

/-- Commands that are loaded are not loaded again, and closing takes them away. -/
def Service.discord : Service where
  load connection := if connection.loaded then none else some { connection with loaded := true }
  close _ := ⟨false, true⟩
  load_initial := rfl
  closed_close _ := rfl

/-- A bot. -/
structure State (σ : Type) where
  /-- What it signs in with. -/
  token : String
  /-- Its settings. -/
  store : Settings.Store
  /-- Its connection. -/
  connection : Connection
  /-- The dice. -/
  dice : σ

/-! ## Making a bot -/

/-- The path of the environment file. -/
def environmentPath (files : Files) : Path :=
  files.home ++ [Text.Raw.proper environmentFile]

/-- The token among variables, if there is one. An empty token is none. -/
def tokenOf (known : Environment.Variables) : Except BuildError String :=
  match (known.lookup tokenName).filter (· ≠ "") with
  | none => .error .noToken
  | some token => .ok token

/-- The token, if there is one, once the environment file has been loaded, if there is one. -/
def token (loader : Environment.Loader) (known : Environment.Variables) (files : Files) :
    Except BuildError String :=
  match files.find? (environmentPath files) with
  | none => tokenOf known
  | some bytes =>
    match loader.load known bytes with
    | .error why => .error (.environment why)
    | .ok known => tokenOf known

variable {σ : Type}

/-- Makes a bot from the variables that are set, the files and the state of the dice. -/
def build (loader : Environment.Loader) (known : Environment.Variables) (world : World) (dice : σ) :
    Except BuildError (State σ) × World :=
  match token loader known world.files with
  | .error why => (.error why, world)
  | .ok token =>
    match Settings.Store.openAt settingsFile world.files with
    | (.error why, files) => (.error (.settings why), { world with files := files })
    | (.ok store, files) =>
      match world.journal.configure files store.settings.logFile store.settings.logLevel with
      | (.error why, journal, files) => (.error (.journal why), ⟨files, journal⟩)
      | (.ok (), journal, files) => (.ok ⟨token, store, .initial, dice⟩, ⟨files, journal⟩)

/-! ## Events -/

/-- Something that happens to a bot. -/
inductive Event where
  /-- Its commands are loaded. -/
  | load
  /-- It is started: the commands are loaded, and it signs in. -/
  | start
  /-- The connection is ready; the commands are made known to the service, which may refuse in words
  of its own. -/
  | ready (user : String) (servers : Int) (refusal : Option String)
  /-- It is closed. -/
  | close
  /-- A message appears in a channel. -/
  | message (name : String) (fromBot : Bool) (content : String) (delivery : DiceTable.Delivery)
deriving Repr

/-- What an event leads to. -/
inductive Effect where
  /-- The commands were loaded. -/
  | loaded
  /-- The bot signed in with a token. -/
  | started (token : String)
  /-- The commands could not be loaded, and nothing was done. -/
  | alreadyLoaded
  /-- The service was asked to make the commands known. -/
  | synced
  /-- The bot was closed; whether it had been before. -/
  | closed (before : Bool)
  /-- The message met with no dice table. -/
  | ignored
  /-- The dice table took the message. -/
  | answered (response : DiceTable.Response)
deriving Repr

/-- The commands of the bot, group by group. -/
def commands : List Help.Entry :=
  Help.rollEntries ++ Help.helpEntries

/-- What is noted when the connection is ready. -/
def readyNotes (user : String) (servers : Int) (refusal : Option String) : List Record :=
  [.info (user ++ " 已經上線! 已連接到 " ++ toString servers ++ " 個服務器"),
    match refusal with
    | none => .info "應用命令已同步"
    | some refusal => .error ("同步應用命令時出錯: " ++ refusal)]

/-- The limit that the settings put on the dice of a group. -/
def State.limit (bot : State σ) : Limit :=
  bot.store.settings.limit?.getD .standard

/-- Loads the commands. -/
def State.load (service : Service) (bot : State σ) : Option (State σ) :=
  (service.load bot.connection).map fun connection => { bot with connection }

/-- One event: what it leads to, what is noted, and the bot after it. -/
def take (service : Service) (g : Generator σ) (bot : State σ) :
    Event → Effect × List Record × State σ
  | .load =>
    match bot.load service with
    | none => (.alreadyLoaded, [], bot)
    | some bot => (.loaded, [], bot)
  | .start =>
    match bot.load service with
    | none => (.alreadyLoaded, [], bot)
    | some bot => (.started bot.token, [], bot)
  | .ready user servers refusal => (.synced, readyNotes user servers refusal, bot)
  | .close =>
    if bot.connection.closed then (.closed true, [], bot)
    else (.closed false, [], { bot with connection := service.close bot.connection })
  | .message name fromBot content delivery =>
    if bot.connection.loaded then
      let (response, table) :=
        DiceTable.take g ⟨bot.limit, bot.dice⟩ (.message name fromBot content delivery)
      (.answered response, response.log, { bot with dice := table.dice })
    else (.ignored, [], bot)

/-- One event, with its records written to the journal. -/
def step (service : Service) (g : Generator σ) (moment : Log.Moment) (bot : State σ)
    (world : World) (event : Event) : Effect × List Record × State σ × World :=
  let (effect, records, bot) := take service g bot event
  let (files, _) := world.journal.writeAll moment world.files records
  (effect, world.journal.visible records, bot, { world with files := files })

end ChatDice.Bot
