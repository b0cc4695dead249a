import ChatDice.Dice.Limit
import ChatDice.Files
import ChatDice.Json.Reader
import ChatDice.Json.Writer
import ChatDice.Text.Lines

/-!
# Settings

What can be configured: the sign before the commands of the chat service, the limit on the dice of a
group, and the file and the level of the log.

Settings are kept as JSON, and whoever edits the file may write anything into it. Only the limit is
looked at when settings are made: it must be a number, and it must lie from one up to a billion,
the billion excluded. The other three are taken as they are; who uses one later finds out whether it
is of use.

* `Settings.ofMembers` makes settings from named values, `Settings.ofBytes` from what a file holds.
* `Settings.bytes` is what a file holds that they are saved in. Not all settings can be saved
  (`Settings.saveError?`). Where values nest too deep, this is found before anything is written, but
  the file has been emptied by then; where a value cannot be written, the file holds what comes
  before it (`Settings.saved`).
-/

namespace ChatDice

/-- The configuration of the program. -/
structure Settings where
  /-- The sign before the commands of the chat service. -/
  commandPrefix : Json.Value
  /-- The limit on the dice of a group. -/
  maxDiceCount : Json.Value
  /-- The file of the log. -/
  logFile : Json.Value
  /-- The level of the log. -/
  logLevel : Json.Value
deriving Repr, Inhabited

/-- Why there are no settings to be had. -/
inductive SettingsError where
  /-- The file cannot be used. -/
  | file (why : FileError)
  /-- The file is no text. -/
  | notText (why : String)
  /-- The file is not JSON. -/
  | notJson (document : List Char) (why : Json.Error)
  /-- Values nest too deep to be read or to be saved. -/
  | tooDeep
  /-- A value cannot be written. -/
  | unwritable (why : Json.WriteError)
  /-- The file holds a value that has no members. -/
  | notObject
  /-- The limit is not a number. -/
  | limitNotNumber
  /-- The limit is a number out of range. -/
  | limitOutOfRange
  /-- There is no setting of that name. -/
  | unknownName (name : Text.Raw)
  /-- Nothing has been opened. -/
  | nothingOpen
deriving DecidableEq, Repr

/-- The limit that a JSON value stands for. -/
def Limit.ofValue? : Json.Value → Option Limit
  | .whole n => some (.whole n)
  | .real x => some (.real x)
  | .bool b => some (.flag b)
  | _ => none

namespace Settings

/-- The least number above every limit. -/
def limitBound : Int := 1000000000

/-- The message about a limit that is out of range. -/
def limitMessage : String :=
  "max_dice_count 必須介於 1 與 999999999 之間"

/-- The settings where nothing is configured. -/
def standard : Settings where
  commandPrefix := .string "!"
  maxDiceCount := .whole 1000
  logFile := .string "bot.log"
  logLevel := .string "INFO"

/-- The settings as named values, in the order in which they are saved. -/
def members (settings : Settings) : Json.Members :=
  [("command_prefix", settings.commandPrefix), ("max_dice_count", settings.maxDiceCount),
    ("log_file", settings.logFile), ("log_level", settings.logLevel)]

/-- The names of the settings. -/
def names : List Text.Raw :=
  standard.members.names

/-- The settings with some values given anew and the others kept; names of no setting are passed
over. -/
def assign (settings : Settings) (given : Json.Members) : Settings where
  commandPrefix := (given.get? "command_prefix").getD settings.commandPrefix
  maxDiceCount := (given.get? "max_dice_count").getD settings.maxDiceCount
  logFile := (given.get? "log_file").getD settings.logFile
  logLevel := (given.get? "log_level").getD settings.logLevel

/-- The limit, if it is a number. -/
def limit? (settings : Settings) : Option Limit :=
  Limit.ofValue? settings.maxDiceCount

/-- Looks at the limit. -/
def check (settings : Settings) : Except SettingsError Settings :=
  match settings.limit? with
  | none => .error .limitNotNumber
  | some limit =>
    if limit.between 1 limitBound then .ok settings else .error .limitOutOfRange

/-- The settings with the given values, all of which must be settings, and the standard ones. -/
def ofMembers (given : Json.Members) : Except SettingsError Settings :=
  match given.names.find? fun name => !names.contains name with
  | some name => .error (.unknownName name)
  | none => (standard.assign given).check

/-- The settings that a document holds. Members that are no settings are passed over. -/
def ofDocument (document : List Char) : Except SettingsError Settings :=
  match Json.read document with
  | .error .tooDeep => .error .tooDeep
  | .error why => .error (.notJson document why)
  | .ok (.object given) => ofMembers (given.filter fun member => names.contains member.1)
  | .ok _ => .error .notObject

/-- The settings that a file holds. -/
def ofBytes (bytes : ByteArray) : Except SettingsError Settings :=
  match Text.Utf8.decode? bytes with
  | none => .error (.notText (Text.Utf8.faultText bytes))
  | some text => ofDocument (Text.unifyLineEnds text.toList)

/-- How deep lists and objects may nest in a setting that is saved. -/
def maxSavedDepth : Nat := 494

/-- Whether a value nests too deep to be saved. -/
def isTooDeep (settings : Settings) : Bool :=
  settings.members.any fun member => maxSavedDepth < member.2.depth

/-- Why the settings cannot be saved, if they cannot. -/
def saveError? (settings : Settings) : Option SettingsError :=
  if settings.isTooDeep then some .tooDeep
  else (Json.stop? (.object settings.members)).map .unwritable

/-- Whether the settings can be saved. -/
def isSavable (settings : Settings) : Bool :=
  settings.saveError?.isNone

/-- The settings as a document, as far as it can be written. -/
def bytes (settings : Settings) : ByteArray :=
  Text.Utf8.encode (Json.write (.object settings.members))

/-- What a file holds in which the settings have been saved, or in which they could not be. -/
def saved (settings : Settings) : ByteArray :=
  if settings.isTooDeep then .empty else settings.bytes

end Settings

/-- The cause of an error in words, where the error is one about the value of something. -/
def SettingsError.cause? : SettingsError → Option String
  | file why => why.cause?
  | notText why => some why
  | notJson document why => some (why.message document)
  | unwritable why => some why.text
  | limitOutOfRange => some Settings.limitMessage
  | _ => none

end ChatDice
