import ChatDice.Bot.Program
import Std.Time

/-!
# The command line

The program without arguments. Its channel is the console: every line of the standard input is a
message of the person at the keyboard, and what the bot sends is written to the standard output.
The journal's console is the standard error.

This is the only place that touches the world. It takes the files that the program works with into
memory, lets the library say what happens, and writes back the files that have changed. When the
input ends, so does the connection.
-/

namespace ChatDice.Console

open Log (Record)
open ChatDice.Bot

/-- The text of a path, as the operating system is asked for it. -/
def systemPath? (path : Path) : Option String :=
  match Text.Raw.ofPoints path.points with
  | .proper text => some text
  | .broken .. => none

/-- What a file holds, if it is there. -/
def load (path : Path) : IO (Option ByteArray) := do
  match systemPath? path with
  | none => return none
  | some text =>
    try
      return some (← IO.FS.readBinFile text)
    catch _ =>
      return none

/-- Takes files into memory, as far as they are there. -/
def loadAll (files : Files) (paths : List Path) : IO Files := do
  let mut files := files
  for path in paths do
    match ← load path with
    | some bytes => files := files.put path bytes
    | none => pure ()
  return files

/-- The path of the settings file. -/
def settingsPath (files : Files) : Path :=
  files.home ++ [Text.Raw.proper Bot.settingsFile]

/-- The directories around the log file that the settings name. They are taken to be there; where
one is not, the operating system refuses to write the file. -/
def logDirectories (files : Files) : List Path :=
  match (files.find? (settingsPath files)).map Settings.ofBytes with
  | some (.ok settings) =>
    match settings.logFile with
    | .text name => (Path.resolve files.home name).ancestors
    | _ => []
  | _ => []

/-- Brings the files up to date that held something else before. -/
def saveChanges (before after : Files) : IO Unit := do
  for (path, bytes) in after.contents do
    if before.find? path != some bytes then
      if let some text := systemPath? path then IO.FS.writeBinFile text bytes
  for (path, _) in before.contents do
    if (after.find? path).isNone then
      if let some text := systemPath? path then IO.FS.removeFile text

/-- The log files that a journal may touch. -/
def logPaths (journal : Log.Journal) : List Path :=
  journal.handlers.flatMap fun handler =>
    match handler with
    | .file path =>
      path :: (List.range Log.backupCount).map fun n => Log.Journal.backup path (n + 1)
    | .console => []

/-- The time as it stands before a record. -/
def timeStamp : IO String := do
  let now ← Std.Time.PlainDateTime.now
  return now.format "uuuu-MM-dd HH:mm:ss,SSS" ++ " - "

/-- What stands on the standard error where a record could not be written to the log file. -/
def failureNote : String := "--- Logging error ---\n"

/-- Writes records to the journal: to its files and to the standard error. -/
def note (world : World) (records : List Record) : IO World := do
  let moment : Log.Moment := ⟨← timeStamp, fun _ _ => failureNote⟩
  let (files, console) := world.journal.writeAll moment world.files records
  (← IO.getStderr).putStr console
  saveChanges world.files files
  return { world with files := files }

/-- The name that the person at the keyboard goes by. -/
def userName : String := "Console"

/-- Passes the lines of the standard input to the bot until they end. -/
partial def converse (input : IO.FS.Stream) (bot : State Nat) (world : World) :
    IO (State Nat × World) := do
  let line ← input.getLine
  if line.isEmpty then return (bot, world)
  let content := String.ofList (Text.trimEnd line.toList)
  let (effect, records, bot) :=
    take .discord .congruential bot (.message userName false content none)
  let world ← note world records
  match effect with
  | .answered response =>
    for text in response.sent do
      IO.println text
  | _ => pure ()
  converse input bot world

/-- Runs a bot from its start to its end. -/
def serve (bot : State Nat) (world : World) : IO Unit := do
  let (_, records, bot) := take .discord .congruential bot .start
  let world ← note world records
  let (bot, world) ← converse (← IO.getStdin) bot world
  let (_, records, _) := take .discord .congruential bot .close
  let world ← note world records
  let _ ← note world (Program.notesAfter .finished)

/-- The variables that the program asks for: the token, and what the environment file refers to. -/
def knownVariables (files : Files) : IO Environment.Variables := do
  let text := ((files.find? (environmentPath files)).bind Text.Utf8.decode?).getD ""
  let mut known : Environment.Variables := []
  for name in tokenName :: Environment.mentioned text.toList do
    match ← IO.getEnv name with
    | some value => known := known ++ [(name, value)]
    | none => pure ()
  return known

/-- A first state for the dice. -/
def firstState : IO Nat := do
  let bytes ← IO.getRandomBytes 8
  return bytes.toList.foldl (fun n byte => n * 256 + byte.toNat) 0

end ChatDice.Console

open ChatDice ChatDice.Console in
/-- Runs the program in the working directory. -/
def main : IO UInt32 := do
  let dice ← firstState
  let home := Path.resolve [] (.proper (← IO.currentDir).toString)
  let bare : Files := { home, directories := [], contents := [] }
  let start ← loadAll bare [Bot.environmentPath bare, settingsPath bare]
  let known ← knownVariables start
  let start := { start with directories := logDirectories start }
  let world ← note ⟨start, .initial⟩ [Bot.Program.startNote]
  -- A first launch in memory tells which log files there are; they are loaded before the real one.
  let (_, trial) := Bot.Program.launch .reader known world dice
  let loaded ← loadAll world.files (logPaths trial.journal)
  match Bot.Program.launch .reader known { world with files := loaded } dice with
  | (.error refusal, world) =>
    saveChanges loaded world.files
    let _ ← note world refusal.notes
    return 1
  | (.ok bot, world) =>
    saveChanges loaded world.files
    serve bot world
    return 0
