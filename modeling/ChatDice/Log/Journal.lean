import ChatDice.Files
import ChatDice.Json.Value
import ChatDice.Log.Record

/-!
# The journal

All parts of the program write their records to one journal. It has a level, below which records are
passed over, and handlers, which write the others: one to a file and one to the console. Without
handlers only warnings and errors are shown, on the console and as bare text.

* `Journal.start` sets the level and adds handlers if there are none.
* `Journal.configure` takes the handlers away, adds new ones and sets the level, in this order; if
  it fails on the way, what has been done stays done.
* `Journal.write` writes one record.

The log file is kept short. When the next record would bring it to `maxFileSize`, the file is put
aside under its name with `.1` after it, an older one under `.2`, and so on up to `backupCount`
(`Journal.rotate`). This may fail: the new name may be too long, or a directory may have taken it.
Then what has been moved stays moved, and the record is written to no file; the console is told.

Before each written record stands the time. It comes from outside, and so do the words in which the
console is told that a file could not be written (`Moment`).
-/

namespace ChatDice.Log

/-- Something that writes records. -/
inductive Handler where
  /-- Writes at the end of a file. -/
  | file (path : Path)
  /-- Writes to the console. -/
  | console
deriving DecidableEq, Repr

/-- Where records are written, and which. -/
structure Journal where
  /-- What writes them. -/
  handlers : List Handler
  /-- The level below which they are passed over. -/
  level : Int
deriving DecidableEq, Repr

/-- Why the journal cannot be set up. -/
inductive JournalError where
  /-- The log file cannot be opened. -/
  | file (why : FileError)
  /-- The name of the log file is no text. -/
  | fileNotText
  /-- The name of the level is no text. -/
  | levelNotText
deriving DecidableEq, Repr

/-- The cause of an error in words, where the error is one about the value of something. -/
def JournalError.cause? : JournalError → Option String
  | file why => why.cause?
  | _ => none

/-- What comes from outside when a record is written. -/
structure Moment where
  /-- The time, as it stands before the record. -/
  stamp : String
  /-- How the console is told that a line could not be written to the log file. -/
  report : String → FileError → String

/-- What the console is told about a line for the log file: nothing if it was written. -/
def Moment.told (moment : Moment) (text : String) : Except FileError Unit → String
  | .ok () => ""
  | .error why => moment.report text why

/-- The name that the journal goes by in every record. -/
def journalName : String := "RPGDiceBot"

/-- The size at which a log file is put aside, in bytes. -/
def maxFileSize : Nat := 1024 * 1024

/-- How many log files are kept besides the current one. -/
def backupCount : Nat := 5

namespace Journal

/-- The journal when the program starts. -/
def initial : Journal := ⟨[], Level.info.rank⟩

/-- The level in force; the level zero stands for that of warnings. -/
def effectiveLevel (journal : Journal) : Int :=
  if journal.level = 0 then Level.warning.rank else journal.level

/-! ## Setting up -/

/-- Opens a log file, which makes it if it is not there, and adds the handlers. The path of the file
is settled by its words alone: two dots take back the name before them. -/
def addHandlers (journal : Journal) (files : Files) (name : Text.Raw) :
    Except FileError (Journal × Files) :=
  (files.resolve name).map fun path =>
    ({ journal with handlers := journal.handlers ++ [.file path, .console] },
      files.put path ((files.find? path).getD .empty))

/-- Sets the level, and adds handlers if there are none. -/
def start (journal : Journal) (files : Files) (name : Json.Value) (level : Int) :
    Except JournalError Unit × Journal × Files :=
  let journal := { journal with level := level }
  if journal.handlers ≠ [] then (.ok (), journal, files)
  else
    match name with
    | .text name =>
      match journal.addHandlers files name with
      | .error why => (.error (.file why), journal, files)
      | .ok (journal, files) => (.ok (), journal, files)
    | _ => (.error .fileNotText, journal, files)

/-- The level that a name stands for; unknown names stand for the level of ordinary records. -/
def levelNamed : Text.Raw → Int
  | .proper name => ((Level.ofName? name).getD .info).rank
  | _ => Level.info.rank

/-- Replaces the handlers and sets the level. -/
def configure (journal : Journal) (files : Files) (name level : Json.Value) :
    Except JournalError Unit × Journal × Files :=
  let journal := { journal with handlers := [] }
  match name with
  | .text name =>
    match journal.addHandlers files name with
    | .error why => (.error (.file why), journal, files)
    | .ok (journal, files) =>
      match level with
      | .text level => (.ok (), { journal with level := levelNamed level }, files)
      | _ => (.error .levelNotText, journal, files)
  | _ => (.error .fileNotText, journal, files)

/-! ## Writing -/

/-- The line that stands for the failure at hand where there is none. -/
def noTrace : String := "NoneType: None"

/-- A text with a trace after it, on a line of its own. -/
def withTrace (text : String) (traced : Bool) : String :=
  if traced then (if text.endsWith "\n" then text else text ++ "\n") ++ noTrace else text

/-- A record as handlers write it, with the time before it. -/
def line (stamp : String) (record : Record) (traced : Bool) : String :=
  withTrace
    (stamp ++ journalName ++ " - " ++ record.level.name ++ " - " ++ record.text) traced ++ "\n"

/-- The path of the log file that was put aside some number of times. -/
def backup (path : Path) (n : Nat) : Path :=
  path.extend ("." ++ toString n)

/-- Moves older log files on by one, the oldest of the given number first: how that went, and the
files afterwards. -/
def shiftBackups (path : Path) : Nat → Files → Except FileError Unit × Files
  | 0, files => (.ok (), files)
  | n + 1, files =>
    match files.shift (backup path (n + 1)) (backup path (n + 2)) with
    | (.ok (), files) => shiftBackups path n files
    | (.error why, files) => (.error why, files)

/-- Puts a log file aside, and moves the older ones on: how that went, and the files afterwards. -/
def rotate (files : Files) (path : Path) : Except FileError Unit × Files :=
  match shiftBackups path (backupCount - 1) files with
  | (.ok (), files) => files.supplant path (backup path 1)
  | (.error why, files) => (.error why, files)

/-- Whether a log file is put aside before a line is written: its size in bytes and the length of
the line in characters come to the greatest size, and it is a file. -/
def isDue (files : Files) (path : Path) (text : String) : Bool :=
  maxFileSize ≤ files.size path + text.length && !files.isDirectory path

/-- Writes a line at the end of a log file: how that went, and the files afterwards. A file that
cannot be written is left. -/
def writeEnd (files : Files) (path : Path) (text : String) : Except FileError Unit × Files :=
  match files.append path (Text.Utf8.encode text) with
  | .error why => (.error why, files)
  | .ok files => (.ok (), files)

/-- Writes a line to a log file, which is put aside first if that is due: how that went, and the
files afterwards. The line is dropped where the file cannot be put aside. -/
def writeFile (files : Files) (path : Path) (text : String) : Except FileError Unit × Files :=
  if isDue files path text then
    match rotate files path with
    | (.ok (), files) => writeEnd files path text
    | (.error why, files) => (.error why, files)
  else writeEnd files path text

/-- Lets one handler write a line: the files and the console after it. -/
def handle (moment : Moment) (text : String) (state : Files × String) : Handler → Files × String
  | .file path =>
    let (written, files) := writeFile state.1 path text
    (files, state.2 ++ moment.told text written)
  | .console => (state.1, state.2 ++ text)

/-- Writes a record: the files after it, and what appears on the console. -/
def write (journal : Journal) (moment : Moment) (files : Files) (record : Record) (traced : Bool) :
    Files × String :=
  if record.level.rank < journal.effectiveLevel then (files, "")
  else if journal.handlers = [] then
    if record.level.rank < Level.warning.rank then (files, "")
    else (files, withTrace record.text traced ++ "\n")
  else journal.handlers.foldl (handle moment (line moment.stamp record traced)) (files, "")

/-- Writes records one after another. -/
def writeAll (journal : Journal) (moment : Moment) (files : Files) (records : List Record) :
    Files × String :=
  records.foldl
    (fun state record =>
      let (files, text) := journal.write moment state.1 record false
      (files, state.2 ++ text))
    (files, "")

/-- The records that the journal does not pass over. -/
def visible (journal : Journal) (records : List Record) : List Record :=
  atLeast journal.effectiveLevel records

end Journal

end ChatDice.Log
