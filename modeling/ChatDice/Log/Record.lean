/-!
# Log records

What the program notes about its work: a level and a text. Every computation hands back all its
records, whatever their level; which of them are written is decided where they are written.
-/

namespace ChatDice.Log

/-- How important a record is. -/
inductive Level where
  /-- For the one who looks for a fault. -/
  | debug
  /-- The ordinary course of things. -/
  | info
  /-- Something was turned down. -/
  | warning
  /-- Something failed. -/
  | error
deriving DecidableEq, Repr, Inhabited

namespace Level

/-- The name of a level. -/
def name : Level → String
  | debug => "DEBUG"
  | info => "INFO"
  | warning => "WARNING"
  | error => "ERROR"

/-- The number that levels are compared by. -/
def rank : Level → Int
  | debug => 10
  | info => 20
  | warning => 30
  | error => 40

/-- All levels, the least important first. -/
def all : List Level :=
  [debug, info, warning, error]

/-- The upper-case form of a character, as far as names of levels need it: of the letters beyond
ASCII only the dotless i has an upper-case form that occurs in one. -/
def upper (c : Char) : Char :=
  if c = 'ı' then 'I' else c.toUpper

/-- The level with a given name, in any case. -/
def ofName? (name : String) : Option Level :=
  all.find? fun level => level.name.toList == name.toList.map upper

end Level

/-- One note in the log. -/
structure Record where
  /-- How important it is. -/
  level : Level
  /-- What it says. -/
  text : String
  /-- Whether it was written because a computation failed in a way nobody foresaw. -/
  unforeseen : Bool
deriving DecidableEq, Repr, Inhabited

namespace Record

/-- A record for the one who looks for a fault. -/
def debug (text : String) : Record := ⟨.debug, text, false⟩

/-- A record of the ordinary course of things. -/
def info (text : String) : Record := ⟨.info, text, false⟩

/-- A record of something turned down. -/
def warning (text : String) : Record := ⟨.warning, text, false⟩

/-- A record of something that failed. -/
def error (text : String) : Record := ⟨.error, text, false⟩

/-- A record of a failure that nobody foresaw. -/
def unforeseenError (text : String) : Record := ⟨.error, text, true⟩

end Record

/-- The records at or above a threshold. -/
def atLeast (threshold : Int) (records : List Record) : List Record :=
  records.filter fun record => threshold ≤ record.level.rank

end ChatDice.Log
