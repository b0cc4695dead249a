import ChatDice.Dice.Evaluation

/-!
# Replies

A command is answered with one message. A success shows who rolled, the total, the breakdown and
the announcement of an outstanding roll; a failure shows who asked and what went wrong.

A chat message has a greatest length, counted in characters. `fit` keeps a success within it: the
breakdown is shortened, and marked as such, so that the head and the announcement stay whole. Only
where they do not fit either is the whole text cut.
-/

namespace ChatDice.Reply

/-- The greatest number of characters of a chat message. -/
def messageLimit : Int := 2000

/-- The mark at the end of a shortened breakdown. -/
def shortened : List Char :=
  " … (resumido)".toList

/-- Joins head, breakdown and foot within a length, if one is given. -/
def fit (head breakdown foot : List Char) : Option Int → List Char
  | none => head ++ breakdown ++ foot
  | some length =>
    if length < head.length + breakdown.length + foot.length then
      let room := length - head.length - foot.length - shortened.length
      Slice.upTo length (head ++ (breakdown.take room.toNat ++ shortened) ++ foot)
    else head ++ breakdown ++ foot

/-- The part of a success before the breakdown. -/
def head (name total : String) : String :=
  "🎲 " ++ name ++ " rolou:\n" ++ total ++ "\n\n"

/-- The part of a success after the breakdown. -/
def foot (note : String) : String :=
  if note = "" then "" else "\n" ++ note

/-- The reply to a command that was rolled. -/
def success (name : String) (total : Int) (breakdown note : String) (length : Option Int) :
    Except Failure String :=
  match Numeral.print? total with
  | none => .error .unprintable
  | some total =>
    .ok (String.ofList (fit (head name total).toList breakdown.toList (foot note).toList length))

/-- The reply to a command that was not rolled. -/
def failure (name message : String) : String :=
  name ++ ", aconteceu um erro interno...\n" ++ message

end ChatDice.Reply
