import ChatDice.Binary64.Shortest
import ChatDice.Numeral

/-!
# The limit on the number of dice

How many dice one group may have is configured, and the settings file may write that number as an
integer, as a number with a fraction, or as a truth value, which counts as one or zero. All three
are limits; they differ in how they are shown, and they are compared exactly. An integer with too
many digits to be printed is a limit like any other, until it is to be shown.
-/

namespace ChatDice

/-- The greatest number of dice that a group may have. -/
inductive Limit where
  /-- An integer. -/
  | whole (n : Int)
  /-- A number with a fraction or an exponent. -/
  | real (x : Binary64)
  /-- A truth value. -/
  | flag (b : Bool)
deriving DecidableEq, Repr, Inhabited

namespace Limit

/-- How a limit compares with an integer. -/
def compareInt : Limit → Int → Option Ordering
  | whole n, m => some (compare n m)
  | real x, m => x.compareInt m
  | flag b, m => some (compare (if b then 1 else 0) m)

/-- Whether the limit is below a number of dice. -/
def exceededBy (limit : Limit) (count : Int) : Bool :=
  limit.compareInt count == some .lt

/-- Whether the limit is at least `low` and below `high`. -/
def between (limit : Limit) (low high : Int) : Bool :=
  (limit.compareInt low == some .gt || limit.compareInt low == some .eq) &&
    limit.compareInt high == some .lt

/-- Whether the limit can be shown to people. -/
def isPrintable : Limit → Bool
  | whole n => Numeral.isPrintable n
  | real _ => true
  | flag _ => true

/-- The limit as it is shown to people, if it can be. -/
def text : Limit → String
  | whole n => toString n
  | real x => x.text
  | flag true => "True"
  | flag false => "False"

/-- The limit in force where none is configured. -/
def standard : Limit := whole 1000

end Limit

end ChatDice
