/-!
# The terms of a roll

A command is a list of terms. A term is an operator with a payload: a group of dice, or a literal
number. A group of dice may carry a modifier, which keeps or drops some of the dice rolled.

These are plain data. Counts, sides and literals are integers of any size and sign, and an operator
may be unknown: what the reader of commands never produces can still be evaluated, and the range
rules are statements about these values and no part of their types.
-/

namespace ChatDice

/-- What a modifier does with the dice rolled. -/
inductive ModifierKind where
  /-- Keep the highest dice. -/
  | keepHighest
  /-- Keep the lowest dice. -/
  | keepLowest
  /-- Drop the highest dice. -/
  | dropHighest
  /-- Drop the lowest dice. -/
  | dropLowest
deriving DecidableEq, Repr, Inhabited

namespace ModifierKind

/-- All kinds of modifier. -/
def all : List ModifierKind :=
  [keepHighest, keepLowest, dropHighest, dropLowest]

/-- The letters that stand for a kind in a command. -/
def letters : ModifierKind → List Char
  | keepHighest => ['m']
  | keepLowest => ['m', 'm']
  | dropHighest => ['s', 'M']
  | dropLowest => ['s', 'm']

/-- The kind that a group of letters stands for; upper and lower case differ. -/
def ofLetters? (text : List Char) : Option ModifierKind :=
  all.find? fun kind => kind.letters == text

/-- The letters of a modifier stand for it. -/
theorem ofLetters?_letters (kind : ModifierKind) : ofLetters? kind.letters = some kind := by
  cases kind <;> rfl

/-- No other letters do. -/
theorem letters_of_ofLetters? {text : List Char} {kind : ModifierKind}
    (h : ofLetters? text = some kind) : kind.letters = text := by
  simpa using List.find?_some h

end ModifierKind

/-- A modifier: how many dice to keep or to drop, and which. -/
structure Modifier where
  /-- Whether the highest or the lowest are kept or dropped. -/
  kind : ModifierKind
  /-- How many are kept or dropped. -/
  count : Int
deriving DecidableEq, Repr, Inhabited

/-- A group of equal dice. -/
structure DiceSpec where
  /-- How many dice are rolled. -/
  count : Int
  /-- How many sides each has. -/
  sides : Int
  /-- What is kept of the roll; everything when there is no modifier. -/
  modifier : Option Modifier
deriving DecidableEq, Repr, Inhabited

/-- How a term is combined with the total of the terms before it. -/
inductive Operator where
  /-- Addition. -/
  | add
  /-- Subtraction. -/
  | sub
  /-- Multiplication. -/
  | mul
  /-- Division that drops the fraction. -/
  | div
  /-- A sign that is none of the four; no command yields it, and it cannot be applied. -/
  | unknown (sign : String)
deriving DecidableEq, Repr, Inhabited

namespace Operator

/-- The sign of an operator as people write it. -/
def sign : Operator → String
  | add => "+"
  | sub => "-"
  | mul => "*"
  | div => "/"
  | unknown sign => sign

/-- The operator that a character stands for. -/
def ofChar? : Char → Option Operator
  | '+' => some add
  | '-' => some sub
  | '*' => some mul
  | '/' => some div
  | _ => none

/-- The operator with a given sign. -/
def ofSign (sign : String) : Operator :=
  match sign.toList with
  | [c] => (ofChar? c).getD (unknown sign)
  | _ => unknown sign

/-- Whether a character is the sign of an operator. -/
def isSign (c : Char) : Bool :=
  (ofChar? c).isSome

end Operator

/-- What a term contributes: dice to roll, or a number. -/
inductive Payload where
  /-- A group of dice. -/
  | dice (spec : DiceSpec)
  /-- A literal number. -/
  | literal (value : Int)
deriving DecidableEq, Repr, Inhabited

/-- One term of a command. -/
structure Term where
  /-- How the term is combined with what stands before it. -/
  operator : Operator
  /-- What is combined. -/
  payload : Payload
deriving DecidableEq, Repr, Inhabited

end ChatDice
