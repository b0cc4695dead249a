import ChatDice.Dice.Term
import ChatDice.Slice

/-!
# The dice that count

A modifier keeps or drops some of the dice rolled. Without one, all dice count, in the order in
which they fell. With one, the dice are put in ascending order and a part of that order counts; how
many dice the modifier counts is first cut down to how many there are.

A critical roll is read off the dice that count, on twenty-sided dice only: a twenty is a success,
and a one, where there is no twenty, is a failure.
-/

namespace ChatDice

/-- The part of the dice in ascending order that a modifier keeps. -/
def ModifierKind.select (kind : ModifierKind) (count : Int) (ordered : List Int) : List Int :=
  let size : Int := ordered.length
  match kind with
  | .keepHighest => Slice.onward (size - count) ordered
  | .keepLowest => Slice.upTo count ordered
  | .dropHighest => Slice.upTo (size - count) ordered
  | .dropLowest => Slice.onward count ordered

/-- The dice that count. -/
def selectDice (faces : List Int) : Option Modifier → List Int
  | none => faces
  | some m => m.kind.select (min m.count faces.length) faces.mergeSort

/-- An outstanding roll of a twenty-sided die. -/
inductive Critical where
  /-- A natural twenty. -/
  | success
  /-- A natural one. -/
  | failure
deriving DecidableEq, Repr

namespace Critical

/-- The line that announces an outstanding roll. -/
def message : Critical → String
  | success => "🎯 CRÍTICO! Acerto Natural 20!"
  | failure => "💀 FALHA CRÍTICA! 1 Natural!"

/-- The outstanding roll among the dice that count, if there is one. -/
def detect (sides : Int) (selected : List Int) : Option Critical :=
  if sides ≠ 20 then none
  else if 20 ∈ selected then some success
  else if 1 ∈ selected then some failure
  else none

/-- The announcement of an outstanding roll, empty when there is none. -/
def note : Option Critical → String
  | none => ""
  | some critical => critical.message

end Critical

end ChatDice
