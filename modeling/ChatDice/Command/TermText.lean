import ChatDice.Command.Slices
import ChatDice.Dice.Rejection
import ChatDice.Numeral

/-!
# The text of one term

The body of a term, what is left of a slice without its operator, is either a group of dice, such
as `2d20m1`, or a literal such as `3`. This file reads both, and holds the range rules that a group
of dice must satisfy.

* `number` reads sides and literals, which have at most nine significant digits.
* `diceText?` takes the text of a group of dice apart; `diceSpec` gives its meaning, with the
  reader of counts as a parameter.
* `DiceSpec.check` is the list of range rules, in the order in which they are reported.
* `diceTerm` and `literalTerm` read one term on its own, operator included.

A body may end in one line feed, as `atEnd` says. It is passed over after a group of dice; after a
literal it belongs to the numeral, where it counts as one of the nine characters.
-/

namespace ChatDice.Command

/-- Whether a text has come to its end; one last line feed does not count. -/
def atEnd (s : List Char) : Bool :=
  s == [] || s == ['\n']

/-- Reads sides or a literal. The text counts without its leading zeros. -/
def number (text : List Char) : Except Failure Nat :=
  let significant := Numeral.significant text
  if significant.length > Numeral.maxDigits then .error (.malformed (.tooManyDigits text))
  else
    match Numeral.integer? significant with
    | some n => .ok n
    | none => .error (.notNumeral significant)

/-! ## Groups of dice -/

/-- The parts of the text of a group of dice. -/
structure DiceText where
  /-- The digits of the count; empty when there are none. -/
  count : List Char
  /-- The digits of the sides. -/
  sides : List Char
  /-- The letters and the digits of the modifier. -/
  modifier : Option (List Char × List Char)
deriving DecidableEq, Repr

/-- Whether a character may stand in the letters of a modifier. -/
def isModifierLetter (c : Char) : Bool :=
  c == 'm' || c == 's' || c == 'M'

/-- Whether a character separates the count from the sides. -/
def isSeparator (c : Char) : Bool :=
  c == 'd' || c == 'D'

/-- The modifier after the sides: absent at the end of the text, else letters and digits up to the
end. -/
def modifierText? (s : List Char) : Option (Option (List Char × List Char)) :=
  if atEnd s then some none
  else
    let letters := s.takeWhile isModifierLetter
    let rest := s.dropWhile isModifierLetter
    let digits := rest.takeWhile Char.isDigit
    if letters = [] ∨ digits = [] ∨ atEnd (rest.dropWhile Char.isDigit) = false then none
    else some (some (letters, digits))

/-- Takes the text of a group of dice apart. -/
def diceText? (body : List Char) : Option DiceText :=
  match body.dropWhile Char.isDigit with
  | [] => none
  | c :: rest =>
    let sides := rest.takeWhile Char.isDigit
    if isSeparator c = false ∨ sides = [] then none
    else
      (modifierText? (rest.dropWhile Char.isDigit)).map fun modifier =>
        ⟨body.takeWhile Char.isDigit, sides, modifier⟩

/-- The modifier with the given letters and digits, if there is one. -/
def modifier (readCount : List Char → Nat) :
    Option (List Char × List Char) → Except Failure (Option Modifier)
  | none => .ok none
  | some (letters, digits) =>
    match ModifierKind.ofLetters? letters with
    | some kind => .ok (some ⟨kind, readCount digits⟩)
    | none => .error (.malformed (.unknownModifier letters))

/-- The group of dice that a text describes. A missing count is one. -/
def diceSpec (readCount : List Char → Nat) (body : List Char) : Except Failure DiceSpec :=
  match diceText? body with
  | none => .error (.malformed (.malformedDice body))
  | some text => do
    let modifier ← modifier readCount text.modifier
    let count := if text.count = [] then 1 else readCount text.count
    let sides ← number text.sides
    return ⟨count, sides, modifier⟩

end ChatDice.Command

namespace ChatDice

/-- The range rules for a group of dice: at least one die, no more than the limit, at least one
side, and no more dice kept or dropped than there are. The group is turned down for the first rule
that it breaks; `Failure.reported` says what is met then. -/
def DiceSpec.check (spec : DiceSpec) (limit : Limit) : Except Failure Unit :=
  if spec.count < 1 then .error (.rejected .noDice)
  else if limit.exceededBy spec.count then .error (.rejected (.tooManyDice limit))
  else if spec.sides < 1 then .error (.rejected (.badSides spec.sides))
  else
    match spec.modifier with
    | none => .ok ()
    | some m =>
      if spec.count < m.count then .error (.rejected (.modifierTooLarge m.count spec.count))
      else .ok ()

end ChatDice

namespace ChatDice.Command

/-- Reads a term of dice and checks its ranges. -/
def diceTerm (limit : Limit) (term : List Char) : Except Failure (Operator × DiceSpec) := do
  let (operator, body) := splitOperator term
  let spec ← diceSpec Numeral.capped body
  (spec.check limit).mapError Failure.reported
  return (operator, spec)

/-! ## Literals -/

/-- Reads a literal: digits up to the end. -/
def literal (body : List Char) : Except Failure Nat :=
  if body.takeWhile Char.isDigit = [] ∨ atEnd (body.dropWhile Char.isDigit) = false then
    .error (.malformed (.malformedLiteral body))
  else number body

/-- Reads a term without dice. -/
def literalTerm (term : List Char) : Except Failure (Operator × Nat) := do
  let (operator, body) := splitOperator term
  let value ← literal body
  return (operator, value)

end ChatDice.Command
