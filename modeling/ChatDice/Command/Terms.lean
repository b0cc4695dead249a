import ChatDice.Command.Expression
import ChatDice.Command.TermText

/-!
# The terms of a command

A command is read in two passes. The first, `readTerms`, settles its form: the command word, the
cut into slices, the operator before a first term, the shape of each term, and the rule that only
the first term may have a modifier. The second checks the range rules of every group of dice. So a
malformed command is reported as malformed, whatever numbers stand in it.

`parseWith` finds the terms, or what the command is turned down for; `parse` is the whole reader,
which reports it. `validate` asks about the form alone.
-/

namespace ChatDice.Command

/-- Whether the body of a term names dice. -/
def namesDice (body : List Char) : Bool :=
  body.any isSeparator

/-- Reads one slice. Only a first term may have a modifier. -/
def readTerm (readCount : List Char → Nat) (first : Bool) (slice : List Char) :
    Except Failure Term := do
  let (operator, body) := splitOperator slice
  if namesDice body then
    let spec ← diceSpec readCount body
    if first = false ∧ spec.modifier.isSome then .error (.malformed (.lateModifier slice))
    else return ⟨operator, .dice spec⟩
  else
    let value ← literal body
    return ⟨operator, .literal value⟩

/-- Reads the first slice, which must have no operator. -/
def readFirst (readCount : List Char → Nat) (slice : List Char) : Except Failure Term :=
  if slice.head?.any Operator.isSign then .error (.malformed (.leadingOperator slice))
  else readTerm readCount true slice

/-- Reads the form of a command, with the reader of counts as a parameter. -/
def readTermsWith (readCount : List Char → Nat) (command : List Char) :
    Except Failure (List Term) :=
  match expression? command with
  | none => .error (.malformed (.missingExpression command))
  | some expr =>
    match slices expr with
    | [] => .error (.malformed (.noTerms command))
    | slice :: rest => do
      let term ← readFirst readCount slice
      let terms ← rest.mapM (readTerm readCount false)
      return term :: terms

/-- Reads the form of a command. Counts too long to be in range are capped. -/
def readTerms (command : List Char) : Except Failure (List Term) :=
  readTermsWith Numeral.capped command

/-- Checks the range rules of a term; a literal has none. -/
def checkTerm (limit : Limit) (term : Term) : Except Failure Unit :=
  match term.payload with
  | .dice spec => spec.check limit
  | .literal _ => .ok ()

/-- Checks the range rules of terms from left to right. -/
def checkTerms (limit : Limit) : List Term → Except Failure Unit
  | [] => .ok ()
  | term :: terms => do
    checkTerm limit term
    checkTerms limit terms

/-- Finds the terms of a command or what it is turned down for, with the reader of counts as a
parameter: its form first, then the ranges of its dice. -/
def parseWith (readCount : List Char → Nat) (limit : Limit) (command : List Char) :
    Except Failure (List Term) := do
  let terms ← readTermsWith readCount command
  checkTerms limit terms
  return terms

/-- Reads a command, or reports what it is turned down for. Counts too long to be in range are
capped, and so refused with the others. -/
def parse (limit : Limit) (command : List Char) : Except Failure (List Term) :=
  (parseWith Numeral.capped limit command).mapError Failure.reported

/-- Whether a command has the form of one. A failure that is no fault of form is passed on. -/
def validate (command : List Char) : Except Failure Bool :=
  match readTerms command with
  | .ok _ => .ok true
  | .error (.rejected (.malformed _)) => .ok false
  | .error other => .error other

end ChatDice.Command
