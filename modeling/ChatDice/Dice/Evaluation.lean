import ChatDice.Command.Terms
import ChatDice.Dice.Arithmetic
import ChatDice.Dice.Generator
import ChatDice.Dice.Selection
import ChatDice.Log.Record

/-!
# Rolling a command

The terms of a command are evaluated strictly from left to right. Each gives a value, a text and
perhaps an outstanding roll; its operator combines the value with the total so far, and its text is
added to the breakdown that people see. Of several outstanding rolls the last one is announced.

* `Payload.appraise` rolls or reads one payload.
* `Tally.add` takes one term into the account, and `tally` all of them.
* `evaluateTerms` gives the result of a list of terms, and `evaluate` that of a command; `session`
  evaluates one command after another with the same dice.
* `evaluateWith` asks for a generator first if none is given.

What an evaluation leaves behind is a `Play`: its outcome, the state of the dice, and the records
for the log. Numbers are put into texts on the way, and one that is too long to print ends the
evaluation where it stands: a number drawn, before the next term is rolled; a total, at the very
end.
-/

namespace ChatDice

open Log (Record)

/-- The result of a roll. -/
structure RollResult where
  /-- The number rolled. -/
  total : Int
  /-- How the number came about. -/
  breakdown : String
  /-- The last outstanding roll. -/
  critical : Option Critical
deriving DecidableEq, Repr

/-- What a computation with dice leaves behind. -/
structure Play (σ α : Type) where
  /-- What came of it. -/
  outcome : Except Failure α
  /-- The state of the dice afterwards. -/
  dice : σ
  /-- What it noted, at every level. -/
  log : List Record

/-! ## One term -/

/-- What one term contributes. -/
structure Appraisal where
  /-- The number that it counts as. -/
  value : Int
  /-- How it is shown, or why it cannot be. -/
  shown : Except Failure String
  /-- The outstanding roll in it. -/
  critical : Option Critical
  /-- What is noted about it. -/
  log : List Record

/-- Dice that count, as people see them. -/
def showDice (selected : List Int) : String :=
  "(" ++ " + ".intercalate (selected.map toString) ++ ")"

/-- A list of numbers, as the log shows it. -/
def listNumbers (numbers : List Int) : String :=
  "[" ++ ", ".intercalate (numbers.map toString) ++ "]"

/-- What is to be noted about a group of dice: the roll, and what a modifier leaves of it. -/
def DiceSpec.notes (spec : DiceSpec) (faces selected : List Int) : List (Except Failure String) :=
  compose (spec.count :: spec.sides :: faces)
      ("擲骰 " ++ toString spec.count ++ "d" ++ toString spec.sides ++ ": " ++
        listNumbers faces) ::
    match spec.modifier with
    | none => []
    | some m =>
      [compose (m.count :: selected)
        ("套用修正 " ++ String.ofList m.kind.letters ++ toString m.count ++ ": " ++
          listNumbers selected)]

/-- Notes one text after another, up to the first that could not be composed: whether all were
noted, and what was. -/
def noteAll : List (Except Failure String) → Except Failure Unit × List Record
  | [] => (.ok (), [])
  | .error failure :: _ => (.error failure, [])
  | .ok text :: texts =>
    let (noted, log) := noteAll texts
    (noted, .debug text :: log)

/-- What a group of dice contributes, once its dice have fallen. It is noted before it is shown. -/
def DiceSpec.appraise (spec : DiceSpec) (faces : List Int) : Appraisal :=
  let selected := selectDice faces spec.modifier
  let (noted, log) := noteAll (spec.notes faces selected)
  { value := selected.foldl (· + ·) 0
    shown := noted.bind fun _ => compose selected (showDice selected)
    critical := Critical.detect spec.sides selected
    log := log }

variable {σ : Type}

/-- What a payload contributes. Dice are rolled; a count below one rolls nothing. -/
def Payload.appraise (g : Generator σ) : Payload → σ → Appraisal × σ
  | .literal value, s => (⟨value, compose [value] (toString value), none, []⟩, s)
  | .dice spec, s =>
    let (faces, s) := g.roll spec.sides spec.count.toNat s
    (spec.appraise faces, s)

/-! ## The account of all terms -/

/-- The account of the terms evaluated so far. -/
structure Tally where
  /-- The total. -/
  total : Int
  /-- The breakdown; nothing before the first term. -/
  breakdown : Option String
  /-- The last outstanding roll. -/
  critical : Option Critical
deriving DecidableEq, Repr

namespace Tally

/-- The account before the first term. -/
def empty : Tally := ⟨0, none, none⟩

/-- A breakdown with one more term. The first term shows no operator. -/
def extend (operator : Operator) (shown : String) : Option String → String
  | none => shown
  | some breakdown => breakdown ++ " " ++ operator.sign ++ " " ++ shown

/-- Takes a term into the account: what cannot be shown is not taken, and then the operator has its
say. -/
def add (tally : Tally) (operator : Operator) (term : Appraisal) : Except Failure Tally :=
  match term.shown with
  | .error failure => .error failure
  | .ok shown =>
    match operator.apply tally.total term.value with
    | .error failure => .error failure
    | .ok total =>
      .ok ⟨total, some (extend operator shown tally.breakdown), term.critical <|> tally.critical⟩

/-- The result that an account stands for. -/
def result (tally : Tally) : RollResult :=
  ⟨tally.total, tally.breakdown.getD "", tally.critical⟩

end Tally

/-- Takes terms into an account from left to right, up to the first that cannot be taken. -/
def tally (g : Generator σ) : List Term → Tally → σ → Play σ Tally
  | [], account, s => ⟨.ok account, s, []⟩
  | term :: terms, account, s =>
    let (appraisal, s) := term.payload.appraise g s
    match account.add term.operator appraisal with
    | .error failure => ⟨.error failure, s, appraisal.log⟩
    | .ok account =>
      let rest := tally g terms account s
      { rest with log := appraisal.log ++ rest.log }

/-- The total in print. -/
def RollResult.printTotal (result : RollResult) : Except Failure String :=
  compose [result.total] (toString result.total)

/-- What is noted about a result whose total has been printed. -/
def RollResult.note (result : RollResult) (total : String) : Record :=
  .debug ("結果: total=" ++ total ++ ", visual=" ++ result.breakdown)

/-- The result of a list of terms. -/
def evaluateTerms (g : Generator σ) (terms : List Term) (s : σ) : Play σ RollResult :=
  let play := tally g terms .empty s
  match play.outcome with
  | .error failure => ⟨.error failure, play.dice, play.log⟩
  | .ok account =>
    let result := account.result
    match result.printTotal with
    | .error failure => ⟨.error failure, play.dice, play.log⟩
    | .ok total => ⟨.ok result, play.dice, play.log ++ [result.note total]⟩

/-! ## Commands -/

/-- What is noted when a command is turned down. Other failures are left to the caller. -/
def rejectionNotes (command : String) : Except Failure RollResult → List Record
  | .error (.rejected why) =>
    [.warning ("無效的指令: " ++ Text.quote command.toList ++ " (" ++ why.detail ++ ")")]
  | _ => []

/-- Reads a command and rolls it, with a generator at hand. -/
def evaluate (g : Generator σ) (limit : Limit) (command : String) (s : σ) : Play σ RollResult :=
  let play : Play σ RollResult :=
    match Command.parse limit command.toList with
    | .error failure => ⟨.error failure, s, []⟩
    | .ok terms => evaluateTerms g terms s
  { play with
    log := .debug ("收到指令: " ++ command) :: (play.log ++ rejectionNotes command play.outcome) }

/-- An evaluation for which generators may have been made. -/
structure Evaluation (σ α : Type) extends Play σ α where
  /-- How many were made. -/
  generators : Nat

/-- Reads a command and rolls it. It is rolled with the generator that is given; where none is
given, a new one is made for it. -/
def evaluateWith (given : Option (Generator σ)) (new : Generator σ) (limit : Limit)
    (command : String) (s : σ) : Evaluation σ RollResult :=
  let (g, generators) := match given with
    | some g => (g, 0)
    | none => (new, 1)
  { evaluate g limit command s with generators }

/-- With a generator made for it, a command is rolled as with that generator at hand. -/
@[simp] theorem toPlay_evaluateWith_none (new : Generator σ) (limit : Limit) (command : String)
    (s : σ) : (evaluateWith none new limit command s).toPlay = evaluate new limit command s :=
  rfl

/-- Where no generator is given, one is made. -/
@[simp] theorem generators_evaluateWith_none (new : Generator σ) (limit : Limit) (command : String)
    (s : σ) : (evaluateWith none new limit command s).generators = 1 :=
  rfl

/-- Rolls commands one after another; each starts with the dice as the one before left them. -/
def session (g : Generator σ) (limit : Limit) : List String → σ → List (Play σ RollResult)
  | [], _ => []
  | command :: commands, s =>
    let play := evaluate g limit command s
    play :: session g limit commands play.dice

end ChatDice
