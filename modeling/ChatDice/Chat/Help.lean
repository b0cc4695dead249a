/-!
# Help

The commands that people can give besides rolling dice, and what they are told. A help command
answers with a plain text or with a framed text that has a title and a colour.

`Entry` describes a command as the chat service lists it; `rollEntries` and `helpEntries` are the
two groups of commands of this program.
-/

namespace ChatDice.Help

/-- A command as the chat service lists it. -/
structure Entry where
  /-- Its name. -/
  name : String
  /-- Other names for it. -/
  aliases : List String
  /-- What it does. -/
  description : String
  /-- The group that it belongs to. -/
  group : String
deriving DecidableEq, Repr

/-- A text in a frame. -/
structure Frame where
  /-- The line above the text. -/
  title : String
  /-- The text. -/
  body : String
  /-- The colour of the frame, eight bits each of red, green and blue. -/
  color : Nat
deriving DecidableEq, Repr

/-- What a help command answers. -/
inductive Answer where
  /-- A plain text. -/
  | plain (text : String)
  /-- A text in a frame. -/
  | framed (frame : Frame)
deriving DecidableEq, Repr

/-- The help commands. -/
inductive Topic where
  /-- How dice are rolled. -/
  | commands
  /-- A word of welcome. -/
  | start
deriving DecidableEq, Repr

/-- The group of the commands that roll. -/
def rollGroup : String := "Dice"

/-- The group of the commands that help. -/
def helpGroup : String := "Help"

/-- The entry of a help command. -/
def Topic.entry : Topic → Entry
  | commands => ⟨"comandos", ["c"], "顯示指令說明", helpGroup⟩
  | start => ⟨"start", [], "顯示歡迎訊息", helpGroup⟩

/-- The entries of the help commands. -/
def helpEntries : List Entry :=
  [Topic.commands.entry, Topic.start.entry]

/-- The entries of the commands that roll. -/
def rollEntries : List Entry :=
  [⟨"r", [], "擲骰子，例如 2d20m1+3", rollGroup⟩, ⟨"rolar", [], "擲骰子，例如 2d20m1+3", rollGroup⟩]

/-- How dice are rolled. -/
def guideText : String :=
  "**/r <expressão>** ou **/rolar <expressão>**\n" ++
  "Rola dados no formato `[quantidade]d<lados>`, com números e operadores " ++
  "`+ - * /` avaliados da esquerda para a direita.\n\n" ++
  "**Modificadores** (apenas no primeiro grupo de dados)\n" ++
  "`/r 2d20m1` (rola 2d20 mantendo o maior)\n" ++
  "`/r 2d20mm1` (rola 2d20 mantendo o menor)\n" ++
  "`/r 2d20sM1` (rola 2d20 soltando o maior)\n" ++
  "`/r 2d20sm1` (rola 2d20 soltando o menor)\n\n" ++
  "Em d20, um 20 natural é crítico e um 1 natural é falha crítica."

/-- A word of welcome. -/
def welcomeText : String :=
  "Olá! Eu sou o RPG Dice Bot 🎲\n" ++
  "Use `/r 2d20m1+3` para rolar dados ou `/comandos` para ver todos os comandos."

/-- What a help command answers. -/
def Topic.answer : Topic → Answer
  | commands => .framed ⟨"Comandos do RPG Dice Bot", guideText, 0x1abc9c⟩
  | start => .plain welcomeText

end ChatDice.Help
