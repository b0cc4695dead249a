import ChatDice.Text.Blank

/-!
# The expression of a command

A command starts with `/rolar` or `/r`, in any case, and goes on with a blank and the expression to
roll. This file recognises the command word and cuts the expression out.

`stripWord?` takes a word off the front of a text without regard to ASCII case. `expression?` takes
the whole command apart; `addressed` is the looser test that decides whether a chat message is meant
for the dice at all, and asks only that the command word end there.
-/

namespace ChatDice.Command

open Text

/-- The command words after the slash, the longer one first. -/
def words : List (List Char) :=
  [['r', 'o', 'l', 'a', 'r'], ['r']]

/-- The rest of a text after a lower-case word that it starts with, in any ASCII case. -/
def stripWord? : List Char → List Char → Option (List Char)
  | [], s => some s
  | _ :: _, [] => none
  | w :: word, c :: s => if c.toLower = w then stripWord? word s else none

/-- The expression after a command word: some blanks and then at least one other character. -/
def argument? : List Char → Option (List Char)
  | [] => none
  | c :: s =>
    if isBlank c then
      match trimStart s with
      | [] => none
      | rest => some rest
    else none

/-- The expression of a command, without the blanks around it. -/
def expression? (command : List Char) : Option (List Char) :=
  match trim command with
  | '/' :: rest => words.findSome? fun word => (stripWord? word rest).bind argument?
  | _ => none

/-- Whether a text after a command word ends the word: it is empty or goes on with a blank. -/
def endsWord : List Char → Bool
  | [] => true
  | c :: _ => isBlank c

/-- Whether a chat message is a command: it begins with the slash and a command word, and the word
ends there. -/
def addressed : List Char → Bool
  | '/' :: rest => words.any fun word => (stripWord? word rest).any endsWord
  | _ => false

end ChatDice.Command
