import ChatDice.Binary64.Shortest
import ChatDice.Json.Value
import ChatDice.Numeral
import ChatDice.Text.Quoted

/-!
# Writing JSON

The text of a value is spread over lines: every item of a list and every member of an object stands
on a line of its own, two blanks further in than its brackets, and an empty list or object is a pair
of brackets. In texts only the quote, the backslash and the control characters below the space are
escaped; all other characters stand as they are.

Not every value can be written. An integer may have more digits than are printed, and half of a pair
that stands alone in a text has no place in a file. Writing stops there, and what has been written
by then stays. `Written` is a text with what stopped it. Texts are handed on in pieces, each of
which is written whole or not at all: in a list, an item that is neither list nor object is one
piece with what comes before it.

* `write` is the text of a value, as far as it is written.
* `stop?` is what stops the writing, if anything does.
-/

namespace ChatDice.Json

open Text (Point Raw)

/-- Why the writing of a value stops. -/
inductive WriteError where
  /-- An integer has more digits than are printed. -/
  | unprintable
  /-- Half of a pair stands alone in a text. -/
  | notEncodable (fault : Text.EncodeFault)
deriving DecidableEq, Repr

/-- The error in words. -/
def WriteError.text : WriteError → String
  | unprintable => Numeral.unprintableMessage
  | notEncodable fault => fault.text

/-- A text that has been written, and what stopped it, if anything did. -/
structure Written where
  /-- The text. -/
  text : List Char
  /-- What stopped the writing. -/
  stop : Option WriteError
deriving DecidableEq, Repr

namespace Written

/-- A text that is written to its end. -/
def all (s : List Char) : Written := ⟨s, none⟩

/-- Nothing is written. -/
def stopped (why : WriteError) : Written := ⟨[], some why⟩

/-- Goes on writing, unless something has stopped it. -/
def andThen (first second : Written) : Written :=
  match first.stop with
  | none => ⟨first.text ++ second.text, second.stop⟩
  | some _ => first

instance : Append Written := ⟨andThen⟩

/-- A text that is written whole, or not at all if halves of pairs stand alone in it. -/
def piece (points : List Point) : Written :=
  match Text.faultFrom (fun _ => false) 0 points with
  | none => all (points.filterMap fun
    | .char c => some c
    | .half _ => none)
  | some fault => stopped (.notEncodable fault)

/-- What is written after a text that is written to its end. -/
theorem all_append (s : List Char) (second : Written) :
    all s ++ second = ⟨s ++ second.text, second.stop⟩ := rfl

/-- Two texts that are written to their ends are one. -/
@[simp] theorem all_append_all (s t : List Char) : all s ++ all t = all (s ++ t) := rfl

/-- What has been stopped does not go on. -/
@[simp] theorem stopped_append (why : WriteError) (second : Written) :
    stopped why ++ second = stopped why := rfl

/-- It does not matter which of three are put together first. -/
theorem append_assoc (first second third : Written) :
    first ++ second ++ third = first ++ (second ++ third) := by
  obtain ⟨s, _ | why⟩ := first
  · obtain ⟨t, _ | why⟩ := second
    · exact congrArg (Written.mk · third.stop) (List.append_assoc s t third.text)
    · rfl
  · rfl

/-- Characters alone are written whole. -/
@[simp] theorem piece_map_char (s : List Char) : piece (s.map .char) = all s := by
  have hfilter : (s.map Point.char).filterMap (fun
      | .char c => some c
      | .half _ => none) = s := by
    induction s with
    | nil => rfl
    | cons c s ih => simp [ih]
  rw [piece, Text.faultFrom_map_char]
  exact congrArg all hfilter

end Written

/-! ## Texts and numbers -/

/-- One character of a text. -/
def writeChar (c : Char) : List Char :=
  if c = '"' then ['\\', '"']
  else if c = '\\' then ['\\', '\\']
  else if c = '\n' then ['\\', 'n']
  else if c = '\r' then ['\\', 'r']
  else if c = '\t' then ['\\', 't']
  else if c = '\x08' then ['\\', 'b']
  else if c = '\x0c' then ['\\', 'f']
  else if c.toNat < 0x20 then '\\' :: 'u' :: Text.hexDigits 4 c.toNat
  else [c]

/-- What stands for one place of a text. -/
def writePoint : Point → List Point
  | .char c => (writeChar c).map .char
  | .half half => [.half half]

/-- A text between quotes. -/
def writeText (text : Raw) : List Point :=
  .char '"' :: (text.points.flatMap writePoint ++ [.char '"'])

/-- A number with a fraction or an exponent. -/
def writeReal : Binary64 → List Char
  | .nan => "NaN".toList
  | .infinite negative => if negative then "-Infinity".toList else "Infinity".toList
  | x => x.text.toList

/-! ## Values -/

/-- A line break and the blanks of a level of nesting. -/
def newLine (depth : Nat) : List Char :=
  '\n' :: List.replicate (2 * depth) ' '

mutual

/-- Writes a value at a level of nesting. What is neither list nor object is one piece with the text
before it. -/
def writeAt (depth : Nat) (before : List Char) : Value → Written
  | .null => .all (before ++ "null".toList)
  | .bool b => .all (before ++ if b then "true".toList else "false".toList)
  | .whole n =>
    if Numeral.isPrintable n then .all (before ++ (toString n).toList) else .stopped .unprintable
  | .real x => .all (before ++ writeReal x)
  | .text text => .piece (before.map .char ++ writeText text)
  | .array items =>
    if items.isEmpty then .all (before ++ ['[', ']'])
    else
      .all before ++ writeItems (depth + 1) ('[' :: newLine (depth + 1)) items ++
        .all (newLine depth ++ [']'])
  | .object members =>
    if members.isEmpty then .all (before ++ ['\x7b', '\x7d'])
    else
      .all before ++ writeMembers (depth + 1) ('\x7b' :: newLine (depth + 1)) members ++
        .all (newLine depth ++ ['\x7d'])

/-- Writes items one after another. Before the first one stands the given text, before each other
one a comma and a line break. -/
def writeItems (depth : Nat) (before : List Char) : List Value → Written
  | [] => .all []
  | item :: items => writeAt depth before item ++ writeItems depth (',' :: newLine depth) items

/-- Writes members one after another, in the same way. -/
def writeMembers (depth : Nat) (before : List Char) : List (Raw × Value) → Written
  | [] => .all []
  | (name, value) :: members =>
    .all before ++ .piece (writeText name) ++ .all [':', ' '] ++ writeAt depth [] value ++
      writeMembers depth (',' :: newLine depth) members

end

/-- The text of a value, as far as it is written. -/
def write (value : Value) : String :=
  String.ofList (writeAt 0 [] value).text

/-- What stops the writing of a value, if anything does. -/
def stop? (value : Value) : Option WriteError :=
  (writeAt 0 [] value).stop

end ChatDice.Json
