import ChatDice.Json.Value
import ChatDice.Numeral

/-!
# Reading JSON

`read` takes the text of a file to a value. The language is JSON with `NaN`, `Infinity` and
`-Infinity` as numbers; a repeated name in an object keeps its last value, control characters must
be escaped in texts, and an escape may spell half of a pair of code units that has no other half.
Lists and objects nest at most `maxDepth` deep.

A text that is not of this language is refused with what was missing and where. The place is kept
as the rest of the text from there on, so that no reader has to count; `Error.message` counts lines
and columns once, when somebody asks.

Values nest, so the readers of values, lists and objects call each other. Their recursion is on a
budget of steps that `read` derives from the length of the text and that no text exhausts: between
two characters read there are at most two calls.
-/

namespace ChatDice.Json

/-- What is wrong with a text. -/
inductive Fault where
  /-- A value is missing. -/
  | noValue
  /-- The name of a member is missing. -/
  | noName
  /-- The colon after a name is missing. -/
  | noColon
  /-- The comma or the end after a value is missing. -/
  | noComma
  /-- A control character stands in a text. -/
  | controlCharacter
  /-- A text has no end. -/
  | endlessText
  /-- A backslash stands before a character that it does not go with. -/
  | badEscape
  /-- A code point is not written in four digits. -/
  | badCodePoint
  /-- Something stands after the value. -/
  | extraData
  /-- The text starts with a byte order mark. -/
  | byteOrderMark
deriving DecidableEq, Repr

/-- A fault in words. -/
def Fault.text : Fault → String
  | noValue => "Expecting value"
  | noName => "Expecting property name enclosed in double quotes"
  | noColon => "Expecting ':' delimiter"
  | noComma => "Expecting ',' delimiter"
  | controlCharacter => "Invalid control character at"
  | endlessText => "Unterminated string starting at"
  | badEscape => "Invalid \\escape"
  | badCodePoint => "Invalid \\uXXXX escape"
  | extraData => "Extra data"
  | byteOrderMark => "Unexpected UTF-8 BOM (decode using utf-8-sig)"

/-- Why a text is refused. -/
inductive Error where
  /-- A fault, and the text from its place on. -/
  | malformed (fault : Fault) (rest : List Char)
  /-- An integer has more digits than can be read. -/
  | tooManyDigits (count : Nat)
  /-- Lists and objects nest deeper than can be read. -/
  | tooDeep
deriving DecidableEq, Repr

/-- The error in words, for the text that it was found in. -/
def Error.message (document : List Char) : Error → String
  | malformed fault rest =>
    let position := document.length - rest.length
    let before := document.take position
    let line := before.count '\n' + 1
    let column := (before.reverse.takeWhile (· != '\n')).length + 1
    fault.text ++ ": line " ++ toString line ++ " column " ++ toString column ++ " (char " ++
      toString position ++ ")"
  | tooManyDigits count =>
    "Exceeds the limit (4300 digits) for integer string conversion: value has " ++
      toString count ++ " digits; use sys.set_int_max_str_digits() to increase the limit"
  | tooDeep => "lists and objects nest too deep"

/-! ## Blanks -/

/-- A character that may stand between the parts of a document. -/
def isSpace (c : Char) : Bool :=
  c == ' ' || c == '\t' || c == '\n' || c == '\r'

/-- The text after the blanks at its front. -/
def skipSpace (s : List Char) : List Char :=
  s.dropWhile isSpace

/-! ## Texts -/

/-- The value of a hexadecimal digit. -/
def hexValue? (c : Char) : Option Nat :=
  let n := c.toNat
  if 0x30 ≤ n ∧ n ≤ 0x39 then some (n - 0x30)
  else if 0x41 ≤ n ∧ n ≤ 0x46 then some (n - 0x41 + 10)
  else if 0x61 ≤ n ∧ n ≤ 0x66 then some (n - 0x61 + 10)
  else none

/-- The code unit that four hexadecimal digits stand for. -/
def codeUnit? (a b c d : Char) : Option Nat := do
  let a ← hexValue? a
  let b ← hexValue? b
  let c ← hexValue? c
  let d ← hexValue? d
  return ((a * 16 + b) * 16 + c) * 16 + d

/-- The character that a backslash and a letter stand for. -/
def simpleEscape? : Char → Option Char
  | '"' => some '"'
  | '\\' => some '\\'
  | '/' => some '/'
  | 'b' => some '\x08'
  | 'f' => some '\x0c'
  | 'n' => some '\n'
  | 'r' => some '\r'
  | 't' => some '\t'
  | _ => none

/-- Puts a unit before the units read from the rest of a text. -/
def before (unit : Nat) : Except Error (List Nat × List Char) → Except Error (List Nat × List Char)
  | .ok (units, rest) => .ok (unit :: units, rest)
  | .error e => .error e

/-- Reads a text up to its closing quote: its code units, and what stands after the quote. The
first argument is the document from the opening quote on. -/
def textUnits (start : List Char) : List Char → Except Error (List Nat × List Char)
  | [] => .error (.malformed .endlessText start)
  | '"' :: rest => .ok ([], rest)
  | ['\\'] => .error (.malformed .endlessText start)
  | '\\' :: 'u' :: a :: b :: c :: d :: rest =>
    match codeUnit? a b c d, rest with
    | some unit, _ :: _ => before unit (textUnits start rest)
    | _, _ => .error (.malformed .badCodePoint ('u' :: a :: b :: c :: d :: rest))
  | '\\' :: c :: rest =>
    match simpleEscape? c with
    | some e => before e.toNat (textUnits start rest)
    | none =>
      if c = 'u' then .error (.malformed .badCodePoint (c :: rest))
      else .error (.malformed .badEscape ('\\' :: c :: rest))
  | c :: rest =>
    if c.toNat < 0x20 then .error (.malformed .controlCharacter (c :: rest))
    else before c.toNat (textUnits start rest)

/-- A unit that begins a pair. -/
def isHigh (unit : Nat) : Bool := 0xD800 ≤ unit && unit < 0xDC00

/-- A unit that ends a pair. -/
def isLow (unit : Nat) : Bool := 0xDC00 ≤ unit && unit < 0xE000

/-- What one unit stands for: its character, or half of a pair that stands alone. -/
def unitPoint (unit : Nat) : Text.Point :=
  if h : 0xD800 ≤ unit ∧ unit < 0xE000 then .half ⟨unit, h.1, h.2⟩ else .char (Char.ofNat unit)

/-- What code units stand for. A high unit and a low one after it are one character. -/
def joinUnits : List Nat → List Text.Point
  | [] => []
  | [unit] => [unitPoint unit]
  | high :: low :: rest =>
    if isHigh high && isLow low then
      .char (Char.ofNat (0x10000 + (high - 0xD800) * 0x400 + (low - 0xDC00))) :: joinUnits rest
    else unitPoint high :: joinUnits (low :: rest)

/-- The text that code units stand for. -/
def textOf (units : List Nat) : Text.Raw :=
  .ofPoints (joinUnits units)

/-- Reads the text after an opening quote. -/
def readText (rest : List Char) : Except Error (Text.Raw × List Char) :=
  match textUnits ('"' :: rest) rest with
  | .ok (units, rest) => .ok (textOf units, rest)
  | .error e => .error e

/-! ## Numbers -/

/-- The digits of a fraction after the point, and the rest; empty when there is no fraction. -/
def fractionDigits (s : List Char) : List Char × List Char :=
  match s with
  | '.' :: rest =>
    let digits := rest.takeWhile Char.isDigit
    if digits = [] then ([], s) else (digits, rest.dropWhile Char.isDigit)
  | _ => ([], s)

/-- The sign of an exponent, and the text after it. -/
def exponentSign (s : List Char) : Bool × List Char :=
  match s with
  | '-' :: rest => (true, rest)
  | '+' :: rest => (false, rest)
  | _ => (false, s)

/-- The exponent at the front of a text, if there is one, and the rest. -/
def exponent? (s : List Char) : Option Int × List Char :=
  match s with
  | c :: rest =>
    if c = 'e' ∨ c = 'E' then
      let (negative, rest) := exponentSign rest
      let digits := rest.takeWhile Char.isDigit
      if digits = [] then (none, s)
      else
        let size : Int := Numeral.value digits
        (some (if negative then -size else size), rest.dropWhile Char.isDigit)
    else (none, s)
  | [] => (none, s)

/-- The digits before the point: one zero, or digits of which the first is none. -/
def wholeDigits? : List Char → Option (List Char × List Char)
  | '0' :: rest => some (['0'], rest)
  | c :: rest =>
    if c.isDigit then
      some ((c :: rest).takeWhile Char.isDigit, (c :: rest).dropWhile Char.isDigit)
    else none
  | [] => none

/-- The number with the given digits before and after the point. Without fraction and exponent it
is an integer, whose digits are limited in number. -/
def numberValue (negative : Bool) (whole fraction : List Char) (exponent : Option Int) :
    Except Error Value :=
  if fraction = [] ∧ exponent = none then
    if Numeral.maxPrintedDigits < whole.length then .error (.tooManyDigits whole.length)
    else
      let n : Int := Numeral.value whole
      .ok (.whole (if negative then -n else n))
  else
    .ok (.real (.ofDecimal negative (Numeral.value (whole ++ fraction))
      (exponent.getD 0 - fraction.length)))

/-- Reads a number. -/
def readNumber (s : List Char) : Except Error (Value × List Char) := do
  let (negative, rest) := match s with
    | '-' :: rest => (true, rest)
    | _ => (false, s)
  match wholeDigits? rest with
  | none => .error (.malformed .noValue s)
  | some (whole, rest) =>
    let (fraction, rest) := fractionDigits rest
    let (exponent, rest) := exponent? rest
    let value ← numberValue negative whole fraction exponent
    return (value, rest)

/-! ## Values -/

/-- The words that stand for values. -/
def wordValues : List (List Char × Value) :=
  [("null".toList, .null), ("true".toList, .bool true), ("false".toList, .bool false),
   ("NaN".toList, .real .nan), ("Infinity".toList, .real (.infinite false)),
   ("-Infinity".toList, .real (.infinite true))]

/-- The rest of a text after a word that it starts with. -/
def stripWord? : List Char → List Char → Option (List Char)
  | [], s => some s
  | _ :: _, [] => none
  | w :: word, c :: s => if c = w then stripWord? word s else none

/-- Reads a value that is a word or a number. -/
def readPlain (s : List Char) : Except Error (Value × List Char) :=
  match wordValues.findSome? fun (word, value) => (stripWord? word s).map (value, ·) with
  | some answer => .ok answer
  | none => readNumber s

/-- Reads a name, its colon and the blanks after it. -/
def readName (s : List Char) : Except Error (Text.Raw × List Char) :=
  match s with
  | '"' :: rest => do
    let (name, rest) ← readText rest
    match skipSpace rest with
    | ':' :: rest => return (name, skipSpace rest)
    | rest => .error (.malformed .noColon rest)
  | _ => .error (.malformed .noName s)

/-- How deep lists and objects may nest in a document. -/
def maxDepth : Nat := 987

mutual

/-- Reads the value at the front of a text. The second argument is how deep lists and objects may
still nest. -/
def readValue : Nat → Nat → List Char → Except Error (Value × List Char)
  | 0, _, s => .error (.malformed .noValue s)
  | fuel + 1, room, s =>
    match s with
    | '"' :: rest => do
      let (text, rest) ← readText rest
      return (.text text, rest)
    | '[' :: rest =>
      match room with
      | 0 => .error .tooDeep
      | room + 1 =>
        match skipSpace rest with
        | ']' :: rest => return (.array [], rest)
        | rest => do
          let (items, rest) ← readItems fuel room rest
          return (.array items, rest)
    | '{' :: rest =>
      match room with
      | 0 => .error .tooDeep
      | room + 1 =>
        match skipSpace rest with
        | '}' :: rest => return (.object [], rest)
        | rest => do
          let (members, rest) ← readMembers fuel room [] rest
          return (.object members, rest)
    | _ => readPlain s

/-- Reads the items of a list up to its end. -/
def readItems : Nat → Nat → List Char → Except Error (List Value × List Char)
  | 0, _, s => .error (.malformed .noValue s)
  | fuel + 1, room, s => do
    let (item, rest) ← readValue fuel room s
    match skipSpace rest with
    | ']' :: rest => return ([item], rest)
    | ',' :: rest => do
      let (items, rest) ← readItems fuel room (skipSpace rest)
      return (item :: items, rest)
    | rest => .error (.malformed .noComma rest)

/-- Reads the members of an object up to its end, after those already read. -/
def readMembers : Nat → Nat → Members → List Char → Except Error (Members × List Char)
  | 0, _, _, s => .error (.malformed .noValue s)
  | fuel + 1, room, known, s => do
    let (name, rest) ← readName s
    let (value, rest) ← readValue fuel room rest
    let known := known.put name value
    match skipSpace rest with
    | '}' :: rest => return (known, rest)
    | ',' :: rest => readMembers fuel room known (skipSpace rest)
    | rest => .error (.malformed .noComma rest)

end

/-- A budget of steps that no text of the given length exhausts. -/
def budget (length : Nat) : Nat := 2 * length + 2

/-- Reads a document: one value, with blanks around it. -/
def read (document : List Char) : Except Error Value :=
  match document with
  | '\ufeff' :: _ => .error (.malformed .byteOrderMark document)
  | _ => do
    let (value, rest) ← readValue (budget document.length) maxDepth (skipSpace document)
    match skipSpace rest with
    | [] => return value
    | rest => .error (.malformed .extraData rest)

end ChatDice.Json
