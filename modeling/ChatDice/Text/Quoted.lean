import ChatDice.Text.Printable

/-!
# Quoted texts

Log lines and error details name a piece of what a person typed. They show it *quoted*, so that a
blank, a line break or a control character in it can be seen and cannot break the line:

* the quote is `'`, unless the text holds a `'` and no `"`; then it is `"`;
* the quote in use and the backslash are written with a backslash before them;
* tab, line feed and carriage return are written `\t`, `\n` and `\r`;
* every other character that is not printable is written by its code point in lower-case
  hexadecimal: two digits after `\x`, four after `\u` or eight after `\U`, the shortest that fits.
-/

namespace ChatDice.Text

/-- The digit of a value below sixteen, in lower case. -/
def hexDigit (n : Nat) : Char :=
  if n < 10 then Char.ofNat (0x30 + n) else Char.ofNat (0x61 + (n - 10))

/-- The last `width` hexadecimal digits of `n`, the most significant first. -/
def hexDigits : Nat → Nat → List Char
  | 0, _ => []
  | width + 1, n => hexDigits width (n / 16) ++ [hexDigit (n % 16)]

/-- A code point as an escape of the shortest form that holds it. -/
def codePointEscape (n : Nat) : List Char :=
  if n < 0x100 then '\\' :: 'x' :: hexDigits 2 n
  else if n < 0x10000 then '\\' :: 'u' :: hexDigits 4 n
  else '\\' :: 'U' :: hexDigits 8 n

/-- The mark that a text is quoted with. -/
def quoteMark (s : List Char) : Char :=
  if s.contains '\'' && !s.contains '"' then '"' else '\''

/-- One character of a text quoted with `mark`. -/
def quoteChar (mark c : Char) : List Char :=
  if c = mark ∨ c = '\\' then ['\\', c]
  else if c = '\t' then ['\\', 't']
  else if c = '\n' then ['\\', 'n']
  else if c = '\r' then ['\\', 'r']
  else if isPrintable c then [c]
  else codePointEscape c.toNat

/-- A text between quotes, with everything unprintable in it escaped. -/
def quoted (s : List Char) : List Char :=
  let mark := quoteMark s
  mark :: (s.flatMap (quoteChar mark) ++ [mark])

/-- A text between quotes, as a string. -/
def quote (s : List Char) : String :=
  String.ofList (quoted s)

end ChatDice.Text
