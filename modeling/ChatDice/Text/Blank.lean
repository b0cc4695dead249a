/-!
# Blank characters and trimming

Commands are typed by people, so the space between their parts may be any blank character and
not only U+0020. This file fixes that set once, as `isBlank`, and gives the three cuts that every
reader of a command uses: `trimStart`, `trimEnd` and `trim`.

Texts are read as lists of characters. The small lemmas say what a cut leaves: nothing but what
stood there, and no blank at the end that was cut.
-/

namespace ChatDice.Text

/-- A blank character: the line and field separators among the controls, the space, the next-line
control, and the space separators, line separator and paragraph separator of Unicode.

The zero-width space U+200B and the byte order mark U+FEFF are not blank. -/
def isBlank (c : Char) : Bool :=
  let n := c.toNat
  (0x09 ≤ n && n ≤ 0x0D) || (0x1C ≤ n && n ≤ 0x20) || n == 0x85 || n == 0xA0 || n == 0x1680 ||
    (0x2000 ≤ n && n ≤ 0x200A) || n == 0x2028 || n == 0x2029 || n == 0x202F || n == 0x205F ||
    n == 0x3000

/-- The text without its leading blanks. -/
def trimStart (s : List Char) : List Char :=
  s.dropWhile isBlank

/-- The text without its trailing blanks. -/
def trimEnd (s : List Char) : List Char :=
  (s.reverse.dropWhile isBlank).reverse

/-- The text without the blanks at either end. -/
def trim (s : List Char) : List Char :=
  trimEnd (trimStart s)

/-- There is nothing to take from the front of the empty text. -/
@[simp] theorem trimStart_nil : trimStart [] = [] := rfl

/-- There is nothing to take from its end either. -/
@[simp] theorem trimEnd_nil : trimEnd [] = [] := rfl

/-- A blank at the front is taken away. -/
theorem trimStart_cons_of_blank {c : Char} (h : isBlank c = true) (s : List Char) :
    trimStart (c :: s) = trimStart s := by
  simp [trimStart, h]

/-- What begins with no blank stays as it is. -/
theorem trimStart_cons_of_not_blank {c : Char} (h : isBlank c = false) (s : List Char) :
    trimStart (c :: s) = c :: s := by
  simp [trimStart, h]

/-- What ends in no blank stays as it is. -/
theorem trimEnd_append_of_not_blank {c : Char} (h : isBlank c = false) (s : List Char) :
    trimEnd (s ++ [c]) = s ++ [c] := by
  simp [trimEnd, h]

end ChatDice.Text
