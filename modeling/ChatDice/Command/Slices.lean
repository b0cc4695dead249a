import ChatDice.Text.Blank
import ChatDice.Dice.Term

/-!
# Cutting an expression at its operators

An expression is cut immediately before every operator sign. What stands before the first sign is
the head; every sign with the text up to the next one is a slice of its own. The blanks around a
sign and at both ends of the expression carry no meaning and are dropped; blanks inside a term are
kept, so that the readers of terms can refuse them.
-/

namespace ChatDice.Command

open Text

/-- The text before the first operator sign, and each sign with the text up to the next sign. -/
def cut : List Char → List Char × List (Char × List Char)
  | [] => ([], [])
  | c :: s =>
    let (head, pieces) := cut s
    if Operator.isSign c then ([], (c, head) :: pieces) else (c :: head, pieces)

/-- The slices of an expression: the trimmed head, unless it is blank, and each sign with its
trimmed text. -/
def slices (expr : List Char) : List (List Char) :=
  let (head, pieces) := cut expr
  let first := trim head
  (if first = [] then [] else [first]) ++ pieces.map fun (sign, body) => sign :: trim body

/-- Takes the operator off a slice; a slice without one is added. -/
def splitOperator : List Char → Operator × List Char
  | [] => (.add, [])
  | c :: s =>
    match Operator.ofChar? c with
    | some operator => (operator, s)
    | none => (.add, c :: s)

/-- The empty text is one empty piece. -/
@[simp] theorem cut_nil : cut [] = ([], []) := rfl

/-- A sign at the front comes after an empty piece. -/
theorem cut_cons_of_sign {c : Char} (h : Operator.isSign c = true) (s : List Char) :
    cut (c :: s) = ([], (c, (cut s).1) :: (cut s).2) := by
  simp [cut, h]

/-- Any other character at the front belongs to the first piece. -/
theorem cut_cons_of_not_sign {c : Char} (h : Operator.isSign c = false) (s : List Char) :
    cut (c :: s) = (c :: (cut s).1, (cut s).2) := by
  simp [cut, h]

/-- Nothing is lost at the cuts. -/
theorem cut_append (s : List Char) :
    (cut s).1 ++ (cut s).2.flatMap (fun piece => piece.1 :: piece.2) = s := by
  induction s with
  | nil => rfl
  | cons c s ih => cases h : Operator.isSign c <;> simp [cut, h, ih]

end ChatDice.Command
