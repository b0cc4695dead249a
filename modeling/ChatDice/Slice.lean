/-!
# Parts of a list, with bounds that may be counted from the end

A bound is an integer. From zero up it counts elements from the front; a negative bound counts them
from the end. A bound outside the list stands for its nearest end.
-/

namespace ChatDice.Slice

variable {α : Type}

/-- The number of elements before a bound, in a list of the given length. -/
def position (length : Nat) (bound : Int) : Nat :=
  if bound < 0 then ((length : Int) + bound).toNat else bound.toNat

/-- The elements before a bound. -/
def upTo (bound : Int) (xs : List α) : List α :=
  xs.take (position xs.length bound)

/-- The elements from a bound on. -/
def onward (bound : Int) (xs : List α) : List α :=
  xs.drop (position xs.length bound)

/-- A list is its two parts at a bound, one after the other. -/
@[simp] theorem upTo_append_onward (bound : Int) (xs : List α) :
    upTo bound xs ++ onward bound xs = xs :=
  List.take_append_drop _ _

/-- A bound from the front takes that many elements. -/
@[simp] theorem upTo_natCast (n : Nat) (xs : List α) : upTo n xs = xs.take n := by
  have h : ¬(n : Int) < 0 := by omega
  simp [upTo, position, h]

/-- A bound from the front drops that many elements. -/
@[simp] theorem onward_natCast (n : Nat) (xs : List α) : onward n xs = xs.drop n := by
  have h : ¬(n : Int) < 0 := by omega
  simp [onward, position, h]

end ChatDice.Slice
