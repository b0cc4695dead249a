import ChatDice.Binary64
import ChatDice.Text.Raw

/-!
# JSON values

The values that a settings file can hold. Integers and numbers with a fraction or an exponent are
different things here: the first are exact and of any size, the second are binary64 values. Texts
are raw ones, in which halves of pairs may stand alone; most texts have none and are a
`Value.string`. The members of an object stand in the order in which their names first occur, each
name once.
-/

namespace ChatDice.Json

/-- A JSON value. -/
inductive Value where
  /-- Nothing. -/
  | null
  /-- A truth value. -/
  | bool (b : Bool)
  /-- An integer. -/
  | whole (n : Int)
  /-- A number with a fraction or an exponent. -/
  | real (x : Binary64)
  /-- A text. -/
  | text (text : Text.Raw)
  /-- A list of values. -/
  | array (items : List Value)
  /-- Named values. -/
  | object (members : List (Text.Raw × Value))
deriving Repr, Inhabited

namespace Value

/-- A text of characters alone. -/
@[match_pattern]
abbrev string (s : String) : Value :=
  .text (.proper s)

mutual

/-- How deep lists and objects nest in a value; a value that is neither has depth zero. -/
def depth : Value → Nat
  | .array items => depthOfItems items + 1
  | .object members => depthOfMembers members + 1
  | _ => 0

/-- The greatest depth among values. -/
def depthOfItems : List Value → Nat
  | [] => 0
  | item :: items => max item.depth (depthOfItems items)

/-- The greatest depth among named values. -/
def depthOfMembers : List (Text.Raw × Value) → Nat
  | [] => 0
  | (_, value) :: members => max value.depth (depthOfMembers members)

end

end Value

/-- Named values in order. -/
abbrev Members := List (Text.Raw × Value)

namespace Members

/-- Gives a name a value: in its place if the name is there, else at the end. -/
def put (name : Text.Raw) (value : Value) : Members → Members
  | [] => [(name, value)]
  | (other, old) :: rest =>
    if other = name then (name, value) :: rest else (other, old) :: put name value rest

/-- The value of a name. -/
def get? (name : Text.Raw) (members : Members) : Option Value :=
  (members.find? fun member => member.1 == name).map (·.2)

/-- The names in order. -/
def names (members : Members) : List Text.Raw :=
  members.map (·.1)

/-- A name has the value that it was given. -/
@[simp] theorem get?_put_self (name : Text.Raw) (value : Value) (members : Members) :
    get? name (put name value members) = some value := by
  induction members with
  | nil => simp [put, get?]
  | cons member rest ih =>
    obtain ⟨other, old⟩ := member
    by_cases h : other = name
    · simp [put, get?, h]
    · have hb : (other == name) = false := by simpa using h
      simpa [put, get?, h, hb] using ih

/-- All other names have the values that they had. -/
theorem get?_put_of_ne {name other : Text.Raw} (h : other ≠ name) (value : Value)
    (members : Members) : get? other (put name value members) = get? other members := by
  induction members with
  | nil => simp [put, get?, Ne.symm h]
  | cons member rest ih =>
    obtain ⟨first, old⟩ := member
    by_cases hf : first = name
    · subst hf
      simp [put, get?, Ne.symm h]
    · by_cases ho : first = other
      · subst ho
        simp [put, get?, hf]
      · have hb : (first == other) = false := by simpa using ho
        simpa [put, get?, hf, hb] using ih

end Members

end ChatDice.Json
