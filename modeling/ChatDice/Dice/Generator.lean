/-!
# Where the numbers come from

A roll needs numbers that somebody chooses. A `Generator` is that somebody: from a state it draws a
number between two bounds and moves on to a next state. Nothing else in the library is random, so
every roll is a function of the command and the state.

A generator is free to answer what it likes; `InRange` says that it keeps to the bounds. Two are
given here, a fixed list of answers and a congruential one, and `recorded` adds to any generator a
list of the draws made.
-/

namespace ChatDice

/-- A source of numbers with states `σ`. -/
structure Generator (σ : Type) where
  /-- Draws a number between a low and a high bound, both included, and gives the next state. -/
  draw : σ → Int → Int → Int × σ

/-- One draw: what was asked for, and what was answered. -/
structure Draw where
  /-- The least number asked for. -/
  low : Int
  /-- The greatest number asked for. -/
  high : Int
  /-- The number drawn. -/
  answer : Int
deriving DecidableEq, Repr, Inhabited

/-- What a draw asked for. -/
def Draw.bounds (draw : Draw) : Int × Int :=
  (draw.low, draw.high)

namespace Generator

variable {σ : Type}

/-- Every answer is within the bounds, wherever there is a number between them. -/
def InRange (g : Generator σ) : Prop :=
  ∀ s low high, low ≤ high → low ≤ (g.draw s low high).1 ∧ (g.draw s low high).1 ≤ high

/-- A generator that answers from a list in turn, starting again at its end, and does not look at
the bounds. The state is the number of answers given. -/
def scripted (answers : Array Int) : Generator Nat where
  draw s low _ := ((answers[s % answers.size]?).getD low, s + 1)

/-- The modulus of the congruential generator. -/
def modulus : Nat := Nat.pow 2 64

/-- A congruential generator: the state is multiplied and shifted modulo `2 ^ 64`, and the upper
bits of the new state, reduced to the width of the bounds, give the answer. -/
def congruential : Generator Nat where
  draw s low high :=
    let next := (s * 6364136223846793005 + 1442695040888963407) % modulus
    (low + Int.fmod (next / Nat.pow 2 33 : Nat) (high - low + 1), next)

/-- The same generator with a list of the draws made, the latest first. -/
def recorded (g : Generator σ) : Generator (σ × List Draw) where
  draw s low high :=
    let (answer, next) := g.draw s.1 low high
    (answer, next, ⟨low, high, answer⟩ :: s.2)

/-- Rolls dice of equal sides one after another, in the order in which they fall. -/
def roll (g : Generator σ) (sides : Int) : Nat → σ → List Int × σ
  | 0, s => ([], s)
  | count + 1, s =>
    let (face, s) := g.draw s 1 sides
    let (faces, s) := roll g sides count s
    (face :: faces, s)

/-- No dice leave the generator as it is. -/
@[simp] theorem roll_zero (g : Generator σ) (sides : Int) (s : σ) : g.roll sides 0 s = ([], s) :=
  rfl

/-- The first die is drawn before the others. -/
theorem roll_succ (g : Generator σ) (sides : Int) (count : Nat) (s : σ) :
    g.roll sides (count + 1) s =
      ((g.draw s 1 sides).1 :: (g.roll sides count (g.draw s 1 sides).2).1,
        (g.roll sides count (g.draw s 1 sides).2).2) :=
  rfl

/-- There is one answer to each die. -/
theorem length_roll (g : Generator σ) (sides : Int) (count : Nat) (s : σ) :
    (g.roll sides count s).1.length = count := by
  induction count generalizing s with
  | zero => rfl
  | succ count ih => simp [roll_succ, ih]

end Generator

end ChatDice
