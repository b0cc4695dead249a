import ChatDice.Binary64

/-!
# The shortest decimal text of a binary64 value

A value is written with the fewest significant digits that still read back as that value, and of
the candidates with that many digits the nearest one.

`Shortest.decimal` finds the digits. For one digit, two digits, and so on up to seventeen, it takes
the two neighbours of the value on the grid of decimals with that many digits and asks whether one
of them lies in the interval of reals that round to the value; the first grid with a hit decides.
All of it is exact arithmetic on fractions.

`text` is the written form: positional from `0.0001` up to below `10 ^ 16`, always with a point, and
with an exponent of at least two digits outside that range.
-/

namespace ChatDice.Binary64

namespace Shortest

/-- A fraction of natural numbers. -/
structure Ratio where
  /-- The numerator. -/
  num : Nat
  /-- The denominator. -/
  den : Nat

namespace Ratio

/-- The fraction `n * base ^ exponent`. -/
def ofPower (n base : Nat) (exponent : Int) : Ratio :=
  if 0 ≤ exponent then ⟨n * Nat.pow base exponent.toNat, 1⟩
  else ⟨n, Nat.pow base (-exponent).toNat⟩

/-- The order of fractions. -/
def lt (a b : Ratio) : Bool :=
  a.num * b.den < b.num * a.den

/-- The whole part of the quotient of two fractions. -/
def quotient (a b : Ratio) : Nat :=
  (a.num * b.den) / (a.den * b.num)

/-- The distance between two fractions. -/
def distance (a b : Ratio) : Ratio :=
  let x := a.num * b.den
  let y := b.num * a.den
  ⟨max x y - min x y, a.den * b.den⟩

end Ratio

/-- Whether a fraction lies among the reals that round to `mantissa * 2 ^ exponent`. The interval
reaches half a step up and half a step down, only a quarter of a step down below a power of two,
and has its ends in it when the mantissa is even. -/
def roundsTo (mantissa : Nat) (exponent : Int) (x : Ratio) : Bool :=
  let below := if mantissa = Nat.pow 2 (precision - 1) ∧ minExponent < exponent then 1 else 2
  let low := Ratio.ofPower (4 * mantissa - below) 2 (exponent - 2)
  let high := Ratio.ofPower (4 * mantissa + 2) 2 (exponent - 2)
  if mantissa % 2 = 0 then !x.lt low && !high.lt x else low.lt x && x.lt high

/-- The number of digits before the point of a positive value; not positive when the value starts
with zeros after the point. -/
def magnitude (value : Ratio) : Int :=
  let shift : Nat := 400
  (Nat.toDigits 10 (value.num * Nat.pow 10 shift / value.den)).length - (shift : Int)

/-- The neighbour of the value with `count` significant digits that rounds to it, if there is one,
with the power of ten that it is counted in. -/
def candidate? (mantissa : Nat) (exponent : Int) (count : Nat) : Option (Nat × Int) :=
  let value := Ratio.ofPower mantissa 2 exponent
  let place := magnitude value - count
  let low := value.quotient (Ratio.ofPower 1 10 place)
  let gridPoint (n : Nat) := Ratio.ofPower n 10 place
  let lowHit := roundsTo mantissa exponent (gridPoint low)
  let highHit := roundsTo mantissa exponent (gridPoint (low + 1))
  if lowHit && highHit then
    let lowFar := value.distance (gridPoint low)
    let highFar := value.distance (gridPoint (low + 1))
    if lowFar.lt highFar || (!highFar.lt lowFar && low % 2 == 0) then some (low, place)
    else some (low + 1, place)
  else if lowHit then some (low, place)
  else if highHit then some (low + 1, place)
  else none

/-- The significant digits of a positive value and the position of the point after them, counted
from before the first digit. -/
def decimal (mantissa : Nat) (exponent : Int) : List Char × Int :=
  let (digits, place) :=
    ((List.range 17).findSome? fun n => candidate? mantissa exponent (n + 1)).getD (mantissa, 0)
  let written := Nat.toDigits 10 digits
  ((written.reverse.dropWhile (· == '0')).reverse, written.length + place)

end Shortest

/-- An exponent with its sign and at least two digits. -/
def exponentText (exponent : Int) : List Char :=
  let digits := Nat.toDigits 10 exponent.natAbs
  (if exponent < 0 then '-' else '+') :: (if digits.length < 2 then '0' :: digits else digits)

/-- The decimal with the given significant digits and point, positional where it is short. -/
def positional (digits : List Char) (point : Int) : List Char :=
  if -4 < point ∧ point ≤ 16 then
    if point ≤ 0 then '0' :: '.' :: (List.replicate (-point).toNat '0' ++ digits)
    else if digits.length ≤ point then
      digits ++ List.replicate (point - digits.length).toNat '0' ++ ['.', '0']
    else digits.take point.toNat ++ '.' :: digits.drop point.toNat
  else
    match digits with
    | [] => []
    | [c] => c :: 'e' :: exponentText (point - 1)
    | c :: rest => c :: '.' :: (rest ++ 'e' :: exponentText (point - 1))

/-- The shortest text that reads back as the value. -/
def text : Binary64 → String
  | nan => "nan"
  | infinite negative => if negative then "-inf" else "inf"
  | finite negative mantissa exponent =>
    let magnitude :=
      if mantissa = 0 then ['0', '.', '0']
      else
        let (digits, point) := Shortest.decimal mantissa exponent
        positional digits point
    String.ofList (if negative then '-' :: magnitude else magnitude)

end ChatDice.Binary64
