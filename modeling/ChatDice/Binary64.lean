/-!
# Binary floating-point numbers, exactly

A settings file may give a number with a fraction or an exponent. Such a number is kept as a
binary64 value, that is a sign, a mantissa and a power of two, or an infinity, or no number at
all. Everything here is done in exact integer arithmetic:

* `ofRatio` and `ofDecimal` round a fraction or a decimal to the nearest value, a tie going to the
  even mantissa;
* `compareInt` compares a value with an integer without rounding either.
-/

namespace ChatDice

/-- A binary64 value. -/
inductive Binary64 where
  /-- The value `± mantissa * 2 ^ exponent`; zero has a sign too. -/
  | finite (negative : Bool) (mantissa : Nat) (exponent : Int)
  /-- Beyond every finite value. -/
  | infinite (negative : Bool)
  /-- Not a number. -/
  | nan
deriving DecidableEq, Repr, Inhabited

namespace Binary64

/-- The number of bits of a full mantissa. -/
def precision : Nat := 53

/-- The exponent of the finest values. -/
def minExponent : Int := -1074

/-- The exponent of the coarsest values. -/
def maxExponent : Int := 971

/-- The quotient of two numbers rounded to the nearest whole number, a tie going to the even one. -/
def roundQuotient (num den : Nat) : Nat :=
  let quotient := num / den
  let twice := 2 * (num % den)
  if twice < den then quotient
  else if den < twice then quotient + 1
  else if quotient % 2 = 0 then quotient else quotient + 1

/-- The fraction `num / den` divided by `2 ^ exponent`. -/
def scaleBy (num den : Nat) (exponent : Int) : Nat × Nat :=
  if 0 ≤ exponent then (num, den * Nat.pow 2 exponent.toNat)
  else (num * Nat.pow 2 (-exponent).toNat, den)

/-- The exponent at which the integer part of `num / den` fills the mantissa, or the least exponent
if that is greater. -/
def exponentFor (num den : Nat) : Int :=
  let guess : Int := (num.log2 : Int) - (den.log2 : Int) - (precision - 1 : Nat)
  let (n, d) := scaleBy num den guess
  max minExponent (if n / d < Nat.pow 2 (precision - 1) then guess - 1 else guess)

/-- The value nearest to `num / den`. -/
def ofRatio (negative : Bool) (num den : Nat) : Binary64 :=
  if num = 0 then finite negative 0 minExponent
  else
    let exponent := exponentFor num den
    let (n, d) := scaleBy num den exponent
    let mantissa := roundQuotient n d
    let (mantissa, exponent) :=
      if mantissa = Nat.pow 2 precision then (Nat.pow 2 (precision - 1), exponent + 1)
      else (mantissa, exponent)
    if maxExponent < exponent then infinite negative else finite negative mantissa exponent

/-- The value nearest to `digits * 10 ^ exponent`. Exponents so far out that the answer cannot
depend on the digits are settled without computing the power. -/
def ofDecimal (negative : Bool) (digits : Nat) (exponent : Int) : Binary64 :=
  let magnitude : Int := (Nat.toDigits 10 digits).length + exponent
  if digits = 0 ∨ magnitude < -330 then finite negative 0 minExponent
  else if 310 < magnitude then infinite negative
  else if 0 ≤ exponent then ofRatio negative (digits * Nat.pow 10 exponent.toNat) 1
  else ofRatio negative digits (Nat.pow 10 (-exponent).toNat)

/-- How a value compares with an integer; no number compares with nothing. -/
def compareInt : Binary64 → Int → Option Ordering
  | finite negative mantissa exponent, n =>
    let signed : Int := if negative then -(mantissa : Int) else mantissa
    if 0 ≤ exponent then some (compare (signed * Int.pow 2 exponent.toNat) n)
    else some (compare signed (n * Int.pow 2 (-exponent).toNat))
  | infinite negative, _ => some (if negative then .lt else .gt)
  | nan, _ => none

end Binary64

end ChatDice
