import Understudy.Number.Binary64

/-!
# The shortest decimal that reads back

Every finite binary number is the nearest one for a whole interval of decimals. The decimal
written for it is the one of fewest digits in that interval, and among those the nearest to the
number. For a given count of digits only the two decimals around the number can qualify: if any
decimal of the grid lies in the interval, so does one of its two neighbours.
-/

namespace Understudy

/-- A positive decimal `digits · 10 ^ exponent`. -/
structure Decimal where
  /-- The digits, read as one number. -/
  digits : Nat
  /-- The power of ten that scales them. -/
  exponent : Int
deriving DecidableEq

/-- How many decimal digits the number has; zero has none. -/
def digitCount (n : Nat) : Nat :=
  if n = 0 then 0 else digitCount (n / 10) + 1

/-- Which of two equally near decimals is chosen. -/
inductive Tie
  /-- The greater one. -/
  | up
  /-- The one with an even last digit. -/
  | even
deriving DecidableEq

/-- The decimals that round to one binary number: the number itself and both ends of their
    interval, all over one denominator. -/
structure RoundingInterval where
  /-- The number. -/
  value : Nat
  /-- The lower end. -/
  low : Nat
  /-- The upper end. -/
  high : Nat
  /-- The common denominator. -/
  den : Nat
  /-- Whether the ends round to the number as well. -/
  inclusive : Bool

namespace RoundingInterval

/-- The interval of a finite number other than zero. The ends lie halfway to the neighbours, and
    the lower neighbour of a power of two is only half as far away. -/
def of (x : Binary64) : RoundingInterval :=
  let m := x.significand
  let below := if m = pow2 52 ∧ -1074 < x.exponent then 1 else 2
  let up := pow2 (x.exponent - 2).toNat
  ⟨4 * m * up, (4 * m - below) * up, (4 * m + 2) * up, pow2 (2 - x.exponent).toNat, m % 2 == 0⟩

/-- Whether the ratio lies in the interval. -/
def holds (i : RoundingInterval) (num den : Nat) : Bool :=
  if i.inclusive then decide (i.low * den ≤ num * i.den ∧ num * i.den ≤ i.high * den)
  else decide (i.low * den < num * i.den ∧ num * i.den < i.high * den)

/-- The count of digits before the decimal point of the number, less the count of zeros after it:
    `10 ^ (k - 1) ≤ value < 10 ^ k`. -/
def magnitude (i : RoundingInterval) : Int :=
  if i.den ≤ i.value then digitCount (i.value / i.den)
  else 1 - digitCount ((i.den - 1) / i.value)

/-- The decimal of at most the given count of digits nearest to the number, if one lies in the
    interval. -/
def decimal? (i : RoundingInterval) (tie : Tie) (count : Nat) : Option Decimal :=
  let exponent : Int := i.magnitude - count
  let grow := pow10 exponent.toNat
  let shrink := pow10 (-exponent).toNat
  let down := i.value * shrink / (i.den * grow)
  -- Twice the distance from the lower decimal, against one step of the grid.
  let twice := 2 * (i.value * shrink % (i.den * grow))
  let nearer := if twice < i.den * grow then down
    else if i.den * grow < twice then down + 1
    else match tie with
      | .up => down + 1
      | .even => if down % 2 = 0 then down else down + 1
  let farther := if nearer = down then down + 1 else down
  if i.holds (nearer * grow) shrink then some ⟨nearer, exponent⟩
  else if i.holds (farther * grow) shrink then some ⟨farther, exponent⟩
  else none

end RoundingInterval

/-- The decimal without the zeros at its end. -/
def Decimal.trim (d : Decimal) : Decimal :=
  if h : d.digits ≠ 0 ∧ d.digits % 10 = 0 then Decimal.trim ⟨d.digits / 10, d.exponent + 1⟩ else d
termination_by d.digits
decreasing_by
  have := h.1
  omega

/-- The shortest decimal that reads back as the finite number, which is not zero. Seventeen
    digits always suffice. -/
def Binary64.shortest (x : Binary64) (tie : Tie) : Decimal :=
  let interval := RoundingInterval.of x
  let found := (List.range 17).findSome? fun n => interval.decimal? tie (n + 1)
  (found.getD ⟨x.significand, 0⟩).trim

end Understudy
