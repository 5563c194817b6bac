import Understudy.Number.Power

/-!
# Rounding a ratio to a binary format

A binary format holds the numbers `m · 2 ^ e` whose significand `m` fits into a given number of
bits and whose exponent `e` lies between two bounds. A positive ratio is rounded to the nearest
of them, halves to the even significand.
-/

namespace Understudy

/-- The numbers `m · 2 ^ e` with `m < 2 ^ precision` and `least ≤ e ≤ greatest`. -/
structure BinaryFormat where
  /-- Bits of a significand. -/
  precision : Nat
  /-- The least exponent, that of the numbers too small for a full significand. -/
  least : Int
  /-- The greatest exponent. -/
  greatest : Int

namespace BinaryFormat

/-- The format of 64 bits. -/
def double : BinaryFormat := ⟨53, -1074, 971⟩

/-- The format of 32 bits. -/
def single : BinaryFormat := ⟨24, -149, 104⟩

end BinaryFormat

/-- The quotient rounded to the nearest integer, halves to the even one. -/
def roundDiv (num den : Nat) : Nat :=
  let quotient := num / den
  let twice := 2 * (num % den)
  if den < twice ∨ (den = twice ∧ quotient % 2 = 1) then quotient + 1 else quotient

/-- The exponent of the greatest power of two that is at most the positive ratio. -/
def ratioLog (num den : Nat) : Int :=
  let guess : Int := (num.log2 : Int) - den.log2
  if num * pow2 (-guess).toNat < den * pow2 guess.toNat then guess - 1 else guess

/-- The significand and exponent of the number of the format nearest to the positive ratio, or
    nothing if the ratio lies beyond the greatest number. -/
def BinaryFormat.nearest? (format : BinaryFormat) (num den : Nat) : Option (Nat × Int) :=
  let exponent := max format.least (ratioLog num den - (format.precision - 1))
  let rounded := roundDiv (num * pow2 (-exponent).toNat) (den * pow2 exponent.toNat)
  -- Rounding up may need one bit more than there is; the result is then a power of two.
  let (significand, exponent) :=
    if rounded = pow2 format.precision then (rounded / 2, exponent + 1) else (rounded, exponent)
  if exponent ≤ format.greatest then some (significand, exponent) else none

end Understudy
