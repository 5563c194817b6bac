import Understudy.Number.Rounding
import Understudy.Number.Word

/-!
# Binary floating-point numbers of 64 bits

A number is its bit pattern: a sign, an exponent field of 11 bits and a fraction of 52. All that
is computed from it is exact integer arithmetic on these three, so it can be reasoned about.

* `sameNumber_comm`, `sameNumber_self_iff`: two patterns denote the same number in either
  order, and a pattern denotes the same number as itself unless it is not a number.
* `toInt?` is the integer that a pattern denotes exactly, if it does.
-/

namespace Understudy

/-- A floating-point number, given by its bit pattern. -/
structure Binary64 where
  /-- Sign, exponent field and fraction, from the highest bit down. -/
  bits : UInt64
deriving DecidableEq, Inhabited

namespace Binary64

/-- Whether the sign bit is set. -/
def isNegative (x : Binary64) : Bool :=
  decide (pow2 63 ≤ x.bits.toNat)

/-- The biased exponent, between 0 and 2047. -/
def exponentField (x : Binary64) : Nat :=
  x.bits.toNat / pow2 52 % pow2 11

/-- The trailing 52 bits. -/
def fraction (x : Binary64) : Nat :=
  x.bits.toNat % pow2 52

/-- Neither infinite nor "not a number". -/
def isFinite (x : Binary64) : Bool :=
  x.exponentField != 2047

/-- The patterns that denote no number. -/
def isNaN (x : Binary64) : Bool :=
  x.exponentField == 2047 && x.fraction != 0

/-- Zero of either sign. -/
def isZero (x : Binary64) : Bool :=
  x.exponentField == 0 && x.fraction == 0

/-- The integer that is scaled by a power of two. -/
def significand (x : Binary64) : Nat :=
  if x.exponentField = 0 then x.fraction else pow2 52 + x.fraction

/-- The exponent of the power of two that scales the significand. -/
def exponent (x : Binary64) : Int :=
  max x.exponentField 1 - 1075

/-- Both patterns denote numbers and they denote the same one; the two zeros are one number. -/
def sameNumber (x y : Binary64) : Bool :=
  !x.isNaN && !y.isNaN && (x == y || x.isZero && y.isZero)

theorem sameNumber_comm (x y : Binary64) : x.sameNumber y = y.sameNumber x := by
  have swap : (x == y) = (y == x) := Bool.eq_iff_iff.2 (by rw [beq_iff_eq, beq_iff_eq, eq_comm])
  simp only [sameNumber, swap]
  cases x.isNaN <;> cases y.isNaN <;> cases x.isZero <;> cases y.isZero <;> rfl

theorem sameNumber_self_iff (x : Binary64) : x.sameNumber x = true ↔ x.isNaN = false := by
  simp [sameNumber]

/-- The integer that the pattern denotes, if it denotes one. -/
def toInt? (x : Binary64) : Option Int :=
  let whole : Option Nat :=
    if 0 ≤ x.exponent then some (x.significand * pow2 x.exponent.toNat)
    else if x.significand % pow2 (-x.exponent).toNat = 0 then
      some (x.significand / pow2 (-x.exponent).toNat)
    else none
  if x.isFinite then whole.map fun n => if x.isNegative then -(n : Int) else n else none

/-- The integer of 64 bits that the pattern denotes, if it denotes one. -/
def toInt64? (x : Binary64) : Option Int64 :=
  x.toInt?.bind int64?

/-- The pattern with the given sign, exponent field and fraction. -/
def ofFields (negative : Bool) (exponentField fraction : Nat) : Binary64 :=
  ⟨UInt64.ofNat ((if negative then pow2 63 else 0) + exponentField * pow2 52 + fraction)⟩

/-- The infinity of the given sign. -/
def infinity (negative : Bool) : Binary64 := ofFields negative 2047 0

/-- The zero of the given sign. -/
def zero (negative : Bool) : Binary64 := ofFields negative 0 0

/-- The pattern that stands for "not a number". -/
def nan : Binary64 := ofFields false 2047 (pow2 51)

/-- The number with the significand and exponent of a member of the format of 64 bits. -/
def ofParts (negative : Bool) (significand : Nat) (exponent : Int) : Binary64 :=
  if significand < pow2 52 then ofFields negative 0 significand
  else ofFields negative (exponent + 1075).toNat (significand - pow2 52)

/-- The number nearest to the ratio, infinite if the ratio lies beyond the greatest number. -/
def ofRatio (negative : Bool) (num den : Nat) : Binary64 :=
  if num = 0 then zero negative
  else match BinaryFormat.double.nearest? num den with
    | some (significand, exponent) => ofParts negative significand exponent
    | none => infinity negative

/-- The number nearest to the integer. -/
def ofInt (n : Int) : Binary64 :=
  ofRatio (n < 0) n.natAbs 1

/-- The absolute value of a finite number as a ratio. -/
def ratio (x : Binary64) : Nat × Nat :=
  (x.significand * pow2 x.exponent.toNat, pow2 (-x.exponent).toNat)

end Binary64

end Understudy
