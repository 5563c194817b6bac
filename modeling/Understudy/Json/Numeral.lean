import Understudy.Json.Basic
import Understudy.Number.DecimalReading

/-!
# Numbers in documents

A numeral without fraction and exponent is an integer if it fits into 64 bits. Every other numeral
is a floating-point number. It is computed from as many leading digits as fit into an unsigned
integer of 64 bits, by scaling with powers of ten; each step rounds, so long numerals may come
out one unit off the nearest number. A numeral whose value is beyond all floating-point numbers
is a fault, one that is too small is zero.
-/

namespace Understudy

/-- A numeral taken apart. -/
structure Numeral where
  /-- Whether it begins with a minus sign. -/
  negative : Bool
  /-- The digits before the point. -/
  whole : List Char
  /-- The digits behind the point, if there is one. -/
  fraction : Option (List Char)
  /-- The exponent of ten, if there is one. -/
  exponent : Option Int

namespace Numeral

/-- Takes digits onto a number while it fits into 64 bits, and counts those taken. -/
def takeDigits (sofar : Nat) : List Char → Nat × Nat
  | [] => (sofar, 0)
  | c :: rest =>
    let next := 10 * sofar + (c.toNat - '0'.toNat)
    if next < pow2 64 then
      let (total, count) := takeDigits next rest
      (total, count + 1)
    else (sofar, 0)

/-- The floating-point number nearest to the power of ten. -/
def powerOfTen (n : Nat) : Binary64 := .ofRatio false (pow10 n) 1

/-- The product, rounded. -/
def product (x y : Binary64) : Binary64 :=
  .ofRatio false (x.ratio.1 * y.ratio.1) (x.ratio.2 * y.ratio.2)

/-- The quotient, rounded. -/
def quotient (x y : Binary64) : Binary64 :=
  .ofRatio false (x.ratio.1 * y.ratio.2) (x.ratio.2 * y.ratio.1)

/-- The number divided by a power of ten, in steps of at most 308 places. -/
def shrink (x : Binary64) (places : Nat) : Binary64 :=
  if x.isZero then x
  else if places ≤ 308 then quotient x (powerOfTen places)
  else shrink (quotient x (powerOfTen 308)) (places - 308)
termination_by places

/-- The number scaled by a power of ten, or nothing if the result is too large. -/
def scale? (x : Binary64) (places : Int) : Option Binary64 :=
  if x.isZero then some x
  else if places < 0 then some (shrink x (-places).toNat)
  else if 308 < places then none
  else
    let scaled := product x (powerOfTen places.toNat)
    if scaled.isFinite then some scaled else none

/-- The numeral as a floating-point number without its sign. -/
def magnitude? (n : Numeral) : Option Binary64 :=
  let (digits, used) := takeDigits 0 n.whole
  let (digits, behind) := takeDigits digits (n.fraction.getD [])
  let dropped : Int := n.whole.length - used
  scale? (.ofRatio false digits 1) (dropped - behind + n.exponent.getD 0)

/-- The floating-point number of the opposite sign. -/
def opposite (x : Binary64) : Binary64 := ⟨x.bits ^^^ ((1 : UInt64) <<< 63)⟩

/-- The document of a floating-point numeral. -/
def toReal (n : Numeral) : Json :=
  match n.magnitude? with
  | some x => .real (if n.negative then opposite x else x)
  | none => .fault .numberTooLarge

/-- The document that consists of the numeral. Zero with a sign is no integer. -/
def toJson (n : Numeral) : Json :=
  let size := ofDigits n.whole
  if n.fraction.isSome || n.exponent.isSome then n.toReal
  else if n.negative then
    if size = 0 ∨ pow2 63 < size then n.toReal else .integer (-(size : Int))
  else if size < pow2 64 then .integer size else n.toReal

end Numeral

end Understudy
