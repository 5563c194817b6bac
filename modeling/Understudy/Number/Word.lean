/-!
# Integers of 64 bits

An integer fits into 64 bits if the bits that are kept of it denote it.

* `int64?_eq_some_iff`, `uint64?_eq_some_iff`: what is found is the integer, and nothing that fits
  is missed.
-/

namespace Understudy

/-- The integer in 64 bits with a sign, if it fits. -/
def int64? (n : Int) : Option Int64 :=
  if (Int64.ofInt n).toInt = n then some (Int64.ofInt n) else none

/-- The integer in 64 bits without a sign, if it fits. -/
def uint64? (n : Int) : Option UInt64 :=
  if ((UInt64.ofNat n.toNat).toNat : Int) = n then some (UInt64.ofNat n.toNat) else none

theorem int64?_eq_some_iff {n : Int} {k : Int64} : int64? n = some k ↔ k.toInt = n := by
  unfold int64?
  constructor
  · intro h
    split at h
    · next fits => exact Option.some.inj h ▸ fits
    · cases h
  · rintro rfl
    simp

theorem uint64?_eq_some_iff {n : Int} {k : UInt64} : uint64? n = some k ↔ (k.toNat : Int) = n := by
  unfold uint64?
  constructor
  · intro h
    split at h
    · next fits => exact Option.some.inj h ▸ fits
    · cases h
  · rintro rfl
    simp

end Understudy
