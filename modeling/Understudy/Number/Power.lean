/-!
# Powers of two and of ten

The scales of binary and of decimal numbers.
-/

namespace Understudy

/-- Two to the given power. -/
def pow2 (n : Nat) : Nat := Nat.pow 2 n

/-- Ten to the given power. -/
def pow10 (n : Nat) : Nat := Nat.pow 10 n

end Understudy
