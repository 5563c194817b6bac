import Mathlib.Algebra.Order.Field.Power
import Mathlib.Data.Rat.Cast.Order
import Mathlib.Tactic.Linarith
import Mathlib.Tactic.LinearCombination
import Mathlib.Tactic.NormNum
import Mathlib.Tactic.Positivity
import Mathlib.Tactic.Qify
import Mathlib.Tactic.Ring
import Understudy.Number.Binary64

/-!
# The number nearest to an integer

A finite pattern denotes a ratio, and the ratios that are denoted are among those with a
significand of 53 bits. An integer in 64 bits has at most eleven bits more; it is rounded to the
nearest of these ratios, and to the one with the even significand if there are two.

The integer is divided by the power of two that leaves 53 bits of it. The rounded quotient gives a
multiple of the power that is at most half a step away, so every other multiple is at least as far;
and a ratio that is no multiple is too small to be nearer.

* `Binary64.rounds_ofInt`: an integer in 64 bits is rounded to the nearest ratio.
* `Binary64.Rounds.denotes_iff`: nothing is lost exactly if the integer has 53 significant bits.
* `Binary64.toInt?_eq_some_iff`: the integer that is read off a pattern is the one it denotes.
-/

namespace Understudy

/-! ### Rounded quotients -/

theorem pow2_eq (n : Nat) : pow2 n = 2 ^ n := rfl

/-- The multiple by the rounded quotient is at most half a step away, and half a step away only
    if the quotient is even. -/
theorem roundDiv_near {den : Nat} (num : Nat) (positive : 0 < den) :
    2 * num ≤ 2 * (roundDiv num den * den) + den ∧
      2 * (roundDiv num den * den) ≤ 2 * num + den ∧
      (2 * num = 2 * (roundDiv num den * den) + den ∨
        2 * (roundDiv num den * den) = 2 * num + den → roundDiv num den % 2 = 0) := by
  have whole := Nat.div_add_mod' num den
  have less := Nat.mod_lt num positive
  unfold roundDiv
  dsimp only
  split
  · next raised =>
    rw [Nat.add_one_mul (num / den) den]
    omega
  · next kept => omega

/-- Scaling a number up or a power of two down is the same. -/
theorem pow2_toNat_mul (k : Int) : (pow2 (-k).toNat : ℚ) * 2 ^ k = pow2 k.toNat := by
  simp only [pow2_eq]
  push_cast
  rw [← zpow_natCast, ← zpow_natCast, ← zpow_add₀ two_ne_zero]
  congr 1
  omega

/-- The multiple of a power of two that a number is rounded to. -/
def roundedAt (n : Nat) (k : Int) : Nat :=
  roundDiv (n * pow2 (-k).toNat) (1 * pow2 k.toNat)

theorem roundedAt_near (n : Nat) (k : Int) :
    |2 * (n - roundedAt n k * 2 ^ k : ℚ)| ≤ 2 ^ k ∧
      (|2 * (n - roundedAt n k * 2 ^ k : ℚ)| = 2 ^ k → roundedAt n k % 2 = 0) := by
  have positive (e : Nat) : 0 < pow2 e := Nat.two_pow_pos e
  have step : 0 < 1 * pow2 k.toNat := by
    rw [one_mul]
    exact positive _
  obtain ⟨low, high, half⟩ := roundDiv_near (n * pow2 (-k).toNat) step
  rw [← roundedAt] at low high half
  have scale := pow2_toNat_mul k
  have up : (0 : ℚ) < pow2 (-k).toNat := Nat.cast_pos.2 (positive _)
  generalize roundedAt n k = r at *
  generalize pow2 (-k).toNat = u at *
  generalize pow2 k.toNat = d at *
  -- The distance is compared to the step after both are scaled up to what was divided.
  constructor
  · qify at low high
    rw [← scale] at low high
    refine abs_le.2 ⟨le_of_mul_le_mul_right ?_ up, le_of_mul_le_mul_right ?_ up⟩ <;> linarith
  · intro far
    apply half
    qify
    rcases (abs_eq (by positivity)).1 far with above | below
    · left
      linear_combination (u : ℚ) * above + (2 * r + 1) * scale
    · right
      linear_combination -(u : ℚ) * below - (2 * r - 1) * scale

/-- Two multiples are at least one step apart. -/
theorem step_le_distances {q step : ℚ} {r j : Int} (positive : 0 < step) (other : j ≠ r) :
    step ≤ |q - r * step| + |q - j * step| := by
  have apart : (1 : ℚ) ≤ |((r - j : Int) : ℚ)| := by
    exact_mod_cast Int.one_le_abs (sub_ne_zero.2 other.symm)
  calc step ≤ |((r - j : Int) : ℚ)| * step := le_mul_of_one_le_left positive.le apart
    _ = |(r * step - q) + (q - j * step)| := by
      rw [← abs_of_pos positive, ← abs_mul, abs_of_pos positive]
      push_cast
      ring_nf
    _ ≤ |q - r * step| + |q - j * step| := by
      rw [abs_sub_comm q]
      exact abs_add_le _ _

/-! ### Ratios with a significand of 53 bits -/

/-- The ratio has a significand of 53 bits. -/
def SignificandFits (q : ℚ) : Prop :=
  ∃ m e : Int, |m| < 2 ^ 53 ∧ q = m * 2 ^ e

theorem SignificandFits.neg {q : ℚ} (h : SignificandFits q) : SignificandFits (-q) := by
  obtain ⟨m, e, small, rfl⟩ := h
  exact ⟨-m, e, by rwa [abs_neg], by push_cast; ring⟩

/-- A ratio with 53 bits is a multiple of a power of two unless it is below all that have a full
    significand and that power. -/
theorem SignificandFits.multiple_or_below {q : ℚ} (h : SignificandFits q) (k : Int) :
    (∃ j : Int, q = j * 2 ^ k) ∨ |q| < 2 ^ 52 * 2 ^ k := by
  obtain ⟨m, e, small, rfl⟩ := h
  rcases le_or_gt k e with above | below
  · refine .inl ⟨m * 2 ^ (e - k).toNat, ?_⟩
    push_cast
    rw [mul_assoc, ← zpow_natCast, Int.toNat_of_nonneg (by omega), ← zpow_add₀ two_ne_zero,
      sub_add_cancel]
  · right
    have small : (|m| : ℚ) < 2 ^ 53 := by exact_mod_cast small
    calc |(m : ℚ) * 2 ^ e| = |(m : ℚ)| * 2 ^ e := by
          rw [abs_mul, abs_of_pos (zpow_pos two_pos e : (0 : ℚ) < 2 ^ e)]
      _ < 2 ^ 53 * 2 ^ e := by gcongr
      _ ≤ 2 ^ 53 * 2 ^ (k - 1) := by gcongr <;> grind
      _ = 2 ^ 52 * 2 ^ k := by rw [zpow_sub_one₀ two_ne_zero]; ring

section Rounded

variable {n : Nat} {k : Int}

/-- No other ratio with 53 bits is nearer than the rounded multiple, and one that is as near is
    there only if the multiple is even. -/
theorem roundedAt_nearest (least : (2 : ℚ) ^ 52 * 2 ^ k ≤ n) {w : ℚ} (fits : SignificandFits w)
    (other : w ≠ roundedAt n k * 2 ^ k) :
    |(n : ℚ) - roundedAt n k * 2 ^ k| ≤ |n - w| ∧
      (|(n : ℚ) - w| = |(n : ℚ) - roundedAt n k * 2 ^ k| → roundedAt n k % 2 = 0) := by
  obtain ⟨near, half⟩ := roundedAt_near n k
  rw [abs_mul, abs_of_pos two_pos] at near half
  have step : (0 : ℚ) < 2 ^ k := by positivity
  have apart {j : Int} (ne : (j : ℚ) * 2 ^ k ≠ roundedAt n k * 2 ^ k) :
      2 ^ k ≤ |(n : ℚ) - (roundedAt n k : Int) * 2 ^ k| + |(n : ℚ) - j * 2 ^ k| :=
    step_le_distances step fun same => ne (by rw [same, Int.cast_natCast])
  rcases fits.multiple_or_below k with ⟨j, rfl⟩ | below
  · have := apart other
    rw [Int.cast_natCast] at this
    exact ⟨by linarith, fun tie => half (by linarith)⟩
  · -- The least multiple with a full significand lies between the two.
    have strictly : |(n : ℚ) - (2 ^ 52 : Int) * 2 ^ k| < |n - w| := by
      push_cast
      rw [abs_of_nonneg (by linarith)]
      exact lt_of_lt_of_le (by linarith [le_abs_self w]) (le_abs_self _)
    have nearer : |(n : ℚ) - roundedAt n k * 2 ^ k| ≤ |(n : ℚ) - (2 ^ 52 : Int) * 2 ^ k| := by
      by_cases same : ((2 ^ 52 : Int) : ℚ) * 2 ^ k = roundedAt n k * 2 ^ k
      · rw [same]
      · have := apart same
        rw [Int.cast_natCast] at this
        linarith
    exact ⟨by linarith, fun tie => absurd tie (by linarith)⟩

theorem roundedAt_bounds (least : (2 : ℚ) ^ 52 * 2 ^ k ≤ n) (less : (n : ℚ) < 2 ^ 53 * 2 ^ k) :
    pow2 52 ≤ roundedAt n k ∧ roundedAt n k ≤ pow2 53 := by
  have step : (0 : ℚ) < 2 ^ k := by positivity
  obtain ⟨low, high⟩ := abs_le.1 (roundedAt_near n k).1
  generalize roundedAt n k = r at *
  simp only [pow2_eq]
  constructor
  · by_contra small
    have small : (r : ℚ) + 1 ≤ 2 ^ 52 := by exact_mod_cast Nat.lt_of_not_le small
    have : ((r : ℚ) + 1) * 2 ^ k ≤ 2 ^ 52 * 2 ^ k := by gcongr
    linarith
  · by_contra great
    have great : (2 : ℚ) ^ 53 + 1 ≤ r := by exact_mod_cast Nat.lt_of_not_le great
    have : ((2 : ℚ) ^ 53 + 1) * 2 ^ k ≤ r * 2 ^ k := by gcongr
    linarith

/-- Of all ratios with 53 bits, the one with this full significand and this exponent is the nearest
    to the given one; if another is as near, the significand is even. -/
structure NearestParts (q : ℚ) (m : Nat) (e : Int) : Prop where
  full : pow2 52 ≤ m
  small : m < pow2 53
  nearest : ∀ {w}, SignificandFits w → |q - m * 2 ^ e| ≤ |q - w|
  even : ∀ {w}, SignificandFits w → w ≠ m * 2 ^ e → |q - w| = |q - m * 2 ^ e| → m % 2 = 0

theorem NearestParts.of_roundedAt {m : Nat} {e : Int} (least : (2 : ℚ) ^ 52 * 2 ^ k ≤ n)
    (full : pow2 52 ≤ m) (small : m < pow2 53) (same : (m : ℚ) * 2 ^ e = roundedAt n k * 2 ^ k)
    (even : roundedAt n k % 2 = 0 → m % 2 = 0) : NearestParts n m e where
  full := full
  small := small
  nearest {w} fits := by
    rw [same]
    by_cases own : w = roundedAt n k * 2 ^ k
    · rw [own]
    · exact (roundedAt_nearest least fits own).1
  even fits other tie := by
    rw [same] at other tie
    exact even ((roundedAt_nearest least fits other).2 tie)

end Rounded

theorem ratioLog_one {n : Nat} (positive : n ≠ 0) : ratioLog n 1 = n.log2 := by
  have least : 2 ^ n.log2 ≤ n := Nat.log2_self_le positive
  have none : Nat.log2 1 = 0 := by decide
  simp only [ratioLog, none, pow2_eq]
  rw [if_neg (by simpa using least)]
  simp

/-- A positive number of 64 bits is rounded to the nearest ratio with 53 bits. -/
theorem nearest?_one {n : Nat} (positive : n ≠ 0) (small : n < pow2 64) :
    ∃ m e, BinaryFormat.double.nearest? n 1 = some (m, e) ∧ -52 ≤ e ∧ e ≤ 12 ∧
      NearestParts n m e := by
  have bound : n.log2 < 64 := (Nat.log2_lt positive).2 small
  -- The quotient by this power has 53 bits: `n` lies from `2 ^ 52 * 2 ^ k` to twice that.
  obtain ⟨k, log⟩ : ∃ k : Int, (n.log2 : Int) = 52 + k := ⟨n.log2 - 52, by ring⟩
  have least : (2 : ℚ) ^ 52 * 2 ^ k ≤ n := by
    have : (2 : ℚ) ^ n.log2 ≤ n := by exact_mod_cast Nat.log2_self_le positive
    rwa [← zpow_natCast, log, zpow_add₀ two_ne_zero] at this
  have less : (n : ℚ) < 2 ^ 53 * 2 ^ k := by
    have : (n : ℚ) < 2 ^ (n.log2 + 1) := by exact_mod_cast Nat.lt_log2_self
    rw [pow_succ, ← zpow_natCast, log, zpow_add₀ two_ne_zero] at this
    norm_num at this ⊢
    linarith
  have exponent : max BinaryFormat.double.least
      (ratioLog n 1 - (BinaryFormat.double.precision - 1)) = k := by
    simp only [BinaryFormat.double, ratioLog_one positive]
    omega
  obtain ⟨low, high⟩ := roundedAt_bounds least less
  have precision : BinaryFormat.double.precision = 53 := rfl
  have greatest : BinaryFormat.double.greatest = 971 := rfl
  unfold BinaryFormat.nearest?
  rw [exponent, precision, greatest]
  dsimp only
  rw [← roundedAt]
  -- A number that is rounded up to 54 bits is a power of two, and is halved.
  by_cases top : roundedAt n k = pow2 53
  · refine ⟨pow2 53 / 2, k + 1, ?_, by omega, by omega, ?_⟩
    · simp only [top, if_true]
      exact if_pos (by omega)
    · refine .of_roundedAt least (by decide) (by decide) ?_ fun _ => by decide
      have half : ((pow2 53 / 2 : Nat) : ℚ) * 2 = pow2 53 := by norm_num [pow2_eq]
      rw [top, zpow_add_one₀ two_ne_zero, ← half]
      ring
  · refine ⟨roundedAt n k, k, ?_, by omega, by omega, .of_roundedAt least low (by omega) rfl id⟩
    simp only [top, if_false]
    exact if_pos (by omega)

namespace Binary64

/-! ### Patterns -/

section Fields

variable (negative : Bool) {e f : Nat}

theorem toNat_ofFields (exponent : e < pow2 11) (fraction : f < pow2 52) :
    (ofFields negative e f).bits.toNat =
      (if negative then pow2 63 else 0) + e * pow2 52 + f := by
  have bound : (if negative then pow2 63 else 0) + e * pow2 52 + f < 2 ^ 64 := by
    simp only [pow2_eq] at *
    cases negative <;> simp <;> omega
  exact UInt64.toNat_ofNat_of_lt' bound

theorem isNegative_ofFields (exponent : e < pow2 11) (fraction : f < pow2 52) :
    (ofFields negative e f).isNegative = negative := by
  rw [isNegative, toNat_ofFields negative exponent fraction]
  simp only [pow2_eq] at *
  cases negative <;> simp <;> omega

theorem exponentField_ofFields (exponent : e < pow2 11) (fraction : f < pow2 52) :
    (ofFields negative e f).exponentField = e := by
  rw [exponentField, toNat_ofFields negative exponent fraction]
  simp only [pow2_eq] at *
  cases negative <;> simp <;> omega

theorem fraction_ofFields (exponent : e < pow2 11) (fraction : f < pow2 52) :
    (ofFields negative e f).fraction = f := by
  rw [Binary64.fraction, toNat_ofFields negative exponent fraction]
  simp only [pow2_eq] at *
  cases negative <;> simp <;> omega

end Fields

/-- A full significand and an exponent within the bounds are kept, as is the sign. -/
theorem ofParts_full (negative : Bool) {m : Nat} {e : Int} (full : pow2 52 ≤ m)
    (small : m < pow2 53) (least : -1074 ≤ e) (greatest : e ≤ 971) :
    (ofParts negative m e).isFinite = true ∧ (ofParts negative m e).isNegative = negative ∧
      (ofParts negative m e).significand = m ∧ (ofParts negative m e).exponent = e := by
  have double : pow2 53 = pow2 52 + pow2 52 := by decide
  have field : (e + 1075).toNat < pow2 11 := by rw [pow2_eq]; omega
  have fraction : m - pow2 52 < pow2 52 := by omega
  rw [ofParts, if_neg (by omega), isFinite, significand, exponent,
    exponentField_ofFields negative field fraction, fraction_ofFields negative field fraction]
  refine ⟨bne_iff_ne.2 (by omega), isNegative_ofFields negative field fraction, ?_, by omega⟩
  rw [if_neg (by omega)]
  omega

variable {x : Binary64} {q : ℚ}

/-- The ratio that a finite pattern denotes. -/
def value (x : Binary64) : ℚ :=
  (if x.isNegative then -1 else 1) * (x.significand * 2 ^ x.exponent)

/-- The pattern is finite and denotes exactly the ratio. -/
def Denotes (x : Binary64) (q : ℚ) : Prop :=
  x.isFinite = true ∧ x.value = q

theorem significand_lt (x : Binary64) : x.significand < pow2 53 := by
  have fraction : x.fraction < pow2 52 := Nat.mod_lt _ (by decide)
  have double : pow2 53 = pow2 52 + pow2 52 := by decide
  unfold significand
  split <;> omega

theorem significandFits_value (x : Binary64) : SignificandFits x.value := by
  refine ⟨(if x.isNegative then -1 else 1) * x.significand, x.exponent, ?_, ?_⟩
  · have small : x.significand < 2 ^ 53 := x.significand_lt
    cases x.isNegative <;> simpa using small
  · unfold value
    push_cast
    ring

/-! ### Rounding to a pattern -/

/-- The pattern denotes the nearest ratio of 53 bits and has the sign of the given one; if another
    ratio is as near, the significand is even. -/
structure Rounds (q : ℚ) (x : Binary64) : Prop where
  finite : x.isFinite = true
  sign : x.isNegative = decide (q < 0)
  nearest : ∀ {w}, SignificandFits w → |q - x.value| ≤ |q - w|
  even : ∀ {w}, SignificandFits w → w ≠ x.value → |q - w| = |q - x.value| → x.significand % 2 = 0

/-- A ratio is denoted exactly, and not only nearly, if it has 53 bits. -/
theorem Rounds.denotes_iff (rounds : Rounds q x) : x.Denotes q ↔ SignificandFits q := by
  constructor
  · rintro ⟨-, rfl⟩
    exact x.significandFits_value
  · intro fits
    have none := rounds.nearest fits
    rw [sub_self, abs_zero, abs_nonpos_iff, sub_eq_zero] at none
    exact ⟨rounds.finite, none.symm⟩

theorem rounds_zero : Rounds 0 (zero false) where
  finite := by decide
  sign := by decide
  nearest _ := by
    have none : (zero false).significand = 0 := by decide
    rw [value, none, Nat.cast_zero, zero_mul, mul_zero, sub_self, abs_zero]
    exact abs_nonneg _
  even _ _ _ := by decide

/-- What is nearest to the absolute value is nearest to the number when it has its sign. -/
theorem rounds_of_nearestParts {unit : ℚ} {n m : Nat} {e : Int} (near : NearestParts n m e)
    (signs : unit = 1 ∨ unit = -1) (finite : x.isFinite = true)
    (sign : x.isNegative = decide (unit * n < 0)) (value : x.value = unit * (m * 2 ^ e))
    (significand : x.significand = m) : Rounds (unit * n) x := by
  have twice : unit * unit = 1 := by rcases signs with rfl | rfl <;> norm_num
  have size : |unit| = 1 := by rcases signs with rfl | rfl <;> norm_num
  have mirrored (w : ℚ) : |unit * n - w| = |n - unit * w| := by
    rw [← one_mul |(n : ℚ) - unit * w|, ← size, ← abs_mul]
    congr 1
    linear_combination w * twice
  have signed {w : ℚ} (fits : SignificandFits w) : SignificandFits (unit * w) := by
    rcases signs with rfl | rfl
    · rwa [one_mul]
    · rw [neg_one_mul]
      exact fits.neg
  have own : unit * x.value = m * 2 ^ e := by
    rw [value]
    linear_combination (m * 2 ^ e : ℚ) * twice
  constructor
  case finite => exact finite
  case sign => exact sign
  case nearest =>
    intro w fits
    rw [mirrored, mirrored, own]
    exact near.nearest (signed fits)
  case even =>
    intro w fits other tie
    rw [mirrored, mirrored, own] at tie
    rw [significand]
    refine near.even (signed fits) (fun same => other ?_) tie
    linear_combination unit * (same - own) - (w - x.value) * twice

/-- An integer in 64 bits is rounded to the nearest ratio with 53 bits. -/
theorem rounds_ofInt {n : Int} (small : n.natAbs < pow2 64) : Rounds n (ofInt n) := by
  rcases eq_or_ne n 0 with rfl | other
  · exact_mod_cast rounds_zero
  · obtain ⟨m, e, found, least, greatest, near⟩ :=
      nearest?_one (Int.natAbs_ne_zero.2 other) small
    have parts : ofInt n = ofParts (decide (n < 0)) m e := by
      rw [ofInt, ofRatio, if_neg (Int.natAbs_ne_zero.2 other), found]
    obtain ⟨finite, sign, significand, exponent⟩ := ofParts_full (decide (n < 0)) near.full
      near.small (by omega : -1074 ≤ e) (by omega)
    rw [← parts] at finite sign significand exponent
    have signed : (if n < 0 then -1 else 1 : ℚ) * (n.natAbs : Nat) = n := by
      split <;> rw [Nat.cast_natAbs]
      · next negative => rw [abs_of_neg negative]; push_cast; ring
      · next positive => rw [abs_of_nonneg (by omega)]; ring
    have value : (ofInt n).value = (if n < 0 then -1 else 1 : ℚ) * (m * 2 ^ e) := by
      rw [value, sign, significand, exponent]
      simp only [decide_eq_true_eq]
    rw [← signed]
    refine rounds_of_nearestParts near (by split <;> simp) finite ?_ value significand
    rw [signed, sign]
    simp only [Int.cast_lt_zero]

/-! ### Integers -/

/-- The number with the given significand and exponent, if there is one. -/
theorem whole_eq_some_iff {s n : Nat} {e : Int} :
    (if 0 ≤ e then some (s * pow2 e.toNat)
      else if s % pow2 (-e).toNat = 0 then some (s / pow2 (-e).toNat) else none) = some n ↔
      (s : ℚ) * 2 ^ e = n := by
  have positive : 0 < pow2 (-e).toNat := Nat.two_pow_pos _
  have up : (pow2 (-e).toNat : ℚ) ≠ 0 := Nat.cast_ne_zero.2 positive.ne'
  have scaled : (s : ℚ) * 2 ^ e = n ↔ s * pow2 e.toNat = n * pow2 (-e).toNat := by
    rw [← mul_left_inj' up, mul_assoc, mul_comm (2 ^ e), pow2_toNat_mul e]
    norm_cast
  rw [scaled]
  -- At most one of the two powers is greater than one.
  split
  · next above =>
    have one : pow2 (-e).toNat = 1 := by
      rw [show (-e).toNat = 0 by omega]
      rfl
    rw [one, mul_one, Option.some.injEq]
  · next below =>
    have one : pow2 e.toNat = 1 := by
      rw [show e.toNat = 0 by omega]
      rfl
    rw [one, mul_one]
    split
    · next divides =>
      rw [Option.some.injEq, Nat.div_eq_iff_eq_mul_left positive (Nat.dvd_of_mod_eq_zero divides)]
    · next divided =>
      refine ⟨nofun, ?_⟩
      rintro rfl
      exact absurd (Nat.mul_mod_left n _) divided

/-- What is found is the integer that the pattern denotes, and none that it denotes is missed. -/
theorem toInt?_eq_some_iff {n : Int} : x.toInt? = some n ↔ x.Denotes n := by
  unfold toInt? Denotes
  dsimp only
  cases x.isFinite
  · simp
  · simp only [if_true, true_and, bind_pure_comp, Option.map_eq_map, Option.map_map,
      Option.map_eq_some_iff, whole_eq_some_iff, value, Function.comp]
    have positive : 0 ≤ (x.significand : ℚ) * 2 ^ x.exponent := by positivity
    generalize (x.significand : ℚ) * 2 ^ x.exponent = size at positive
    generalize x.isNegative = negative
    constructor
    · rintro ⟨a, rfl, rfl⟩
      cases negative <;> simp
    · intro whole
      -- The number read is the absolute value, which with its sign is the integer again.
      have absolute : size = n.natAbs := by
        rw [Nat.cast_natAbs, Int.cast_abs, ← whole, abs_mul, abs_of_nonneg positive]
        cases negative <;> simp
      refine ⟨n.natAbs, absolute, ?_⟩
      rw [absolute] at whole
      exact_mod_cast (by cases negative <;> simpa using whole :
        (((if negative then -(n.natAbs : Int) else n.natAbs) : Int) : ℚ) = n)

end Binary64

end Understudy
