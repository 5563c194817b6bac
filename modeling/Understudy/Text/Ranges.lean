/-!
# Sets of characters given by ranges

A character class of the Unicode standard is written down as the ranges of code points that it
consists of, in ascending order. Membership stops at the first range that begins above the
character; because of the order no later range is missed.

* `Ranges.contains_iff`: the members are the code points that lie in one of the ranges.
-/

namespace Understudy

/-- Whether the ranges are ascending and begin at the bound or above it: every range begins no
    later than it ends, and ends before the next one begins. -/
def ascendFrom (bound : Nat) : List (Nat × Nat) → Bool
  | [] => true
  | (lo, hi) :: rest => bound ≤ lo && lo ≤ hi && ascendFrom (hi + 1) rest

/-- Ranges of code points in ascending order, each with its first and its last member. -/
structure Ranges where
  /-- The ranges. -/
  list : List (Nat × Nat)
  ascending : ascendFrom 0 list = true := by decide +kernel

namespace Ranges

/-- Whether the code point lies in one of the ranges, if these are ascending. -/
def isWithin (code : Nat) : List (Nat × Nat) → Bool
  | [] => false
  | (lo, hi) :: rest => if code < lo then false else code ≤ hi || isWithin code rest

/-- Whether the code point lies in one of the ranges. -/
def contains (code : Nat) (ranges : Ranges) : Bool := isWithin code ranges.list

/-- No range of an ascending list begins below its bound. -/
theorem le_of_mem {bound : Nat} {list : List (Nat × Nat)} (ascending : ascendFrom bound list = true)
    {r : Nat × Nat} (mem : r ∈ list) : bound ≤ r.1 := by
  induction list generalizing bound with
  | nil => cases mem
  | cons head rest ih =>
    simp only [ascendFrom, Bool.and_eq_true, decide_eq_true_eq] at ascending
    obtain ⟨⟨first, order⟩, later⟩ := ascending
    rcases List.mem_cons.1 mem with rfl | mem
    · exact first
    · have := ih later mem
      omega

theorem isWithin_iff {code bound : Nat} {list : List (Nat × Nat)}
    (ascending : ascendFrom bound list = true) :
    isWithin code list = true ↔ ∃ r ∈ list, r.1 ≤ code ∧ code ≤ r.2 := by
  induction list generalizing bound with
  | nil => simp [isWithin]
  | cons head rest ih =>
    obtain ⟨lo, hi⟩ := head
    simp only [ascendFrom, Bool.and_eq_true, decide_eq_true_eq] at ascending
    obtain ⟨⟨_, order⟩, later⟩ := ascending
    simp only [isWithin, List.mem_cons, or_and_right, exists_or, exists_eq_left]
    split
    · next below =>
      -- All ranges behind begin above this one, and so above the code point.
      refine iff_of_false Bool.false_ne_true ?_
      rintro (⟨above, _⟩ | ⟨r, mem, above, _⟩)
      · omega
      · have := le_of_mem later mem
        omega
    · next above =>
      rw [Bool.or_eq_true, decide_eq_true_iff, ih later]
      simp [Nat.not_lt.1 above]

theorem contains_iff {code : Nat} {ranges : Ranges} :
    ranges.contains code = true ↔ ∃ r ∈ ranges.list, r.1 ≤ code ∧ code ≤ r.2 :=
  isWithin_iff ranges.ascending

end Ranges

end Understudy
