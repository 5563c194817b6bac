import Understudy.Text.Blank

/-!
# What remains of a text

Reading from the front of a text leaves a proper end of it. Keeping that fact beside the rest
makes a recursive reader end on every text, and its position always lie in the text.
-/

namespace Understudy

/-- What remains of a text after something was read from its front. -/
structure Remainder (text : List Char) where
  /-- The characters not yet read. -/
  rest : List Char
  /-- They are the end of the text. -/
  suffix : rest <:+ text
  /-- Something was read. -/
  shorter : rest.length < text.length

namespace Remainder

/-- What remains of what remains. -/
def trans {text : List Char} (first : Remainder text) (second : Remainder first.rest) :
    Remainder text :=
  ⟨second.rest, second.suffix.trans first.suffix, Nat.lt_trans second.shorter first.shorter⟩

/-- What remains of an end of a text remains of the text. -/
def within {text part : List Char} (suffix : part <:+ text) (r : Remainder part) :
    Remainder text :=
  ⟨r.rest, r.suffix.trans suffix, Nat.lt_of_lt_of_le r.shorter suffix.length_le⟩

/-- Behind the first character of a text. -/
def tail (c : Char) (rest : List Char) : Remainder (c :: rest) :=
  ⟨rest, List.suffix_cons c rest, Nat.lt_succ_self _⟩

/-- What remains behind more characters of a certain kind. -/
def dropWhile {text : List Char} (p : Char → Bool) (r : Remainder text) : Remainder text :=
  have suffix := List.dropWhile_suffix p (l := r.rest)
  ⟨r.rest.dropWhile p, suffix.trans r.suffix, Nat.lt_of_le_of_lt suffix.length_le r.shorter⟩

end Remainder

/-- The first character, with what remains behind it. -/
def nextChar : (text : List Char) → Option (Char × Remainder text)
  | [] => none
  | c :: rest => some (c, .tail c rest)

/-- The first character that is not to be skipped, with what remains behind it. -/
def nextBeyond (skip : Char → Bool) (text : List Char) : Option (Char × Remainder text) :=
  match h : text.dropWhile skip with
  | [] => none
  | c :: rest =>
    have whole : c :: rest <:+ text := h ▸ List.dropWhile_suffix _
    some (c, ⟨rest, (List.suffix_cons c rest).trans whole,
      Nat.lt_of_lt_of_le (Nat.lt_succ_self _) whole.length_le⟩)

theorem nextBeyond_eq_none_iff {skip : Char → Bool} {text : List Char} :
    nextBeyond skip text = none ↔ text.dropWhile skip = [] := by
  unfold nextBeyond
  split <;> simp_all

theorem dropWhile_of_nextBeyond {skip : Char → Bool} {text : List Char} {c : Char}
    {after : Remainder text} (h : nextBeyond skip text = some (c, after)) :
    text.dropWhile skip = c :: after.rest := by
  unfold nextBeyond at h
  split at h
  · simp at h
  · simp only [Option.some.injEq, Prod.mk.injEq] at h
    obtain ⟨rfl, rfl⟩ := h
    assumption

theorem nextBeyond_of_dropWhile {skip : Char → Bool} {text rest : List Char} {c : Char}
    (h : text.dropWhile skip = c :: rest) :
    ∃ after : Remainder text, nextBeyond skip text = some (c, after) ∧ after.rest = rest := by
  rcases found : nextBeyond skip text with _ | ⟨d, after⟩
  · rw [nextBeyond_eq_none_iff.1 found] at h
    cases h
  · rw [dropWhile_of_nextBeyond found] at h
    obtain ⟨rfl, rest⟩ := List.cons.inj h
    exact ⟨after, rfl, rest⟩

/-- The first character that is not blank, with what remains behind it. -/
def nextVisible (text : List Char) : Option (Char × Remainder text) :=
  nextBeyond isBlank text

end Understudy
