import Understudy.Proofs.Ty.Union

/-!
# Reading names and arguments

What the reader of annotations does at a place where the text is known: with a name that stands
alone, with a name and arguments behind it, and with an ellipsis among the arguments.

* `Annotation.readAlternative_bare`, `Annotation.readAlternative_applied`: an alternative that is a
  name, without and with arguments.
* `Annotation.readAlternative_literal`, `Annotation.readAlternative_quoted`: literals, and the
  contents of quotes.
-/

namespace Understudy

/-! ## Characters -/

namespace Ranges

/-- No two ranges overlap. -/
def Apart (as bs : Ranges) : Prop := ∀ a ∈ as.list, ∀ b ∈ bs.list, a.2 < b.1 ∨ b.2 < a.1

instance (as bs : Ranges) : Decidable (as.Apart bs) :=
  inferInstanceAs (Decidable (∀ a ∈ as.list, ∀ b ∈ bs.list, a.2 < b.1 ∨ b.2 < a.1))

theorem Apart.not_contains {as bs : Ranges} (apart : as.Apart bs) {code : Nat}
    (h : contains code as = true) : contains code bs = false := by
  obtain ⟨a, mem, above, below⟩ := contains_iff.1 h
  rw [← Bool.not_eq_true]
  intro other
  obtain ⟨b, mem', above', below'⟩ := contains_iff.1 other
  have := apart a mem b mem'
  omega

end Ranges

theorem alphanumericRanges_apart : alphanumericRanges.Apart blankRanges := by decide +kernel

theorem not_isBlank_of_isNameChar {c : Char} (h : Annotation.isNameChar c = true) :
    isBlank c = false := by
  simp only [Bool.or_eq_true, Annotation.isNameChar, decide_eq_true_eq] at h
  rcases h with (letter | rfl) | rfl
  · exact alphanumericRanges_apart.not_contains letter
  · decide
  · decide

theorem nextVisible_of_skipBlanks {text rest : List Char} {c : Char}
    (h : skipBlanks text = c :: rest) :
    ∃ after : Remainder text, nextVisible text = some (c, after) ∧ after.rest = rest :=
  nextBeyond_of_dropWhile h

theorem skipBlanks_cons {c : Char} (h : isBlank c = false) (rest : List Char) :
    skipBlanks (c :: rest) = c :: rest := by
  rw [skipBlanks, List.dropWhile_cons_of_neg (by simp [h])]

theorem skipBlanks_space (rest : List Char) : skipBlanks (' ' :: rest) = skipBlanks rest := by
  rw [skipBlanks, List.dropWhile_cons_of_pos (by decide)]
  rfl

theorem skipBlanks_of_next {text : List Char} {c : Char} {after : Remainder text}
    (h : nextVisible text = some (c, after)) : skipBlanks text = c :: after.rest :=
  dropWhile_of_nextBeyond h

theorem head?_skipBlanks {text : List Char} {c : Char} {after : Remainder text}
    (h : nextVisible text = some (c, after)) : (skipBlanks text).head? = some c := by
  rw [skipBlanks_of_next h]
  rfl

/-- Another character is shown than the one that is not next. -/
theorem head?_ne_of_not_next {text : List Char} {c : Char}
    (other : ∀ after, nextVisible text ≠ some (c, after)) :
    (skipBlanks text).head? ≠ some c := by
  intro head
  obtain ⟨tail, shown⟩ := List.head?_eq_some_iff.1 head
  obtain ⟨after, found, -⟩ := nextVisible_of_skipBlanks shown
  exact other after found

namespace Annotation

variable {input rest inner : List Char}

/-! ## Where parts of an annotation end -/

/-- Whether a name and an alternative may end before this. -/
structure Pauses (rest : List Char) : Prop where
  name : ∀ c ∈ rest.head?, isNameChar c = false
  bracket : (skipBlanks rest).head? ≠ some '['

/-- Whether an annotation may end before this. -/
structure Ends (rest : List Char) : Prop extends Pauses rest where
  bar : (skipBlanks rest).head? ≠ some '|'

theorem Ends.nil : Ends [] :=
  ⟨⟨nofun, nofun⟩, nofun⟩

theorem Ends.of_cons {c : Char} (h : c = ',' ∨ c = ']') (rest : List Char) : Ends (c :: rest) := by
  have visible : skipBlanks (c :: rest) = c :: rest :=
    skipBlanks_cons (by rcases h with rfl | rfl <;> decide) rest
  refine ⟨⟨?_, ?_⟩, ?_⟩
  · rintro d ⟨⟩
    rcases h with rfl | rfl <;> decide
  · rw [visible]
    rcases h with rfl | rfl <;> simp
  · rw [visible]
    rcases h with rfl | rfl <;> simp

theorem Pauses.bar (rest : List Char) : Pauses (' ' :: '|' :: rest) := by
  constructor
  · rintro d ⟨⟩
    decide
  · rw [skipBlanks_space, skipBlanks_cons (by decide)]
    simp

theorem takeWhile_name {name rest : List Char} (chars : ∀ c ∈ name, isNameChar c = true)
    (behind : ∀ c ∈ rest.head?, isNameChar c = false) :
    (name ++ rest).takeWhile isNameChar = name ∧ (name ++ rest).dropWhile isNameChar = rest := by
  rw [List.takeWhile_append_of_pos chars, List.dropWhile_append_of_pos chars]
  rcases rest with _ | ⟨c, rest⟩
  · simp
  · have other := behind c rfl
    simp [other]

/-! ## Names -/

/-- A name is read up to its end. -/
theorem nextVisible_of_name {c : Char} {cs : List Char}
    (shown : skipBlanks input = c :: (cs ++ rest)) (chars : ∀ d ∈ c :: cs, isNameChar d = true)
    (apart : ∀ d ∈ rest.head?, isNameChar d = false) :
    ∃ after : Remainder input, nextVisible input = some (c, after) ∧
      ¬ (c = '"' ∨ c = '\'') ∧ isNameChar c = true ∧ after.rest.takeWhile isNameChar = cs ∧
      (after.dropWhile isNameChar).rest = rest := by
  obtain ⟨after, visible, behind⟩ := nextVisible_of_skipBlanks shown
  obtain ⟨first, others⟩ := List.forall_mem_cons.1 chars
  have unquoted : ¬ (c = '"' ∨ c = '\'') := by
    rintro (rfl | rfl) <;> exact absurd first (by decide)
  obtain ⟨name, left⟩ := takeWhile_name others apart
  rw [← behind] at name left
  exact ⟨after, visible, unquoted, first, name, left⟩

/-- A name that stands alone is read as what it stands for. -/
theorem readAlternative_bare (text : List Char) {c : Char} {cs : List Char} {ty : Ty}
    (shown : skipBlanks input = c :: (cs ++ rest)) (chars : ∀ d ∈ c :: cs, isNameChar d = true)
    (pauses : Pauses rest) (meant : (Head.ofName (c :: cs)).apply (c :: cs) [] = .ok ty) :
    ∃ after : Remainder input, readAlternative text input = .ok (ty, after) ∧
      after.rest = rest := by
  obtain ⟨after, visible, unquoted, first, name, left⟩ :=
    nextVisible_of_name shown chars pauses.name
  rw [readAlternative, visible]
  simp only [if_neg unquoted, if_pos first, name]
  refine ⟨after.dropWhile isNameChar, ?_, left⟩
  -- Behind the name no bracket opens, so the name has no arguments.
  have stop : ∀ opening, nextVisible (after.dropWhile isNameChar).rest ≠ some ('[', opening) := by
    intro opening found
    have := head?_skipBlanks found
    exact pauses.bracket (by rwa [← left])
  split
  · exact absurd ‹_ = some ('[', _)› (stop _)
  · exact absurd ‹_ = some ('[', _)› (stop _)
  · rw [meant]

/-- Behind the opening bracket that follows a name, maybe after blanks, the arguments are read. -/
theorem readAlternative_applied (text : List Char) {c : Char} {cs gap : List Char}
    (shown : skipBlanks input = c :: (cs ++ gap)) (chars : ∀ d ∈ c :: cs, isNameChar d = true)
    (apart : ∀ d ∈ gap.head?, isNameChar d = false) (opens : skipBlanks gap = '[' :: inner)
    (types : Head.ofName (c :: cs) ≠ .literal) :
    ∃ opening : Remainder input, opening.rest = inner ∧
      readAlternative text input = match readArguments text opening.rest with
        | .error e => .error e
        | .ok (arguments, behind) =>
          match (Head.ofName (c :: cs)).apply (c :: cs) (countingTypes arguments) with
          | .error fault => .error (.before text behind.rest fault)
          | .ok ty => .ok (ty, opening.trans behind) := by
  obtain ⟨after, visible, unquoted, first, name, left⟩ := nextVisible_of_name shown chars apart
  obtain ⟨opening, found, within⟩ := nextVisible_of_skipBlanks ((congrArg _ left).trans opens)
  refine ⟨(after.dropWhile isNameChar).trans opening, within, ?_⟩
  rw [readAlternative, visible]
  simp only [if_neg unquoted, if_pos first, name, found]
  -- Both sides read the arguments at one place, although it is written in two ways.
  rcases read : readArguments text opening.rest with e | ⟨arguments, behind⟩
  · have again : readArguments text ((after.dropWhile isNameChar).trans opening).rest = .error e :=
      read
    rw [again]
  · have again : readArguments text ((after.dropWhile isNameChar).trans opening).rest =
      .ok (arguments, behind) := read
    rw [again]
    rfl

/-- The same where the bracket follows at once. -/
theorem readAlternative_generic (text : List Char) {c : Char} {cs : List Char}
    (shown : skipBlanks input = c :: (cs ++ '[' :: inner))
    (chars : ∀ d ∈ c :: cs, isNameChar d = true) (types : Head.ofName (c :: cs) ≠ .literal) :
    ∃ opening : Remainder input, opening.rest = inner ∧
      readAlternative text input = match readArguments text opening.rest with
        | .error e => .error e
        | .ok (arguments, behind) =>
          match (Head.ofName (c :: cs)).apply (c :: cs) (countingTypes arguments) with
          | .error fault => .error (.before text behind.rest fault)
          | .ok ty => .ok (ty, opening.trans behind) := by
  have bracket : ∀ d ∈ ('[' :: inner).head?, isNameChar d = false := by
    rintro d ⟨⟩
    decide
  exact readAlternative_applied text shown chars bracket (skipBlanks_cons (by decide) inner) types

/-- Behind the name of literals, what stands in brackets is skipped. -/
theorem readAlternative_literal (text : List Char) {c : Char} {cs gap : List Char}
    (shown : skipBlanks input = c :: (cs ++ gap)) (chars : ∀ d ∈ c :: cs, isNameChar d = true)
    (apart : ∀ d ∈ gap.head?, isNameChar d = false) (opens : skipBlanks gap = '[' :: inner)
    (literal : Head.ofName (c :: cs) = .literal) {behind : Remainder inner}
    (closed : skipBracketed 0 none inner = some behind) :
    ∃ after : Remainder input, readAlternative text input = .ok (.any, after) ∧
      after.rest = behind.rest := by
  obtain ⟨after, visible, unquoted, first, name, left⟩ := nextVisible_of_name shown chars apart
  obtain ⟨opening, found, rfl⟩ := nextVisible_of_skipBlanks ((congrArg _ left).trans opens)
  refine ⟨(after.dropWhile isNameChar).trans (opening.trans behind), ?_, rfl⟩
  rw [readAlternative, visible]
  simp only [if_neg unquoted, if_pos first, name, found, literal, closed]

/-! ## Brackets -/

/-- The quote that is open behind a character. -/
def toggle : (quote : Option Char) → (c : Char) → Option Char
  | some quote, c => if c = quote then none else some quote
  | none, c => if c = '\'' ∨ c = '"' then some c else none

/-- How many brackets are open behind a character besides the first one, unless it closes that. -/
def nest (depth : Nat) : (quote : Option Char) → (c : Char) → Option Nat
  | some _, _ => some depth
  | none, c =>
    if c = '[' then some (depth + 1)
    else if c = ']' then
      match depth with
      | 0 => none
      | depth + 1 => some depth
    else some depth

/-- Only a bracket outside quotes closes the first one. -/
theorem nest_eq_none_iff {depth : Nat} {quote : Option Char} {c : Char} :
    nest depth quote c = none ↔ depth = 0 ∧ quote = none ∧ c = ']' := by
  cases quote with
  | some quote => simp [nest]
  | none =>
    simp only [nest]
    split
    · next opens => simp [opens]
    · split
      · next closes => cases depth <;> simp [closes]
      · next plain => simp [plain]

theorem skipBracketed_cons (depth : Nat) (quote : Option Char) (c : Char) (rest : List Char) :
    skipBracketed depth quote (c :: rest) =
      match nest depth quote c with
      | some depth => (skipBracketed depth (toggle quote c) rest).map (Remainder.tail c rest).trans
      | none => some (.tail c rest) := by
  cases quote with
  | some quote => rfl
  | none =>
    simp only [skipBracketed, nest, toggle]
    split
    · next quotes =>
      have apart : c ≠ '[' ∧ c ≠ ']' := by rcases quotes with rfl | rfl <;> decide
      simp only [if_neg apart.1, if_neg apart.2]
    · split
      · rfl
      · split
        · cases depth <;> rfl
        · rfl

/-! ## Quotes -/

/-- The contents of quotes reach up to the next quote of the kind. -/
theorem splitAtQuote_of_eq {quote : Char} {contents : List Char}
    (whole : input = contents ++ quote :: rest) (free : quote ∉ contents) :
    ∃ split : {part : List Char // part.length < input.length} × Remainder input,
      splitAtQuote quote input = some split ∧ split.1.1 = contents ∧ split.2.rest = rest := by
  have others : ∀ c ∈ contents, decide (c ≠ quote) = true := fun c mem =>
    decide_eq_true fun same => free (same ▸ mem)
  have front : input.takeWhile (· ≠ quote) = contents := by
    rw [whole, List.takeWhile_append_of_pos others, List.takeWhile_cons_of_neg (by simp),
      List.append_nil]
  have back : input.dropWhile (· ≠ quote) = quote :: rest := by
    rw [whole, List.dropWhile_append_of_pos others, List.dropWhile_cons_of_neg (by simp)]
  unfold splitAtQuote
  split
  · next none => cases none.symm.trans back
  · next c behind found => exact ⟨_, rfl, front, (List.cons.inj (found.symm.trans back)).2⟩

theorem eq_of_splitAtQuote {quote : Char}
    {split : {part : List Char // part.length < input.length} × Remainder input}
    (h : splitAtQuote quote input = some split) :
    input = split.1.1 ++ quote :: split.2.rest ∧ quote ∉ split.1.1 := by
  unfold splitAtQuote at h
  split at h
  · cases h
  · next c behind found =>
    cases h
    have same : c = quote := by
      have stops := List.head?_dropWhile_not (· ≠ quote) input
      rw [found] at stops
      simpa using stops
    subst same
    refine ⟨?_, fun mem => ?_⟩
    · have whole := List.takeWhile_append_dropWhile (p := (· ≠ c)) (l := input)
      rw [found] at whole
      exact whole.symm
    · have := List.all_eq_true.1 List.all_takeWhile c mem
      simp at this

theorem not_mem_of_splitAtQuote {quote : Char} (h : splitAtQuote quote input = none) :
    quote ∉ input := by
  intro mem
  obtain ⟨front, back, whole, free⟩ := List.eq_append_cons_of_mem mem
  obtain ⟨split, found, -⟩ := splitAtQuote_of_eq whole free
  cases h.symm.trans found

/-- The contents of quotes are read on their own. -/
theorem readAlternative_quoted (text : List Char) {quote : Char} {contents : List Char} {ty : Ty}
    (shown : skipBlanks input = quote :: (contents ++ quote :: rest))
    (quotes : quote = '"' ∨ quote = '\'') (free : quote ∉ contents)
    (read : readWhole contents = .ok ty) :
    ∃ after : Remainder input, readAlternative text input = .ok (ty, after) ∧
      after.rest = rest := by
  obtain ⟨after, visible, inside⟩ := nextVisible_of_skipBlanks shown
  obtain ⟨split, found, contents', behind⟩ := splitAtQuote_of_eq inside free
  refine ⟨after.trans split.2, ?_, behind⟩
  rw [readAlternative, visible]
  simp only [if_pos quotes, found, contents', read]

/-! ## Arguments that count -/

/-- The types that count when one more argument was read. -/
def countNext (sofar : List Ty) : Argument → List Ty
  | .type ty => sofar ++ [ty]
  | .ellipsis => []

theorem countingTypes_eq (arguments : List Argument) :
    countingTypes arguments = arguments.foldl countNext [] := rfl

/-- The types before some arguments count as well, unless an ellipsis is among the arguments. -/
theorem foldl_countNext (arguments : List Argument) :
    (∀ sofar, arguments.foldl countNext sofar = sofar ++ countingTypes arguments) ∨
      ∀ sofar, arguments.foldl countNext sofar = countingTypes arguments := by
  simp only [countingTypes_eq]
  induction arguments with
  | nil => exact .inl fun sofar => (List.append_nil sofar).symm
  | cons argument arguments ih =>
    cases argument with
    | ellipsis => exact .inr fun _ => rfl
    | type ty =>
      rcases ih with all | last
      · refine .inl fun sofar => ?_
        rw [List.foldl_cons, List.foldl_cons, all, all (countNext [] (.type ty)),
          ← List.append_assoc]
        rfl
      · -- An ellipsis that follows makes this one count for nothing as well.
        exact .inr fun sofar => (last _).trans (last _).symm

theorem countingTypes_types (types : List Ty) : countingTypes (types.map .type) = types := by
  have appended : ∀ sofar : List Ty,
      (types.map Argument.type).foldl countNext sofar = sofar ++ types := by
    induction types with
    | nil => exact fun sofar => (List.append_nil sofar).symm
    | cons ty types ih =>
      intro sofar
      simp only [List.map_cons, List.foldl_cons, countNext, ih, List.append_assoc]
      rfl
  rw [countingTypes_eq, appended, List.nil_append]

theorem mem_of_mem_countingTypes {arguments : List Argument} {ty : Ty}
    (mem : ty ∈ countingTypes arguments) : .type ty ∈ arguments := by
  have known : ∀ sofar : List Ty, ty ∈ arguments.foldl countNext sofar →
      ty ∈ sofar ∨ .type ty ∈ arguments := by
    clear mem
    induction arguments with
    | nil => exact fun _ => .inl
    | cons argument arguments ih =>
      intro sofar mem
      rcases ih _ mem with mem | mem
      · cases argument with
        | ellipsis => cases mem
        | type other =>
          rcases List.mem_append.1 mem with mem | mem
          · exact .inl mem
          · rw [List.mem_singleton.1 mem]
            exact .inr List.mem_cons_self
      · exact .inr (List.mem_cons_of_mem _ mem)
  rw [countingTypes_eq] at mem
  exact (known [] mem).resolve_left List.not_mem_nil

/-- How many types known by name an argument is made of. -/
def Argument.nameCount : Argument → Nat
  | .type ty => ty.nameCount
  | .ellipsis => 0

theorem nameCounts_countingTypes_cons_le (argument : Argument) (arguments : List Argument) :
    Ty.nameCounts (countingTypes (argument :: arguments)) ≤
      argument.nameCount + Ty.nameCounts (countingTypes arguments) := by
  rw [countingTypes_eq, List.foldl_cons]
  rcases foldl_countNext arguments with all | last
  · rw [all, Ty.nameCounts_append]
    cases argument with
    | ellipsis => exact Nat.le_refl _
    | type ty =>
      have one : Ty.nameCounts (countNext [] (.type ty)) = ty.nameCount :=
        Ty.nameCounts_singleton ty
      rw [one]
      exact Nat.le_refl _
  · rw [last]
    exact Nat.le_add_left _ _

end Annotation

end Understudy
