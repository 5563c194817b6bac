import Understudy.Proofs.Ty.Reading

/-!
# Reading within a longer text

What is read from a text is also read where more stands behind it, and where blanks stand before
it: every reader stops at the same place. A reader that stopped because the text was over must not
go on with what now stands there, so that may not continue a name, open a bracket or add an
alternative.

* `Annotation.readAlternatives_extends`, `Annotation.readAlternative_extends`,
  `Annotation.readArguments_extends`: what is read is read in a longer text as well.
-/

namespace Understudy

namespace Annotation

variable {input longer rest more : List Char}

/-- Whether the text consists of blanks. -/
def Blank (text : List Char) : Prop := ∀ c ∈ text, isBlank c = true

/-- Whether a text begins like another one, blanks before them aside, and has more behind that. -/
def Extends (input longer more : List Char) : Prop :=
  ∀ c cs, skipBlanks input = c :: cs → skipBlanks longer = c :: (cs ++ more)

theorem skipBlanks_append_of_cons {c : Char} {cs : List Char} (shown : skipBlanks input = c :: cs)
    (more : List Char) : skipBlanks (input ++ more) = c :: (cs ++ more) := by
  rw [skipBlanks] at shown ⊢
  rw [List.dropWhile_append, shown]
  rfl

theorem Blank.skipBlanks_append {before : List Char} (blank : Blank before) (text : List Char) :
    skipBlanks (before ++ text) = skipBlanks text :=
  List.dropWhile_append_of_pos blank

theorem Blank.skipBlanks_eq_nil (blank : Blank input) : skipBlanks input = [] := by
  have none := blank.skipBlanks_append []
  rw [List.append_nil] at none
  exact none

theorem Blank.of_skipBlanks (h : skipBlanks input = []) : Blank input := by
  rw [← List.takeWhile_append_dropWhile (p := isBlank) (l := input)]
  rw [skipBlanks] at h
  rw [h, List.append_nil]
  exact List.all_eq_true.1 List.all_takeWhile

theorem Extends.append (input more : List Char) : Extends input (input ++ more) more :=
  fun _ _ shown => skipBlanks_append_of_cons shown more

theorem Extends.of_blank {before : List Char} (blank : Blank before) (input more : List Char) :
    Extends input (before ++ (input ++ more)) more := by
  intro c cs shown
  rw [blank.skipBlanks_append, skipBlanks_append_of_cons shown]

theorem Extends.nextVisible (extends' : Extends input longer more) {c : Char}
    {after : Remainder input} (found : nextVisible input = some (c, after)) :
    ∃ after' : Remainder longer, nextVisible longer = some (c, after') ∧
      after'.rest = after.rest ++ more :=
  nextVisible_of_skipBlanks (extends' _ _ (skipBlanks_of_next found))

/-- A character that does not come next does not come next with more behind, unless it comes first
    in what is there where nothing was visible before. -/
theorem not_next_append {c : Char} (here : ∀ after, nextVisible rest ≠ some (c, after))
    (there : skipBlanks rest = [] → (skipBlanks more).head? ≠ some c) :
    (skipBlanks (rest ++ more)).head? ≠ some c := by
  rcases shown : skipBlanks rest with _ | ⟨d, ds⟩
  · rw [(Blank.of_skipBlanks shown).skipBlanks_append]
    exact there shown
  · rw [skipBlanks_append_of_cons shown]
    have other := head?_ne_of_not_next here
    rwa [shown] at other

/-- Where a name ends, what stands behind it may have more behind it. -/
theorem head?_append_of_name (name : rest.dropWhile isNameChar = [] →
    ∀ c ∈ more.head?, isNameChar c = false) :
    ∀ c ∈ (rest.dropWhile isNameChar ++ more).head?, isNameChar c = false := by
  rcases behind : rest.dropWhile isNameChar with _ | ⟨d, ds⟩
  · exact name behind
  · rintro c ⟨⟩
    have stops := List.head?_dropWhile_not isNameChar rest
    rw [behind] at stops
    simpa using stops

/-- A name ends before what comes next. -/
theorem head?_append_of_next {c : Char} {next : Remainder (rest.dropWhile isNameChar)}
    (found : nextVisible (rest.dropWhile isNameChar) = some (c, next)) (more : List Char) :
    ∀ d ∈ (rest.dropWhile isNameChar ++ more).head?, isNameChar d = false := by
  refine head?_append_of_name fun none => ?_
  cases (skipBlanks_of_next found).symm.trans (congrArg (List.dropWhile isBlank) none)

/-! ## Parts that are skipped -/

theorem skipBracketed_append {text : List Char} {depth : Nat} {quote : Option Char}
    {behind : Remainder text} (closed : skipBracketed depth quote text = some behind)
    (more : List Char) : ∃ behind' : Remainder (text ++ more),
      skipBracketed depth quote (text ++ more) = some behind' ∧
        behind'.rest = behind.rest ++ more := by
  induction text generalizing depth quote with
  | nil => cases closed
  | cons c text ih =>
    rw [skipBracketed_cons] at closed
    rw [List.cons_append, skipBracketed_cons]
    generalize nest depth quote c = nested at closed ⊢
    rcases nested with _ | depth
    · cases closed
      exact ⟨_, rfl, rfl⟩
    · obtain ⟨inner, found, rfl⟩ := Option.map_eq_some_iff.1 closed
      obtain ⟨inner', found', rest⟩ := ih found
      refine ⟨(Remainder.tail c (text ++ more)).trans inner', ?_, rest⟩
      simp only [found']
      rfl

/-! ## Readers -/

theorem readAlternatives_of_blank (text : List Char) (blank : nextVisible input = none) :
    readAlternatives text input = .error (.before text [] .expectedTypeName) := by
  rw [readAlternatives, readAlternative, blank]

theorem exists_next_of_readAlternatives {text : List Char} {result : List Ty × Remainder input}
    (read : readAlternatives text input = .ok result) :
    ∃ c after, nextVisible input = some (c, after) := by
  rcases visible : nextVisible input with _ | ⟨c, after⟩
  · cases (readAlternatives_of_blank text visible).symm.trans read
  · exact ⟨c, after, rfl⟩

/-- Alternatives begin with a quote or a name. -/
theorem first_of_readAlternatives {result : List Ty × Remainder input} {c : Char}
    {next : Remainder input} (read : readAlternatives text input = .ok result)
    (found : nextVisible input = some (c, next)) :
    (c = '"' ∨ c = '\'') ∨ isNameChar c = true := by
  by_contra other
  obtain ⟨unquoted, unnamed⟩ := not_or.1 other
  rw [readAlternatives, readAlternative, found] at read
  simp only [if_neg unquoted, if_neg unnamed] at read
  cases read

/-- What is read as one or more arguments is read as arguments. -/
theorem readArguments_of_ok {text : List Char} {result : List Argument × Remainder input}
    (read : readArgumentList text input = .ok result) :
    readArguments text input = .ok result := by
  rw [readArguments]
  split
  · next closing found =>
    rw [readArgumentList, readArgument, found] at read
    rcases several : readAlternatives text input with e | result
    · simp only [several] at read
      cases read
    · exact absurd (first_of_readAlternatives several found) (by decide)
  · exact read

-- The readers call one another, and the lemmas about them follow them in that.
mutual

theorem readAlternatives_extends {input longer more text : List Char} {types : List Ty}
    {after : Remainder input}
    (read : readAlternatives text input = .ok (types, after)) (text' : List Char)
    (extends' : Extends input longer more) (ends : skipBlanks after.rest = [] → Ends more) :
    ∃ after' : Remainder longer, readAlternatives text' longer = .ok (types, after') ∧
      after'.rest = after.rest ++ more := by
  rw [readAlternatives] at read
  split at read
  · cases read
  · next ty first one =>
    split at read
    · next bar found =>
      split at read
      · cases read
      · next others behind several =>
        cases read
        have shorter := Nat.lt_trans bar.shorter first.shorter
        obtain ⟨first', one', rest⟩ := readAlternative_extends one text' extends'
          fun none => nomatch (skipBlanks_of_next found).symm.trans none
        obtain ⟨bar', found', rest⟩ := (rest ▸ Extends.append first.rest more).nextVisible found
        obtain ⟨behind', several', rest⟩ := readAlternatives_extends several text'
          (rest ▸ Extends.append bar.rest more) ends
        refine ⟨first'.trans (bar'.trans behind'), ?_, rest⟩
        rw [readAlternatives, one']
        simp only [found', several']
    · next last =>
      cases read
      obtain ⟨first', one', rest⟩ := readAlternative_extends one text' extends'
        fun none => (ends none).toPauses
      refine ⟨first', ?_, rest⟩
      rw [readAlternatives, one']
      simp only
      split
      · next bar found =>
        have bar := head?_skipBlanks found
        rw [rest] at bar
        -- What follows begins with no bar, so no further alternative is read.
        exact absurd bar (not_next_append last fun none => (ends none).bar)
      · rfl
termination_by (input.length, 3)

theorem readAlternative_extends {input longer more text : List Char} {ty : Ty}
    {after : Remainder input}
    (read : readAlternative text input = .ok (ty, after)) (text' : List Char)
    (extends' : Extends input longer more) (pauses : skipBlanks after.rest = [] → Pauses more) :
    ∃ after' : Remainder longer, readAlternative text' longer = .ok (ty, after') ∧
      after'.rest = after.rest ++ more := by
  rw [readAlternative] at read
  split at read
  · cases read
  · next c first visible =>
    have shown : skipBlanks longer = c :: (first.rest ++ more) :=
      extends' _ _ (skipBlanks_of_next visible)
    split at read
    · next quotes =>
      -- The contents of quotes are the same, so they are read in the same way.
      split at read
      · cases read
      · next contents behind closed =>
        split at read
        · cases read
        · next ty inner =>
          cases read
          obtain ⟨whole, free⟩ := eq_of_splitAtQuote closed
          have shown : skipBlanks longer = c :: (contents.1 ++ c :: (behind.rest ++ more)) := by
            rw [shown, congrArg (· ++ more) whole, List.append_assoc]
            rfl
          exact readAlternative_quoted text' shown quotes free inner
    · split at read
      · next name =>
        have chars : ∀ d ∈ c :: first.rest.takeWhile isNameChar, isNameChar d = true :=
          List.forall_mem_cons.2 ⟨name, List.all_eq_true.1 List.all_takeWhile⟩
        have shown : skipBlanks longer = c :: (first.rest.takeWhile isNameChar ++
            (first.rest.dropWhile isNameChar ++ more)) := by
          rw [shown, ← List.append_assoc, List.takeWhile_append_dropWhile]
        simp only at read
        split at read
        · next opening literal found =>
          split at read
          · cases read
          · next behind closed =>
            cases read
            have opens := skipBlanks_of_next found
            have apart := head?_append_of_next found more
            obtain ⟨behind', closed', rest⟩ := skipBracketed_append closed more
            obtain ⟨after', read', stop⟩ := readAlternative_literal text' shown chars apart
              (skipBlanks_append_of_cons opens more) literal closed'
            exact ⟨after', read', stop.trans rest⟩
        · next opening found types =>
          split at read
          · cases read
          · next arguments behind inside =>
            split at read
            · cases read
            · next ty made =>
              cases read
              have shorter := Nat.lt_trans opening.shorter (first.dropWhile isNameChar).shorter
              have opens := skipBlanks_of_next found
              have apart := head?_append_of_next found more
              obtain ⟨opening', within, read'⟩ := readAlternative_applied text' shown chars apart
                (skipBlanks_append_of_cons opens more) types
              obtain ⟨behind', inside', rest⟩ := readArguments_extends inside text'
                (within ▸ Extends.append opening.rest more)
              refine ⟨opening'.trans behind', ?_, rest⟩
              rw [read', inside']
              simp only [made]
        · next last _ =>
          split at read
          · cases read
          · next ty made =>
            cases read
            refine readAlternative_bare text' shown chars ⟨head?_append_of_name fun none => ?_, ?_⟩
              made
            · refine (pauses ?_).name
              change (first.rest.dropWhile isNameChar).dropWhile isBlank = _
              rw [none]
              rfl
            · exact not_next_append last fun none => (pauses none).bracket
      · cases read
termination_by (input.length, 2)

theorem readArguments_extends {input longer more text : List Char} {arguments : List Argument}
    {after : Remainder input} (read : readArguments text input = .ok (arguments, after))
    (text' : List Char) (extends' : Extends input longer more) :
    ∃ after' : Remainder longer, readArguments text' longer = .ok (arguments, after') ∧
      after'.rest = after.rest ++ more := by
  rw [readArguments] at read
  split at read
  · next closing found =>
    cases read
    obtain ⟨closing', found', rest⟩ := extends'.nextVisible found
    exact ⟨closing', by rw [readArguments, found']; rfl, rest⟩
  · obtain ⟨after', read', rest⟩ := readArgumentList_extends read text' extends'
    exact ⟨after', readArguments_of_ok read', rest⟩
termination_by (input.length, 6)

theorem readArgumentList_extends {input longer more text : List Char} {arguments : List Argument}
    {after : Remainder input} (read : readArgumentList text input = .ok (arguments, after))
    (text' : List Char) (extends' : Extends input longer more) :
    ∃ after' : Remainder longer, readArgumentList text' longer = .ok (arguments, after') ∧
      after'.rest = after.rest ++ more := by
  rw [readArgumentList] at read
  split at read
  · cases read
  · next argument first one =>
    split at read
    · next closing found =>
      cases read
      obtain ⟨first', one', rest⟩ := readArgument_extends one text' extends'
        (skipBlanks_of_next found ▸ List.cons_ne_nil _ _)
      obtain ⟨closing', found', rest⟩ :=
        (rest ▸ Extends.append first.rest more).nextVisible found
      refine ⟨first'.trans closing', ?_, rest⟩
      rw [readArgumentList, one']
      simp only [found']
    · next comma found =>
      split at read
      · cases read
      · next others behind several =>
        cases read
        have shorter := Nat.lt_trans comma.shorter first.shorter
        obtain ⟨first', one', rest⟩ := readArgument_extends one text' extends'
          (skipBlanks_of_next found ▸ List.cons_ne_nil _ _)
        obtain ⟨comma', found', rest⟩ :=
          (rest ▸ Extends.append first.rest more).nextVisible found
        obtain ⟨behind', several', rest⟩ := readArgumentList_extends several text'
          (rest ▸ Extends.append comma.rest more)
        refine ⟨first'.trans (comma'.trans behind'), ?_, rest⟩
        rw [readArgumentList, one']
        simp only [found', several']
    · cases read
termination_by (input.length, 5)

theorem readArgument_extends {input longer more text : List Char} {argument : Argument}
    {after : Remainder input}
    (read : readArgument text input = .ok (argument, after)) (text' : List Char)
    (extends' : Extends input longer more) (visible : skipBlanks after.rest ≠ []) :
    ∃ after' : Remainder longer, readArgument text' longer = .ok (argument, after') ∧
      after'.rest = after.rest ++ more := by
  rw [readArgument] at read
  split at read
  · next opening found =>
    split at read
    · cases read
    · next arguments behind inside =>
      cases read
      have shorter := opening.shorter
      obtain ⟨opening', found', rest⟩ := extends'.nextVisible found
      obtain ⟨behind', inside', rest⟩ := readArguments_extends inside text'
        (rest ▸ Extends.append opening.rest more)
      refine ⟨opening'.trans behind', ?_, rest⟩
      rw [readArgument, found']
      simp only [inside']
  · next dot found =>
    cases read
    obtain ⟨dot', found', rest⟩ := extends'.nextVisible found
    refine ⟨_, by rw [readArgument, found']; rfl, ?_⟩
    -- The dots end before something visible, so they do not run on into what follows.
    have stays : dot.rest.dropWhile (fun c => isBlank c || c = '.') ≠ [] := fun none =>
      visible (congrArg skipBlanks none)
    change dot'.rest.dropWhile _ = dot.rest.dropWhile _ ++ more
    rw [rest, List.dropWhile_append, if_neg (by rwa [List.isEmpty_iff])]
  · next bracket dot =>
    split at read
    · cases read
    · next types first several =>
      cases read
      obtain ⟨first', several', rest⟩ := readAlternatives_extends several text' extends'
        fun none => absurd none visible
      obtain ⟨c, next, found⟩ := exists_next_of_readAlternatives several
      obtain ⟨next', found', -⟩ := extends'.nextVisible found
      refine ⟨first', ?_, rest⟩
      rw [readArgument, found']
      split
      · next same =>
        cases same
        exact absurd found (bracket next)
      · next same =>
        cases same
        exact absurd found (dot next)
      · rw [several']
termination_by (input.length, 4)

end

end Annotation

end Understudy
