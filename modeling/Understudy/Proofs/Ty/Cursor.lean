import Understudy.Proofs.Ty.Faults
import Understudy.Ty.Cursor

/-!
# Reading with a cursor

With fuel in proportion to the length of the text, reading with a cursor comes to the same end as
reading off the text does. So it ends, and the cursor never leaves the text or stands inside a
character.

* `Cursor.moveTo_eq`: where the cursor may stand.
* `Cursor.whole_eq`: what reading with a cursor comes to.
* `Ty.ofAnnotation_total`: reading ends, and faults are told at places in the text or in quotes.
-/

namespace Understudy

namespace Cursor

open Annotation

variable {text front part back rest input : List Char} {c : Char} {pos offset fuel : Nat}

/-! ## Places -/

/-- What is dropped first may be dropped together with the rest. -/
theorem dropWhile_dropWhile {p q : Char → Bool} (weaker : ∀ c, p c = true → q c = true)
    (text : List Char) : (text.dropWhile p).dropWhile q = text.dropWhile q := by
  induction text with
  | nil => rfl
  | cons c text ih =>
    by_cases here : p c = true
    · rw [List.dropWhile_cons_of_pos here, List.dropWhile_cons_of_pos (weaker c here), ih]
    · rw [List.dropWhile_cons_of_neg here]

theorem splitAt_append (front back : List Char) :
    splitAt (front ++ back) (byteLength front) = .ok (front, back) := by
  induction front with
  | nil => cases back <;> rfl
  | cons c front ih =>
    obtain ⟨offset, whole⟩ : ∃ offset, c.utf8Size + byteLength front = offset + 1 :=
      Nat.exists_eq_add_one.2 (Nat.add_pos_left c.utf8Size_pos _)
    have behind : offset + 1 - c.utf8Size = byteLength front := by omega
    rw [List.cons_append, byteLength, whole, splitAt, if_pos (by omega), behind, ih]
    rfl

/-- A text is split at a place in it. -/
theorem exists_append_of_splitAt (text : List Char) (offset : Nat) :
    (∃ front back, text = front ++ back ∧ byteLength front = offset) ∨
      splitAt text offset = .error .outOfText := by
  induction text generalizing offset with
  | nil =>
    cases offset with
    | zero => exact .inl ⟨[], [], rfl, rfl⟩
    | succ offset => exact .inr rfl
  | cons c text ih =>
    cases offset with
    | zero => exact .inl ⟨[], _, rfl, rfl⟩
    | succ offset =>
      rw [splitAt]
      split
      · next fits =>
        rcases ih (offset + 1 - c.utf8Size) with ⟨front, back, rfl, width⟩ | none
        · exact .inl ⟨c :: front, back, rfl, by rw [byteLength, width]; omega⟩
        · exact .inr (by rw [none]; rfl)
      · exact .inr rfl

/-- The cursor may stand before, between and behind the characters of the text, and nowhere else. -/
theorem moveTo_eq (text : List Char) (offset : Nat) :
    moveTo text offset =
      if String.Pos.Raw.IsValid (String.ofList text) ⟨offset⟩ then .ok offset
      else .error .outOfText := by
  split
  · next place =>
    obtain ⟨front, back, rfl, rfl⟩ := isValid_ofList_iff.1 place
    rw [moveTo, splitAt_append]
    rfl
  · next elsewhere =>
    rcases exists_append_of_splitAt text offset with place | none
    · exact absurd (isValid_ofList_iff.2 place) elsewhere
    · rw [moveTo, none]
      rfl

example : moveTo ['é', 't', 'é'] 3 = .ok 3 ∧ moveTo ['é', 't', 'é'] 4 = .error .outOfText := by
  decide

/-- Whether the cursor stands before the rest of the text. -/
def At (text rest : List Char) (pos : Nat) : Prop :=
  ∃ front, text = front ++ rest ∧ byteLength front = pos

/-- Whether the cursor stands before the rest of the text, except for blanks. -/
def Before (text rest : List Char) (pos : Nat) : Prop :=
  ∃ there, At text there pos ∧ skipBlanks there = skipBlanks rest

namespace At

theorem start (text : List Char) : At text text 0 := ⟨[], rfl, rfl⟩

theorem append (h : At text (part ++ rest) pos) : At text rest (pos + byteLength part) := by
  obtain ⟨front, rfl, rfl⟩ := h
  exact ⟨front ++ part, (List.append_assoc ..).symm, byteLength_append front part⟩

theorem cons (h : At text (c :: rest) pos) : At text rest (pos + c.utf8Size) :=
  @append text [c] rest pos h

theorem moves (h : At text rest pos) : moveTo text pos = .ok pos := by
  obtain ⟨front, split, width⟩ := h
  rw [moveTo_eq, if_pos (isValid_ofList_iff.2 ⟨front, rest, split, width⟩)]

theorem slices_from (h : At text rest pos) : sliceFrom text pos = .ok rest := by
  obtain ⟨front, rfl, rfl⟩ := h
  rw [sliceFrom, splitAt_append]
  rfl

theorem slices (h : At text (part ++ rest) pos) : slice text pos (byteLength part) = .ok part := by
  rw [slice, h.slices_from]
  change (splitAt (part ++ rest) (byteLength part) >>= _) = _
  rw [splitAt_append]
  rfl

theorem refuses {α : Type} (h : At text rest pos) (fault : AnnotationFault) :
    refuse text pos fault = (.error (.refused (.before text rest fault)) : Except Stop α) := by
  obtain ⟨front, rfl, rfl⟩ := h
  rw [refuse, AnnotationError.before, byteLength_append, Nat.add_sub_cancel]

/-- The cursor stands behind the text exactly if nothing remains. -/
theorem ended_iff (h : At text rest pos) : pos = byteLength text ↔ rest = [] := by
  obtain ⟨front, rfl, rfl⟩ := h
  rw [byteLength_append]
  cases rest with
  | nil => exact iff_of_true rfl rfl
  | cons c rest =>
    have width : 0 < byteLength (c :: rest) := Nat.add_pos_left c.utf8Size_pos _
    exact iff_of_false (by omega) (List.cons_ne_nil _ _)

theorem before (h : At text rest pos) : Before text rest pos := ⟨rest, h, rfl⟩

theorem before_blanks (h : At text (skipBlanks rest) pos) : Before text rest pos :=
  ⟨_, h, dropWhile_dropWhile (fun _ => id) rest⟩

end At

namespace Before

theorem skips (h : Before text rest pos) : ∃ pos', skip text pos = .ok pos' ∧
    At text (skipBlanks rest) pos' := by
  obtain ⟨there, place, same⟩ := h
  have whole : there = there.takeWhile isBlank ++ skipBlanks there :=
    List.takeWhile_append_dropWhile.symm
  have width : byteLength there - byteLength (skipBlanks there) =
      byteLength (there.takeWhile isBlank) := by
    rw [congrArg byteLength whole, byteLength_append, Nat.add_sub_cancel]
  have behind := At.append (whole ▸ place)
  refine ⟨_, ?_, same ▸ behind⟩
  rw [skip, place.slices_from]
  change moveTo text (pos + (byteLength there - _)) = _
  rw [width, behind.moves]

theorem peeks (h : Before text rest pos) : ∃ pos',
    peek text pos = .ok ((skipBlanks rest).head?, pos') ∧
      At text (skipBlanks rest) pos' := by
  obtain ⟨pos', skipped, place⟩ := h.skips
  refine ⟨pos', ?_, place⟩
  rw [peek, skipped]
  change (sliceFrom text pos' >>= _) = _
  rw [place.slices_from]
  rfl

/-- The next visible character is read. -/
theorem eats (h : Before text rest pos) (shown : skipBlanks rest = c :: back) :
    ∃ pos', eat text c pos = .ok (true, pos') ∧ At text back pos' := by
  obtain ⟨pos', peeked, place⟩ := h.peeks
  rw [shown] at peeked place
  refine ⟨pos' + c.utf8Size, ?_, place.cons⟩
  rw [eat, peeked]
  change (if some c = some c then _ else _) = _
  rw [if_pos rfl, place.cons.moves]
  rfl

/-- No other character is read. -/
theorem eats_not (h : Before text rest pos) (other : (skipBlanks rest).head? ≠ some c) :
    ∃ pos', eat text c pos = .ok (false, pos') ∧
      At text (skipBlanks rest) pos' := by
  obtain ⟨pos', peeked, place⟩ := h.peeks
  refine ⟨pos', ?_, place⟩
  rw [eat, peeked]
  exact if_neg other

end Before

/-! ## Parts without types -/

theorem find_append {p : Char → Bool} (free : ∀ c ∈ front, p c = false) (hit : p c = true) :
    find p (front ++ c :: rest) = some (byteLength front) := by
  induction front with
  | nil => exact if_pos hit
  | cons d front ih =>
    obtain ⟨here, behind⟩ := List.forall_mem_cons.1 free
    rw [List.cons_append, find, if_neg (by simp [here]), ih behind]
    rfl

theorem find_eq_none {p : Char → Bool} (free : ∀ c ∈ text, p c = false) : find p text = none := by
  induction text with
  | nil => rfl
  | cons c text ih =>
    obtain ⟨here, behind⟩ := List.forall_mem_cons.1 free
    rw [find, if_neg (by simp [here]), ih behind]
    rfl

/-- The offset behind a run of characters of a kind. -/
theorem getD_find (p : Char → Bool) (text : List Char) :
    (find (fun c => !p c) text).getD (byteLength text) = byteLength (text.takeWhile p) := by
  induction text with
  | nil => rfl
  | cons c text ih =>
    rw [find]
    by_cases here : p c = true
    · rw [if_neg (by simp [here]), List.takeWhile_cons_of_pos here, byteLength, byteLength, ← ih]
      cases find (fun c => !p c) text <;> rfl
    · rw [if_pos (by simp [here]), List.takeWhile_cons_of_neg here]
      rfl

theorem findClosing_cons (depth : Nat) (quote : Option Char) (c : Char) (rest : List Char) :
    findClosing (depth + 1) quote (c :: rest) =
      match nest depth quote c with
      | some depth =>
        (findClosing (depth + 1) (toggle quote c) rest).map (c.utf8Size + ·)
      | none => some 0 := by
  cases quote with
  | some quote => rfl
  | none =>
    simp only [findClosing, nest, toggle]
    split
    · next quotes =>
      have apart : c ≠ '[' ∧ c ≠ ']' := by rcases quotes with rfl | rfl <;> decide
      simp only [if_neg apart.1, if_neg apart.2]
    · split
      · rfl
      · split
        · cases depth <;> rfl
        · rfl

/-- The closing bracket is found where skipping ends. -/
theorem findClosing_eq (depth : Nat) (quote : Option Char) (text : List Char) :
    (∃ front, ∃ after : Remainder text, skipBracketed depth quote text = some after ∧
      text = front ++ ']' :: after.rest ∧
      findClosing (depth + 1) quote text = some (byteLength front)) ∨
    skipBracketed depth quote text = none ∧
      findClosing (depth + 1) quote text = none := by
  induction text generalizing depth quote with
  | nil => exact .inr ⟨rfl, rfl⟩
  | cons c text ih =>
    rw [skipBracketed_cons, findClosing_cons]
    rcases nested : nest depth quote c with _ | depth
    · obtain ⟨-, -, rfl⟩ := nest_eq_none_iff.1 nested
      exact .inl ⟨[], _, rfl, rfl, rfl⟩
    · simp only
      rcases ih depth (toggle quote c) with ⟨front, after, closed, whole, found⟩ |
        ⟨open', none⟩
      · rw [closed, found]
        exact .inl ⟨c :: front, _, rfl, congrArg (c :: ·) whole, rfl⟩
      · rw [open', none]
        exact .inr ⟨rfl, rfl⟩

theorem Before.reads_dots (h : Before text input pos) (enough : input.length < fuel) :
    ∃ pos', dots fuel text pos = .ok pos' ∧
      Before text (input.dropWhile fun c => isBlank c || c = '.') pos' := by
  induction fuel generalizing input pos with
  | zero => exact absurd enough (Nat.not_lt_zero _)
  | succ fuel ih =>
    -- Blanks between dots are dropped together with the dots.
    have skipped := dropWhile_dropWhile (p := isBlank) (q := fun c => isBlank c || c = '.')
      (fun c blank => by simp [blank]) input
    rw [dots]
    by_cases dot : (skipBlanks input).head? = some '.'
    · obtain ⟨rest, shown⟩ := List.head?_eq_some_iff.1 dot
      obtain ⟨pos', eaten, place⟩ := h.eats shown
      have shorter : rest.length < input.length := by
        have suffix := (List.dropWhile_suffix isBlank (l := input)).length_le
        change (skipBlanks input).length ≤ _ at suffix
        rw [shown] at suffix
        exact suffix
      obtain ⟨pos'', read, behind⟩ := ih place.before (by omega)
      refine ⟨pos'', ?_, ?_⟩
      · rw [eaten]
        exact read
      · change (skipBlanks input).dropWhile _ = _ at skipped
        rw [← skipped, shown, List.dropWhile_cons_of_pos (by decide)]
        exact behind
    · obtain ⟨pos', eaten, place⟩ := h.eats_not dot
      refine ⟨pos', by rw [eaten]; rfl, ?_⟩
      change (skipBlanks input).dropWhile _ = _ at skipped
      rw [← skipped]
      rcases shown : skipBlanks input with _ | ⟨c, rest⟩
      · exact (shown ▸ place).before
      · have visible := List.head?_dropWhile_not isBlank input
        rw [show input.dropWhile isBlank = c :: rest from shown] at visible
        rw [shown] at dot place
        rw [List.dropWhile_cons_of_neg (by simpa using ⟨visible, fun same => dot (same ▸ rfl)⟩)]
        exact place.before

/-- A name is read up to its end. -/
theorem Before.reads_name (h : Before text input pos) (shown : skipBlanks input = c :: rest)
    (named : isNameChar c = true) : ∃ pos', name text pos =
      .ok (c :: rest.takeWhile isNameChar, pos') ∧ At text (rest.dropWhile isNameChar) pos' := by
  obtain ⟨start, skipped, place⟩ := h.skips
  have whole : skipBlanks input =
      (c :: rest.takeWhile isNameChar) ++ rest.dropWhile isNameChar := by
    rw [shown, List.cons_append, List.takeWhile_append_dropWhile]
  have width := getD_find isNameChar (skipBlanks input)
  rw [shown, List.takeWhile_cons_of_pos named, ← shown] at width
  have read := place
  rw [whole] at read
  refine ⟨start + byteLength (c :: rest.takeWhile isNameChar), ?_, read.append⟩
  rw [name, skipped]
  simp only [bind, Except.bind, place.slices_from, width]
  have some : byteLength (c :: rest.takeWhile isNameChar) ≠ 0 :=
    Nat.ne_of_gt (Nat.add_pos_left c.utf8Size_pos _)
  rw [if_neg some, read.append.moves]
  simp only [read.slices]
  rfl

/-- Where no name begins there is none. -/
theorem Before.refuses_name (h : Before text input pos)
    (other : ∀ c ∈ (skipBlanks input).head?, isNameChar c = false) :
    name text pos = .error (.refused (.before text (skipBlanks input) .expectedTypeName)) := by
  obtain ⟨start, skipped, place⟩ := h.skips
  have width : byteLength ((skipBlanks input).takeWhile isNameChar) = 0 := by
    generalize skipBlanks input = shown at other
    cases shown with
    | nil => rfl
    | cons c rest =>
      rw [List.takeWhile_cons_of_neg (by simp [other c rfl])]
      rfl
  rw [name, skipped]
  simp only [bind, Except.bind, place.slices_from, getD_find, width, if_pos, place.refuses]

/-- Arguments that are not types are passed over. -/
theorem Before.skips_arguments (h : Before text input pos) (shown : skipBlanks input = '[' :: rest)
    {after : Remainder rest} (closed : skipBracketed 0 none rest = some after) :
    ∃ pos', skipArguments text pos = .ok pos' ∧ At text after.rest pos' := by
  obtain ⟨pos', eaten, place⟩ := h.eats shown
  rcases findClosing_eq 0 none rest with ⟨front, after', closed', whole, found⟩ | ⟨none, -⟩
  · cases closed.symm.trans closed'
    have behind := (whole ▸ place).append.cons
    refine ⟨_, ?_, behind⟩
    rw [skipArguments, eaten]
    simp only [bind, Except.bind, if_pos, place.slices_from, found]
    exact behind.moves
  · cases closed.symm.trans none

theorem Before.refuses_arguments (h : Before text input pos)
    (shown : skipBlanks input = '[' :: rest) (none : skipBracketed 0 none rest = none) :
    skipArguments text pos = .error (.refused (.before text [] .unterminatedArguments)) := by
  obtain ⟨pos', eaten, place⟩ := h.eats shown
  rcases findClosing_eq 0 .none rest with ⟨front, after', closed', -⟩ | ⟨-, found⟩
  · cases none.symm.trans closed'
  · have ended : At text [] (byteLength text) := ⟨text, (List.append_nil _).symm, rfl⟩
    rw [skipArguments, eaten]
    simp only [bind, Except.bind, if_pos, place.slices_from, found, ended.moves, ended.refuses]

/-- Arguments are passed over only where brackets open. -/
theorem Before.skips_no_arguments (h : Before text input pos)
    (other : (skipBlanks input).head? ≠ some '[') :
    ∃ pos', skipArguments text pos = .ok pos' ∧ At text (skipBlanks input) pos' := by
  obtain ⟨pos', eaten, place⟩ := h.eats_not other
  refine ⟨pos', ?_, place⟩
  rw [skipArguments, eaten]
  rfl

/-! ## Types -/

/-- Reading with the cursor comes to the same end as reading the rest of the text: the same error,
    or what is kept of the same result, and the cursor stands where the text remains. -/
inductive Follows (stands : List Char → Nat → Prop) {α β : Type} (keep : α → β)
    {input : List Char} :
    Except AnnotationError (α × Remainder input) → Except Stop (β × Nat) → Prop
  | ok {a : α} {after : Remainder input} {pos : Nat} : stands after.rest pos →
      Follows stands keep (.ok (a, after)) (.ok (keep a, pos))
  | error {e : AnnotationError} : Follows stands keep (.error e) (.error (.refused e))

/-- Nothing is read where no brackets open. -/
theorem Before.reads_no_arguments (h : Before text input pos)
    (other : (skipBlanks input).head? ≠ some '[') (fuel : Nat) :
    ∃ pos', arguments (fuel + 1) text pos = .ok ([], pos') ∧ At text (skipBlanks input) pos' := by
  obtain ⟨pos', eaten, place⟩ := h.eats_not other
  refine ⟨pos', ?_, place⟩
  rw [arguments, eaten]
  rfl

-- The readers call one another, and the lemmas about them follow them in that. A reader that is
-- called has less of the text before it or stands before its caller in a fixed order, and the
-- bounds have fuel for both.
mutual

theorem whole_eq {text : List Char} (fuel : Nat) (enough : 8 * text.length + 4 < fuel) :
    whole fuel text = (readWhole text).mapError .refused := by
  obtain ⟨fuel, rfl⟩ := Nat.exists_eq_add_one.2 (Nat.zero_lt_of_lt enough)
  have read := alternatives_follows fuel (At.start text).before (by omega)
  rw [whole, readWhole]
  generalize readAlternatives text text = result at read ⊢
  generalize alternatives fuel text 0 = result' at read ⊢
  cases read with
  | error => rfl
  | @ok types after pos place =>
    obtain ⟨pos', skipped, place⟩ := place.skips
    simp only [bind, Except.bind, skipped, place.ended_iff, place.refuses]
    split <;> rename_i ended
    · rw [ended]
      rfl
    · generalize skipBlanks after.rest = rest at ended
      cases rest with
      | nil => exact absurd rfl ended
      | cons => rfl
termination_by (text.length, 4)

theorem alternatives_follows {text input : List Char} {pos : Nat} (fuel : Nat)
    (place : Before text input pos) (enough : 8 * input.length + 3 < fuel) :
    Follows (Before text) id (readAlternatives text input) (alternatives fuel text pos) := by
  obtain ⟨fuel, rfl⟩ := Nat.exists_eq_add_one.2 (Nat.zero_lt_of_lt enough)
  have first := alternative_follows fuel place (by omega)
  rw [alternatives, readAlternatives]
  -- Only that the two results correspond is used from here on.
  generalize readAlternative text input = result at first ⊢
  generalize alternative fuel text pos = result' at first ⊢
  cases first with
  | error => exact .error
  | @ok ty after pos place =>
    simp only [bind, Except.bind]
    split
    · next bar found =>
      have shorter := Nat.lt_trans bar.shorter after.shorter
      obtain ⟨pos', eaten, place⟩ := place.eats (skipBlanks_of_next found)
      have others := alternatives_follows fuel place.before (by omega)
      simp only [eaten, if_pos]
      generalize readAlternatives text bar.rest = result at others ⊢
      generalize alternatives fuel text pos' = result' at others ⊢
      cases others with
      | error => exact .error
      | ok place => exact .ok place
    · next other =>
      obtain ⟨pos', eaten, place⟩ := place.eats_not (head?_ne_of_not_next other)
      simp only [eaten]
      exact .ok place.before_blanks
termination_by (input.length, 3)

theorem alternative_follows {text input : List Char} {pos : Nat} (fuel : Nat)
    (place : Before text input pos) (enough : 8 * input.length + 2 < fuel) :
    Follows (Before text) id (readAlternative text input) (alternative fuel text pos) := by
  obtain ⟨fuel, rfl⟩ := Nat.exists_eq_add_one.2 (Nat.zero_lt_of_lt enough)
  obtain ⟨pos', peeked, place⟩ := place.peeks
  rw [alternative]
  simp only [bind, Except.bind, peeked]
  split
  · next quote found =>
    obtain ⟨shown, quotes⟩ := Option.filter_eq_some_iff.1 found
    obtain ⟨rest, shown⟩ := List.head?_eq_some_iff.1 shown
    obtain ⟨after, found, rfl⟩ := nextVisible_of_skipBlanks shown
    rw [shown] at place
    exact quoted_follows fuel place found (of_decide_eq_true quotes) (by omega)
  · next none =>
    refine applied_follows fuel place.before_blanks (fun c after found => ?_) (by omega)
    have shown := Option.filter_eq_none_iff.1 none c (head?_skipBlanks found)
    exact fun quotes => shown (decide_eq_true quotes)
termination_by (input.length, 2)

theorem quoted_follows {text input : List Char} {quote : Char} {after : Remainder input} {pos : Nat}
    (fuel : Nat) (place : At text (quote :: after.rest) pos)
    (found : nextVisible input = some (quote, after)) (quotes : quote = '"' ∨ quote = '\'')
    (enough : 8 * input.length + 1 < fuel) :
    Follows (Before text) id (readAlternative text input) (quoted fuel text quote pos) := by
  obtain ⟨fuel, rfl⟩ := Nat.exists_eq_add_one.2 (Nat.zero_lt_of_lt enough)
  have place := place.cons
  rw [quoted, readAlternative, found]
  simp only [bind, Except.bind, place.moves, place.slices_from, if_pos quotes]
  rcases closed : splitAtQuote quote after.rest with _ | ⟨contents, behind⟩
  -- Without a closing quote the search finds nothing.
  · have none : find (fun c => decide (c = quote)) after.rest = none :=
      find_eq_none fun c mem => decide_eq_false fun same =>
        not_mem_of_splitAtQuote closed (same ▸ mem)
    simp only [none, place.refuses]
    exact .error
  · have shorter := Nat.lt_trans contents.2 after.shorter
    obtain ⟨whole', free⟩ := eq_of_splitAtQuote closed
    have inside : whole fuel contents.1 = _ := whole_eq fuel (by omega)
    -- The closing quote is found as many bytes on as the contents have.
    have length : find (fun c => decide (c = quote)) after.rest = some (byteLength contents.1) :=
      (congrArg _ whole').trans (find_append
        (fun c mem => decide_eq_false fun same => free (same ▸ mem)) (decide_eq_true rfl))
    rw [whole'] at place
    have beyond := place.append.cons
    simp only [length, beyond.moves, place.slices, inside]
    rcases readWhole contents.1 with e | ty
    · exact .error
    · exact .ok beyond.before
termination_by (input.length, 1)

theorem applied_follows {text input : List Char} {pos : Nat} (fuel : Nat)
    (place : Before text input pos)
    (unquoted : ∀ c after, nextVisible input = some (c, after) → ¬ (c = '"' ∨ c = '\''))
    (enough : 8 * input.length + 1 < fuel) :
    Follows (Before text) id (readAlternative text input) (applied fuel text pos) := by
  obtain ⟨fuel, rfl⟩ := Nat.exists_eq_add_one.2 (Nat.zero_lt_of_lt enough)
  rw [applied, readAlternative]
  rcases found : nextVisible input with _ | ⟨c, after⟩
  · have shown : skipBlanks input = [] := nextBeyond_eq_none_iff.1 found
    rw [place.refuses_name (by simp [shown]), shown]
    exact .error
  · have shown := skipBlanks_of_next found
    simp only [if_neg (unquoted c after found)]
    by_cases named : isNameChar c = true
    · obtain ⟨pos', read, place⟩ := place.reads_name shown named
      simp only [bind, Except.bind, read, if_pos named]
      change At text (after.dropWhile isNameChar).rest pos' at place
      split
      · next opening literal opens =>
        have shown := skipBlanks_of_next opens
        rw [if_pos literal]
        rcases closed : skipBracketed 0 none opening.rest with _ | behind
        · simp only [place.before.refuses_arguments shown closed]
          exact .error
        · obtain ⟨pos'', skipped, place⟩ := place.before.skips_arguments shown closed
          simp only [skipped]
          exact .ok place.before
      · next opening opens types =>
        have shorter := Nat.lt_trans opening.shorter (after.dropWhile isNameChar).shorter
        have inside := arguments_follows fuel place.before (skipBlanks_of_next opens)
          (by omega)
        rw [if_neg fun literal => types literal]
        generalize readArguments text opening.rest = result at inside ⊢
        generalize arguments fuel text pos' = result' at inside ⊢
        cases inside with
        | error => exact .error
        | @ok read behind pos place =>
          simp only
          rcases (Head.ofName (c :: after.rest.takeWhile isNameChar)).apply _ _ with fault | ty
          · simp only [place.refuses]
            exact .error
          · exact .ok place.before
      · next last _ =>
        have other := head?_ne_of_not_next last
        by_cases literal : Head.ofName (c :: after.rest.takeWhile isNameChar) = .literal
        -- A literal type without arguments is left unread like one with them.
        · obtain ⟨pos'', skipped, place⟩ := place.before.skips_no_arguments other
          rw [if_pos literal, literal]
          simp only [skipped, Head.apply]
          exact .ok place.before_blanks
        · have shorter := after.shorter
          obtain ⟨fuel, rfl⟩ := Nat.exists_eq_add_one.2 (show 0 < fuel by omega)
          obtain ⟨pos'', read, place⟩ := place.before.reads_no_arguments other fuel
          rw [if_neg literal]
          simp only [read]
          rcases (Head.ofName (c :: after.rest.takeWhile isNameChar)).apply _ [] with fault | ty
          · simp only [place.refuses]
            exact .error
          · exact .ok place.before_blanks
    · rw [place.refuses_name (by simpa [shown] using named), shown]
      simp only [if_neg named]
      exact .error
termination_by (input.length, 1)

theorem arguments_follows {text input inner : List Char} {pos : Nat} (fuel : Nat)
    (place : Before text input pos) (shown : skipBlanks input = '[' :: inner)
    (enough : 8 * inner.length + 6 < fuel) :
    Follows (At text) countingTypes (readArguments text inner) (arguments fuel text pos) := by
  obtain ⟨fuel, rfl⟩ := Nat.exists_eq_add_one.2 (Nat.zero_lt_of_lt enough)
  obtain ⟨pos', eaten, place⟩ := place.eats shown
  rw [arguments, readArguments]
  simp only [bind, Except.bind, eaten, if_pos]
  split
  · next after found =>
    obtain ⟨pos'', eaten, place⟩ := place.before.eats (skipBlanks_of_next found)
    simp only [eaten, if_pos]
    exact .ok place
  · next other =>
    obtain ⟨pos'', eaten, place⟩ := place.before.eats_not (head?_ne_of_not_next other)
    simp only [eaten]
    exact argumentList_follows fuel [] place.before_blanks (by omega)
termination_by (inner.length, 6)

theorem argumentList_follows {text input : List Char} {pos : Nat} (fuel : Nat) (sofar : List Ty)
    (place : Before text input pos) (enough : 8 * input.length + 5 < fuel) :
    Follows (At text) (fun arguments => arguments.foldl countNext sofar)
      (readArgumentList text input) (argumentList fuel text sofar pos) := by
  obtain ⟨fuel, rfl⟩ := Nat.exists_eq_add_one.2 (Nat.zero_lt_of_lt enough)
  have first := argument_follows fuel sofar place (by omega)
  rw [argumentList, readArgumentList]
  generalize readArgument text input = result at first ⊢
  generalize argument fuel text sofar pos = result' at first ⊢
  cases first with
  | error => exact .error
  | @ok argument after pos place =>
    simp only [bind, Except.bind]
    split
    · next behind found =>
      obtain ⟨pos', eaten, place⟩ := place.eats (skipBlanks_of_next found)
      simp only [eaten, if_pos]
      exact .ok place
    · next comma found =>
      have shorter := Nat.lt_trans comma.shorter after.shorter
      have shown := skipBlanks_of_next found
      -- The closing bracket is looked for first, and blanks are skipped for that.
      obtain ⟨pos', closed, place⟩ := place.eats_not (c := ']') (by simp [shown])
      obtain ⟨pos'', eaten, place⟩ := place.before_blanks.eats shown
      have others := argumentList_follows fuel (countNext sofar argument) place.before (by omega)
      simp only [closed, eaten, if_pos]
      generalize readArgumentList text comma.rest = result at others ⊢
      generalize argumentList fuel text (countNext sofar argument) pos'' = result' at others ⊢
      cases others with
      | error => exact .error
      | ok place => exact .ok place
    · next bracket comma =>
      obtain ⟨pos', closed, place⟩ := place.eats_not (head?_ne_of_not_next bracket)
      obtain ⟨pos'', eaten, place⟩ := place.before_blanks.eats_not (head?_ne_of_not_next comma)
      simp only [closed, eaten, place.refuses]
      exact .error
termination_by (input.length, 5)

theorem argument_follows {text input : List Char} {pos : Nat} (fuel : Nat) (sofar : List Ty)
    (place : Before text input pos) (enough : 8 * input.length + 4 < fuel) :
    Follows (Before text) (countNext sofar) (readArgument text input)
      (argument fuel text sofar pos) := by
  obtain ⟨fuel, rfl⟩ := Nat.exists_eq_add_one.2 (Nat.zero_lt_of_lt enough)
  obtain ⟨pos', peeked, place⟩ := place.peeks
  have place := place.before_blanks
  rw [argument, readArgument]
  simp only [bind, Except.bind, peeked]
  split
  · next opening found =>
    have shorter := opening.shorter
    have inside := arguments_follows fuel place (skipBlanks_of_next found) (by omega)
    rw [if_pos (head?_skipBlanks found)]
    generalize readArguments text opening.rest = result at inside ⊢
    generalize arguments fuel text pos' = result' at inside ⊢
    cases inside with
    | error => exact .error
    | ok place => exact .ok place.before
  · next dot found =>
    have shorter := dot.shorter
    have shown := skipBlanks_of_next found
    obtain ⟨pos'', eaten, place⟩ := place.eats shown
    have fewer : dot.rest.length < fuel := by omega
    obtain ⟨stop, read, place⟩ := place.before.reads_dots fewer
    rw [if_neg (by simp [shown])]
    simp only [eaten, if_pos, read]
    exact .ok place
  · next bracket dot =>
    obtain ⟨pos'', eaten, place⟩ := place.eats_not (head?_ne_of_not_next dot)
    have types := alternatives_follows fuel place.before_blanks (by omega)
    rw [if_neg (head?_ne_of_not_next bracket)]
    simp only [eaten]
    generalize readAlternatives text input = result at types ⊢
    generalize alternatives fuel text pos'' = result' at types ⊢
    cases types with
    | error => exact .error
    | ok place => exact .ok place
termination_by (input.length, 4)

end

end Cursor

open Annotation

/-- Reading an annotation ends: fuel in proportion to its length is enough for reading it with the
    cursor, which stays at places in the text on the way. If the text is refused, the error tells a
    place in its input, and the input is the text or the contents of quotes in it. -/
theorem Ty.ofAnnotation_total (text : String) :
    (∀ fuel, 8 * text.length + 4 < fuel →
      Cursor.whole fuel text.toList = (Ty.ofAnnotation text).mapError .refused) ∧
    ∀ e, Ty.ofAnnotation text = .error e →
      String.Pos.Raw.IsValid e.input ⟨e.position⟩ ∧ QuotedIn e.input.toList text.toList := by
  refine ⟨fun fuel enough => Cursor.whole_eq fuel ?_, fun e refused => ?_⟩
  · rwa [String.length_toList]
  · have located := located_readWhole text.toList refused
    exact ⟨located.place, located.input⟩

/-- A fault in quotes among the arguments of a constructor, behind a character of two bytes. -/
theorem Ty.ofAnnotation_total_quotes :
    8 * "list['é | ']".length + 4 < 128 ∧
      Ty.ofAnnotation "list['é | ']" = .error ⟨"é | ", 5, .expectedTypeName⟩ ∧
      String.Pos.Raw.IsValid "é | " ⟨5⟩ ∧ QuotedIn "é | ".toList "list['é | ']".toList := by
  obtain ⟨ends, located⟩ := Ty.ofAnnotation_total "list['é | ']"
  have enough : 8 * "list['é | ']".length + 4 < 128 := by decide
  have read : Cursor.whole 128 "list['é | ']".toList =
      .error (.refused ⟨"é | ", 5, .expectedTypeName⟩) := by decide +kernel
  have refused : Ty.ofAnnotation "list['é | ']" = .error ⟨"é | ", 5, .expectedTypeName⟩ := by
    rw [ends 128 enough] at read
    rcases result : Ty.ofAnnotation "list['é | ']" with e | ty <;> rw [result] at read
    · cases read
      rfl
    · cases read
  exact ⟨enough, refused, located _ refused⟩

end Understudy
