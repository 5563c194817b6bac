import Understudy.Proofs.Ty.Reading

/-!
# Where annotations are at fault

The error of a text that is no annotation tells a place between characters of its input, and the
input is the text or what stands in quotes in it. The quotes are read from the front: a quote opens
where none is open, and the next one of its kind closes it.

* `Annotation.QuotedIn`: the contents of quotes in a text, and of the quotes in them.
* `Annotation.located_readWhole`: the fault lies at a place in such contents.
-/

namespace Understudy

/-! ## Places -/

theorem byteLength_append (a b : List Char) :
    byteLength (a ++ b) = byteLength a + byteLength b := by
  induction a with
  | nil => exact (Nat.zero_add _).symm
  | cons c a ih => rw [List.cons_append, byteLength, byteLength, ih, Nat.add_assoc]

theorem utf8ByteSize_ofList (text : List Char) :
    (String.ofList text).utf8ByteSize = byteLength text := by
  induction text with
  | nil => rfl
  | cons c text ih =>
    have whole : String.ofList (c :: text) = String.singleton c ++ String.ofList text := by
      rw [String.singleton_eq_ofList, ← String.ofList_append]
      rfl
    rw [whole, String.utf8ByteSize_append, String.utf8ByteSize_singleton, ih, byteLength]

/-- The places in a text are the ends of its beginnings. -/
theorem isValid_ofList_iff {text : List Char} {offset : Nat} :
    String.Pos.Raw.IsValid (String.ofList text) ⟨offset⟩ ↔
      ∃ front back, text = front ++ back ∧ byteLength front = offset := by
  rw [String.Pos.Raw.isValid_iff_exists_append]
  constructor
  · rintro ⟨front, back, whole, place⟩
    refine ⟨front.toList, back.toList, ?_, ?_⟩
    · rw [← String.toList_append, ← whole, String.toList_ofList]
    · rw [← utf8ByteSize_ofList, String.ofList_toList]
      exact (congrArg String.Pos.Raw.byteIdx place).symm
  · rintro ⟨front, back, rfl, rfl⟩
    refine ⟨String.ofList front, String.ofList back, String.ofList_append, ?_⟩
    rw [← utf8ByteSize_ofList]
    rfl

namespace Annotation

variable {text input rest : List Char} {c : Char}

/-! ## Quotes -/

/-- The contents of quotes in a text and of the quotes in such contents, and the text itself. -/
inductive QuotedIn : (contents text : List Char) → Prop
  | self {text : List Char} : QuotedIn text text
  | inside {front part behind contents : List Char} {quote : Char} :
      front.foldl toggle none = none → quote = '"' ∨ quote = '\'' → quote ∉ part →
      QuotedIn contents part → QuotedIn contents (front ++ quote :: (part ++ quote :: behind))

/-- Whether no quotes are open where the rest of the text begins. -/
def Clear (text rest : List Char) : Prop :=
  ∃ front, text = front ++ rest ∧ front.foldl toggle none = none

theorem Clear.refl (text : List Char) : Clear text text := ⟨[], rfl, rfl⟩

theorem Clear.suffix (clear : Clear text rest) : rest <:+ text := by
  obtain ⟨front, whole, -⟩ := clear
  exact ⟨front, whole.symm⟩

theorem Clear.trans (first : Clear text input) (second : Clear input rest) : Clear text rest := by
  obtain ⟨front, rfl, closed⟩ := first
  obtain ⟨more, rfl, closed'⟩ := second
  refine ⟨front ++ more, (List.append_assoc ..).symm, ?_⟩
  rw [List.foldl_append, closed, closed']

/-- Nothing is opened by characters other than quotes. -/
theorem foldl_toggle {front : List Char} (free : ∀ c ∈ front, ¬ (c = '"' ∨ c = '\'')) :
    front.foldl toggle none = none := by
  induction front with
  | nil => rfl
  | cons c front ih =>
    obtain ⟨here, behind⟩ := List.forall_mem_cons.1 free
    rw [List.foldl_cons, toggle, if_neg fun quotes => here quotes.symm, ih behind]

/-- Quotes stay open while no quote of their kind follows. -/
theorem foldl_toggle_some {quote : Char} {part : List Char} (free : quote ∉ part) :
    part.foldl toggle (some quote) = some quote := by
  induction part with
  | nil => rfl
  | cons c part ih =>
    rw [List.mem_cons, not_or] at free
    rw [List.foldl_cons, toggle, if_neg fun same => free.1 same.symm, ih free.2]

theorem Clear.dropWhile {p : Char → Bool} (free : ∀ c, p c = true → ¬ (c = '"' ∨ c = '\''))
    (rest : List Char) : Clear rest (rest.dropWhile p) :=
  ⟨rest.takeWhile p, List.takeWhile_append_dropWhile.symm,
    foldl_toggle fun c mem => free c (List.all_eq_true.1 List.all_takeWhile c mem)⟩

theorem Clear.skipBlanks (rest : List Char) : Clear rest (skipBlanks rest) := by
  refine .dropWhile (fun c blank => ?_) rest
  rintro (rfl | rfl) <;> exact absurd blank (by decide)

theorem Clear.nextVisible {after : Remainder rest} (found : nextVisible rest = some (c, after))
    (other : ¬ (c = '"' ∨ c = '\'')) : Clear rest after.rest := by
  refine (Clear.skipBlanks rest).trans ⟨[c], skipBlanks_of_next found, ?_⟩
  exact foldl_toggle (List.forall_mem_singleton.2 other)

theorem Clear.quotes {split : {part : List Char // part.length < rest.length} × Remainder rest}
    (quotes : c = '"' ∨ c = '\'') (found : splitAtQuote c rest = some split) :
    Clear (c :: rest) split.2.rest := by
  obtain ⟨whole, free⟩ := eq_of_splitAtQuote found
  refine ⟨c :: (split.1.1 ++ [c]), ?_, ?_⟩
  · rw [List.cons_append, List.append_assoc, List.singleton_append, ← whole]
  · rw [List.foldl_cons, toggle, if_pos quotes.symm, List.foldl_append, foldl_toggle_some free,
      List.foldl_cons, toggle, if_pos rfl, List.foldl_nil]

/-- Where brackets are closed no quotes are open. -/
theorem exists_front_of_skipBracketed {depth : Nat} {quote : Option Char} {after : Remainder input}
    (closed : skipBracketed depth quote input = some after) :
    ∃ front, input = front ++ after.rest ∧ front.foldl toggle quote = none := by
  induction input generalizing depth quote with
  | nil => cases closed
  | cons c input ih =>
    rw [skipBracketed_cons] at closed
    rcases nested : nest depth quote c with _ | depth
    · rw [nested] at closed
      cases closed
      obtain ⟨-, rfl, rfl⟩ := nest_eq_none_iff.1 nested
      exact ⟨[']'], rfl, rfl⟩
    · rw [nested] at closed
      obtain ⟨inner, found, rfl⟩ := Option.map_eq_some_iff.1 closed
      obtain ⟨front, whole, clear⟩ := ih found
      exact ⟨c :: front, congrArg (c :: ·) whole, clear⟩

/-! ## Faults -/

/-- Whether the error tells a place in the text, or in contents of quotes in it. -/
structure Located (text : List Char) (e : AnnotationError) : Prop where
  place : String.Pos.Raw.IsValid e.input ⟨e.position⟩
  input : QuotedIn e.input.toList text

/-- A fault at a place of the text itself. -/
theorem Located.before (place : rest <:+ text) (fault : AnnotationFault) :
    Located text (.before text rest fault) := by
  obtain ⟨front, rfl⟩ := place
  refine ⟨isValid_ofList_iff.2 ⟨front, rest, rfl, ?_⟩, ?_⟩
  · change _ = byteLength (front ++ rest) - byteLength rest
    rw [byteLength_append, Nat.add_sub_cancel]
  · change QuotedIn (String.ofList _).toList _
    rw [String.toList_ofList]
    exact .self

/-- A fault in the contents of quotes. -/
theorem Located.inside {e : AnnotationError} {contents behind : List Char} (clear : Clear text rest)
    (shown : rest = c :: (contents ++ c :: behind)) (quotes : c = '"' ∨ c = '\'')
    (free : c ∉ contents) (located : Located contents e) : Located text e := by
  obtain ⟨front, rfl, closed⟩ := clear
  exact ⟨located.place, shown ▸ .inside closed quotes free located.input⟩

/-- Whether an error is located in the text, and no quotes are open behind what was read. -/
def Locates (text : List Char) {α : Type} {input : List Char} :
    Except AnnotationError (α × Remainder input) → Prop
  | .ok (_, after) => Clear text after.rest
  | .error e => Located text e

-- The readers call one another, and the lemmas about them follow them in that.
mutual

theorem located_readWhole (text : List Char) {e : AnnotationError}
    (h : readWhole text = .error e) : Located text e := by
  have read := locates_alternatives (.refl text)
  rw [readWhole] at h
  generalize readAlternatives text text = result at read h
  rcases result with e | ⟨types, after⟩
  · cases h
    exact read
  · simp only at h
    split at h
    · cases h
    · cases h
      exact .before (read.trans (.skipBlanks after.rest)).suffix _
termination_by (text.length, 4)

theorem locates_alternatives {text input : List Char} (clear : Clear text input) :
    Locates text (readAlternatives text input) := by
  have first := locates_alternative clear
  rw [readAlternatives]
  generalize readAlternative text input = result at first ⊢
  rcases result with e | ⟨ty, after⟩
  · exact first
  · simp only
    split
    · next bar found =>
      have shorter := Nat.lt_trans bar.shorter after.shorter
      have others := locates_alternatives
        (Clear.trans first (.nextVisible found (by decide)))
      generalize readAlternatives text bar.rest = result at others ⊢
      rcases result with e | ⟨types, behind⟩ <;> exact others
    · exact first
termination_by (input.length, 3)

theorem locates_alternative {text input : List Char} (clear : Clear text input) :
    Locates text (readAlternative text input) := by
  have shown := clear.trans (.skipBlanks input)
  rw [readAlternative]
  split
  · next none =>
    rw [skipBlanks, nextBeyond_eq_none_iff.1 none] at shown
    exact .before shown.suffix _
  · next c after found =>
    rw [skipBlanks_of_next found] at shown
    split
    · next quotes =>
      split
      · exact .before ((List.suffix_cons c after.rest).trans shown.suffix) _
      · next contents behind closed =>
        have shorter := Nat.lt_trans contents.2 after.shorter
        have within := shown.trans (.quotes quotes closed)
        rcases read : readWhole contents.1 with e | ty
        · obtain ⟨whole, free⟩ := eq_of_splitAtQuote closed
          exact .inside shown (congrArg (c :: ·) whole) quotes free (located_readWhole _ read)
        · exact within
    · next unquoted =>
      split
      · have named : Clear text (after.dropWhile isNameChar).rest :=
          (clear.trans (.nextVisible found unquoted)).trans
            (.dropWhile (fun c name => by rintro (rfl | rfl) <;> exact absurd name (by decide)) _)
        simp only
        split
        · next opening _ opens =>
          -- Arguments that are not types may hold quotes, which are closed where the brackets are.
          have inside := named.trans (.nextVisible opens (by decide))
          split
          · exact .before (List.nil_suffix) _
          · next behind closed => exact inside.trans (exists_front_of_skipBracketed closed)
        · next opening opens _ =>
          have shorter := Nat.lt_trans opening.shorter (after.dropWhile isNameChar).shorter
          have inside := locates_arguments (named.trans (.nextVisible opens (by decide)))
          generalize readArguments text opening.rest = result at inside ⊢
          rcases result with e | ⟨arguments, behind⟩
          · exact inside
          · simp only
            split
            · exact .before inside.suffix _
            · exact inside
        · split
          · exact .before (named.trans (.skipBlanks _)).suffix _
          · exact named
      · exact .before shown.suffix _
termination_by (input.length, 2)

theorem locates_arguments {text input : List Char} (clear : Clear text input) :
    Locates text (readArguments text input) := by
  rw [readArguments]
  split
  · next after found => exact clear.trans (.nextVisible found (by decide))
  · exact locates_argumentList clear
termination_by (input.length, 6)

theorem locates_argumentList {text input : List Char} (clear : Clear text input) :
    Locates text (readArgumentList text input) := by
  have first := locates_argument clear
  rw [readArgumentList]
  generalize readArgument text input = result at first ⊢
  rcases result with e | ⟨argument, after⟩
  · exact first
  · simp only
    split
    · next behind found => exact Clear.trans first (.nextVisible found (by decide))
    · next comma found =>
      have shorter := Nat.lt_trans comma.shorter after.shorter
      have others := locates_argumentList (Clear.trans first (.nextVisible found (by decide)))
      generalize readArgumentList text comma.rest = result at others ⊢
      rcases result with e | ⟨arguments, behind⟩ <;> exact others
    · exact .before (Clear.trans first (.skipBlanks after.rest)).suffix _
termination_by (input.length, 5)

theorem locates_argument {text input : List Char} (clear : Clear text input) :
    Locates text (readArgument text input) := by
  rw [readArgument]
  split
  · next opening found =>
    have shorter := opening.shorter
    have inside := locates_arguments (clear.trans (.nextVisible found (by decide)))
    generalize readArguments text opening.rest = result at inside ⊢
    rcases result with e | ⟨arguments, behind⟩ <;> exact inside
  · next dot found =>
    refine (clear.trans (.nextVisible found (by decide))).trans (.dropWhile (fun c dots => ?_) _)
    rintro (rfl | rfl) <;> exact absurd dots (by decide)
  · have read := locates_alternatives clear
    generalize readAlternatives text input = result at read ⊢
    rcases result with e | ⟨types, after⟩ <;> exact read
termination_by (input.length, 4)

end

end Annotation

end Understudy
