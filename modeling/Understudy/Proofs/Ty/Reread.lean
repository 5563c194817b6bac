import Understudy.Proofs.Ty.Text

/-!
# Reading what was written

The text of a well made type is read as the type, unless a type in the place of an argument begins
with a dot: the reader takes the dot for an ellipsis, and either fails behind it, or drops the
argument and all before it. Then a name is lost, whatever else becomes of the text, so what is read
has fewer names than what was written and is another type.

* `Ty.WellMade.rereadable`, `Ty.WellMade.rereadableArgument`: what becomes of the text of a type in
  the place of an alternative, and in that of an argument.
* `Ty.WellMade.ofAnnotation_iff`: what becomes of it on its own.
-/

namespace Understudy

namespace Annotation

/-- What was read is what was written, if nothing in that is lost, and has fewer names if something
    is. -/
inductive Kept {α : Type} (count : α → Nat) (written : α) (sound : Prop) : α → Prop
  | same : sound → Kept count written sound written
  | fewer {read : α} : ¬ sound → count read < count written → Kept count written sound read

/-- What becomes of something that was written with the rest behind it: it is read up to there, or
    refused. -/
inductive Rereads {α : Type} (count : α → Nat) (written : α) (sound : Prop) (rest : List Char)
    {input : List Char} : Except AnnotationError (α × Remainder input) → Prop
  | ok {read : α} {after : Remainder input} : Kept count written sound read → after.rest = rest →
      Rereads count written sound rest (.ok (read, after))
  | error {e : AnnotationError} : ¬ sound → Rereads count written sound rest (.error e)

theorem Kept.count_le {α : Type} {count : α → Nat} {written read : α} {sound : Prop}
    (h : Kept count written sound read) : count read ≤ count written := by
  cases h with
  | same => exact Nat.le_refl _
  | fewer _ fewer => exact Nat.le_of_lt fewer

/-- A list is kept as far as its head and its tail are. -/
theorem Kept.cons {α : Type} {one : α → Nat} {all : List α → Nat} {written read : α}
    {behind others : List α} {sound sound' : Prop}
    (le : all (read :: others) ≤ one read + all others)
    (eq : all (written :: behind) = one written + all behind)
    (head : Kept one written sound read) (tail : Kept all behind sound' others) :
    Kept all (written :: behind) (sound ∧ sound') (read :: others) := by
  have bound := head.count_le
  have bound' := tail.count_le
  cases head with
  | same here =>
    cases tail with
    | same behind => exact .same ⟨here, behind⟩
    | fewer lost fewer => exact .fewer (fun both => lost both.2) (by omega)
  | fewer lost fewer => exact .fewer (fun both => lost both.1) (by omega)

end Annotation

namespace Ty

open Annotation

variable {input rest : List Char} {ty : Ty} {types : List Ty}

/-- Whether the text begins like a name. -/
def Begins (written : List Char) : Prop := ∃ c cs, written = c :: cs ∧ isNameChar c = true

theorem Begins.append {written : List Char} (h : Begins written) (more : List Char) :
    Begins (written ++ more) := by
  obtain ⟨c, cs, rfl, name⟩ := h
  exact ⟨c, cs ++ more, rfl, name⟩

/-- No blank is skipped before a name. -/
theorem Begins.skipBlanks {written : List Char} (h : Begins written) :
    skipBlanks written = written := by
  obtain ⟨c, cs, rfl, name⟩ := h
  exact skipBlanks_cons (not_isBlank_of_isNameChar name) cs

theorem begins_texts {separator : List Char} (h : Begins ty.text) :
    Begins (texts separator (ty :: types)) := by
  cases types with
  | nil => rwa [texts_singleton]
  | cons other types =>
    rw [texts_cons_cons]
    exact h.append _

/-- Only the blank behind a separator is skipped. -/
theorem skipBlanks_texts {separator : List Char} (h : Begins ty.text) :
    skipBlanks (' ' :: (texts separator (ty :: types) ++ rest)) =
      texts separator (ty :: types) ++ rest := by
  rw [skipBlanks_space, ((begins_texts h).append rest).skipBlanks]

/-- What becomes of the text of a type where an alternative is read. -/
structure Rereadable (ty : Ty) : Prop where
  begins : Begins ty.text
  reads : ∀ (text : List Char) {input rest : List Char}, Pauses rest →
    skipBlanks input = ty.text ++ rest →
    Rereads nameCount ty ty.Undotted rest (readAlternative text input)

/-- Alternatives with bars between them are read as far as each of them is. -/
theorem rereads_alternatives (text : List Char) (some : types ≠ [])
    (each : ∀ ty ∈ types, ty.Rereadable) (ends : Ends rest)
    (shown : skipBlanks input = texts [' ', '|', ' '] types ++ rest) :
    Rereads nameCounts types (∀ ty ∈ types, ty.Undotted) rest (readAlternatives text input) := by
  induction types generalizing input with
  | nil => exact absurd rfl some
  | cons ty types ih =>
    obtain ⟨here, behind⟩ := List.forall_mem_cons.1 each
    simp only [List.forall_mem_cons]
    rw [readAlternatives]
    cases types with
    | nil =>
      rw [texts_singleton] at shown
      have first := here.reads text ends.toPauses shown
      generalize readAlternative text input = result at first ⊢
      cases first with
      | error lost => exact .error fun all => lost all.1
      | @ok read after kept stop =>
        simp only
        -- What is behind the last alternative does not go on with a bar.
        split
        · next found =>
          have bar := head?_skipBlanks found
          rw [stop] at bar
          exact absurd bar ends.bar
        · exact .ok (kept.cons (Nat.le_of_eq (nameCounts_cons read [])) (nameCounts_cons ty [])
            (.same fun _ mem => absurd mem List.not_mem_nil)) stop
    | cons other types =>
      rw [texts_cons_cons, List.append_assoc] at shown
      have first := here.reads text (.bar _) shown
      generalize readAlternative text input = result at first ⊢
      cases first with
      | error lost => exact .error fun all => lost all.1
      | @ok read after kept stop =>
        have bar : skipBlanks after.rest =
            '|' :: ' ' :: (texts [' ', '|', ' '] (other :: types) ++ rest) := by
          rw [stop]
          exact (skipBlanks_space _).trans (skipBlanks_cons (by decide) _)
        obtain ⟨bar, found, onward⟩ := nextVisible_of_skipBlanks bar
        have shown : skipBlanks bar.rest = texts [' ', '|', ' '] (other :: types) ++ rest := by
          rw [onward, skipBlanks_texts (behind other List.mem_cons_self).begins]
        have others := ih (List.cons_ne_nil _ _) behind shown
        simp only [found]
        generalize readAlternatives text bar.rest = result at others ⊢
        cases others with
        | error lost => exact .error fun all => lost all.2
        | ok kept' stop' =>
          exact .ok (kept.cons (Nat.le_of_eq (nameCounts_cons read _)) (nameCounts_cons ty _) kept')
            stop'

/-! ## Arguments -/

/-- Where an argument ends: before a comma or the closing bracket. -/
def Closes (rest : List Char) : Prop := ∃ c tail, rest = c :: tail ∧ (c = ',' ∨ c = ']')

theorem Closes.ends (h : Closes rest) : Ends rest := by
  obtain ⟨c, tail, rfl, closes⟩ := h
  exact .of_cons closes tail

/-- Whether nothing is lost of the type in the place of an argument. -/
def Passes (ty : Ty) : Prop := ¬ ty.Dotted ∧ ty.Undotted

/-- What becomes of the text of a type where an argument is read: it is read up to its end or
    refused, or reading stops before, and what stands there is neither a comma nor a bracket. -/
inductive RereadsArgument (ty : Ty) (rest : List Char) {input : List Char} :
    Except AnnotationError (Argument × Remainder input) → Prop
  | ok {read : Argument} {after : Remainder input} :
      Kept Argument.nameCount (.type ty) ty.Passes read → after.rest = rest →
      RereadsArgument ty rest (.ok (read, after))
  | stuck {read : Argument} {after : Remainder input} : ty.Dotted →
      (∀ c ∈ (skipBlanks after.rest).head?, c ≠ ',' ∧ c ≠ ']') →
      RereadsArgument ty rest (.ok (read, after))
  | error {e : AnnotationError} : ¬ ty.Passes → RereadsArgument ty rest (.error e)

/-- Behind a dot, a name is passed over if it consists of dots only. -/
theorem dropWhile_dots {name : List Char} (chars : ∀ c ∈ name, isNameChar c = true)
    (tail : List Char) :
    (name ++ tail).dropWhile (fun c => isBlank c || c = '.') =
        tail.dropWhile (fun c => isBlank c || c = '.') ∨
      Begins ((name ++ tail).dropWhile fun c => isBlank c || c = '.') := by
  induction name with
  | nil => exact .inl rfl
  | cons c name ih =>
    obtain ⟨here, behind⟩ := List.forall_mem_cons.1 chars
    rw [List.cons_append]
    by_cases dot : c = '.'
    · rw [List.dropWhile_cons_of_pos (by simp [dot])]
      exact ih behind
    · rw [List.dropWhile_cons_of_neg (by simp [dot, not_isBlank_of_isNameChar here])]
      exact .inr ⟨c, name ++ tail, rfl, here⟩

/-- A type that begins with a dot and is no union is known by its name only. -/
theorem exists_named_of_dotted (single : ty.isUnion = false) (dotted : ty.Dotted) :
    ∃ name, ty = .named name := by
  cases ty with
  | named name => exact ⟨name, rfl⟩
  | union => cases single
  | any | nil | bool | int | float | str => exact absurd dotted (by decide)
  | list | set | map => simp [Dotted, display] at dotted
  | tuple items => cases items <;> simp [Dotted, display] at dotted

/-- Reading stops before what begins with the character. -/
theorem stuck_of_cons {c : Char} {tail : List Char} {after : Remainder input}
    (h : after.rest = c :: tail) (visible : isBlank c = false) (other : c ≠ ',' ∧ c ≠ ']') :
    ∀ d ∈ (skipBlanks after.rest).head?, d ≠ ',' ∧ d ≠ ']' := by
  rw [h, skipBlanks_cons visible]
  rintro d ⟨⟩
  exact other

/-- A well made type that begins with a dot has an alternative known by a name that does. -/
theorem WellMade.of_dotted (h : ty.WellMade) (dotted : ty.Dotted) :
    ∃ cs more, ty.text = '.' :: (cs ++ more) ∧ (∀ c ∈ cs, isNameChar c = true) ∧
      0 < ty.nameCount ∧ (more = [] ∨ ∃ others, more = ' ' :: '|' :: others) := by
  have written := ty.text_alternatives
  have count := nameCounts_alternatives ty
  obtain ⟨first, others, alternatives⟩ := List.exists_cons_of_ne_nil h.alternatives_ne_nil
  obtain ⟨made, single⟩ : first.WellMade ∧ first.isUnion = false :=
    h.of_mem_alternatives (by rw [alternatives]; exact List.mem_cons_self)
  -- The text is that of the first alternative, with nothing or a bar behind it.
  obtain ⟨more, text, ends⟩ : ∃ more, ty.text = first.text ++ more ∧
      (more = [] ∨ ∃ others, more = ' ' :: '|' :: others) := by
    rw [written, alternatives]
    rcases others with _ | ⟨second, others⟩
    · exact ⟨[], by rw [texts_singleton, List.append_nil], .inl rfl⟩
    · exact ⟨_, texts_cons_cons .., .inr ⟨_, rfl⟩⟩
  obtain ⟨c, cs, headed⟩ := made.exists_headed single
  have same : c = '.' := by
    rw [dotted_iff, text, headed.text] at dotted
    exact Option.some.inj dotted
  subst same
  obtain ⟨name, rfl⟩ := exists_named_of_dotted single (by rw [dotted_iff, headed.text]; rfl)
  refine ⟨cs, more, ?_, (List.forall_mem_cons.1 headed.chars).2, ?_, ends⟩
  · rw [text, headed.text]
    simp [arguments, bracketed]
  · rw [← count, alternatives, nameCounts_cons]
    exact Nat.lt_of_lt_of_le Nat.one_pos (Nat.le_add_right _ _)

/-- An argument that begins with a dot is taken for an ellipsis. -/
theorem rereads_dotted (text : List Char) (h : ty.WellMade) (dotted : ty.Dotted)
    (closes : Closes rest) (shown : skipBlanks input = ty.text ++ rest) :
    RereadsArgument ty rest (readArgument text input) := by
  have loses : ¬ ty.Passes := fun passes => passes.1 dotted
  obtain ⟨cs, more, written, chars, some, ends⟩ := h.of_dotted dotted
  rw [written, List.cons_append, List.append_assoc] at shown
  obtain ⟨dot, found, onward⟩ := nextVisible_of_skipBlanks shown
  rw [readArgument, found]
  simp only
  have stop : (dot.dropWhile fun c => isBlank c || c = '.').rest =
      (cs ++ (more ++ rest)).dropWhile fun c => isBlank c || c = '.' := by
    rw [← onward]
    rfl
  rcases dropWhile_dots chars (more ++ rest) with passed | ⟨c, tail, begins, name⟩
  · rw [passed] at stop
    rcases ends with rfl | ⟨others, rfl⟩
    · -- The name consists of dots, and nothing stands behind it.
      obtain ⟨c, tail, rfl, closing⟩ := closes
      refine .ok (.fewer loses some) (stop.trans (List.dropWhile_cons_of_neg ?_))
      rcases closing with rfl | rfl <;> decide
    · -- It consists of dots, and a bar stands behind it.
      have bar : (dot.dropWhile fun c => isBlank c || c = '.').rest = '|' :: (others ++ rest) :=
        stop.trans ((List.dropWhile_cons_of_pos (by decide)).trans
          (List.dropWhile_cons_of_neg (by decide)))
      exact .stuck dotted (stuck_of_cons bar (by decide) (by decide))
  · -- It does not consist of dots.
    refine .stuck dotted (stuck_of_cons (stop.trans begins) (not_isBlank_of_isNameChar name) ?_)
    constructor <;> rintro rfl <;> exact absurd name (by decide)

theorem undotted_alternatives_iff : (∀ a ∈ ty.alternatives, a.Undotted) ↔ ty.Undotted := by
  cases ty with
  | union alternatives =>
    rw [undotted_iff]
    simp [Ty.alternatives, arguments, branches]
  | any | nil | bool | int | float | str | list | tuple | set | map | named =>
    exact List.forall_mem_singleton

/-- The text of a well made type begins like a name. -/
theorem begins_of_alternatives (h : ty.WellMade) (each : ∀ a ∈ ty.alternatives, Begins a.text) :
    Begins ty.text := by
  rw [text_alternatives]
  obtain ⟨first, others, alternatives⟩ := List.exists_cons_of_ne_nil h.alternatives_ne_nil
  rw [alternatives] at each ⊢
  exact begins_texts (each first List.mem_cons_self)

/-- What is read of the alternatives of a well made type is the type, or has fewer names. -/
theorem WellMade.unionOf_kept {read : List Ty} {sound : Prop} (h : ty.WellMade)
    (kept : Kept nameCounts ty.alternatives sound read) :
    (sound ∧ Ty.unionOf read = ty) ∨ (¬ sound ∧ (Ty.unionOf read).nameCount < ty.nameCount) := by
  cases kept with
  | same sound => exact .inl ⟨sound, h.unionOf_alternatives⟩
  | fewer lost fewer =>
    rw [nameCounts_alternatives] at fewer
    exact .inr ⟨lost, Nat.lt_of_le_of_lt (nameCount_unionOf_le read) fewer⟩

/-- What becomes of the text of a type where an argument is read. -/
structure RereadableArgument (ty : Ty) : Prop where
  begins : Begins ty.text
  reads : ∀ (text : List Char) {input rest : List Char}, Closes rest →
    skipBlanks input = ty.text ++ rest → RereadsArgument ty rest (readArgument text input)

/-- An argument is read as far as its alternatives are, if it does not begin with a dot. -/
theorem WellMade.rereadableArgument (h : ty.WellMade)
    (each : ∀ a ∈ ty.alternatives, a.Rereadable) : ty.RereadableArgument := by
  have begins := begins_of_alternatives h fun a mem => (each a mem).begins
  refine ⟨begins, fun text input rest closes shown => ?_⟩
  by_cases dotted : ty.Dotted
  · exact rereads_dotted text h dotted closes shown
  · obtain ⟨c, cs, written, name⟩ := begins
    have all := rereads_alternatives text h.alternatives_ne_nil each closes.ends
      (by rw [shown, text_alternatives])
    rw [undotted_alternatives_iff] at all
    rw [written] at shown
    -- It begins like a name, so it is neither taken for brackets nor for an ellipsis.
    obtain ⟨after, found, -⟩ := nextVisible_of_skipBlanks shown
    rw [readArgument, found]
    split
    · next same =>
      cases same
      exact absurd name (by decide)
    · next same =>
      cases same
      exact absurd (by rw [dotted_iff, written]; rfl) dotted
    · generalize readAlternatives text input = result at all ⊢
      cases all with
      | error lost => exact .error fun sound => lost sound.2
      | @ok read after kept stop =>
        refine .ok ?_ stop
        rcases h.unionOf_kept kept with ⟨sound, same⟩ | ⟨lost, fewer⟩
        · rw [same]
          exact .same ⟨dotted, sound⟩
        · exact .fewer (fun sound => lost sound.2) fewer

/-- Arguments are refused, unless the first one is read up to its end. -/
theorem RereadsArgument.refused_or_read {text : List Char}
    (first : RereadsArgument ty rest (readArgument text input)) :
    (¬ ty.Passes ∧ ∃ e, readArgumentList text input = .error e) ∨
      ∃ read after, readArgument text input = .ok (read, after) ∧
        Kept Argument.nameCount (.type ty) ty.Passes read ∧ after.rest = rest := by
  rw [readArgumentList]
  generalize readArgument text input = result at first ⊢
  cases first with
  | ok kept stop => exact .inr ⟨_, _, rfl, kept, stop⟩
  | error lost => exact .inl ⟨lost, _, rfl⟩
  | stuck dotted stop =>
    refine .inl ⟨fun passes => passes.1 dotted, ?_⟩
    simp only
    split
    · next found => exact absurd rfl (stop _ (head?_skipBlanks found)).2
    · next found => exact absurd rfl (stop _ (head?_skipBlanks found)).1
    · exact ⟨_, rfl⟩

/-- Arguments with commas between them are read as far as each of them is. -/
theorem rereads_argumentList (text : List Char) (some : types ≠ [])
    (each : ∀ ty ∈ types, ty.RereadableArgument)
    (shown : skipBlanks input = texts [',', ' '] types ++ ']' :: rest) :
    Rereads (fun arguments => nameCounts (countingTypes arguments)) (types.map .type)
      (∀ ty ∈ types, ty.Passes) rest (readArgumentList text input) := by
  induction types generalizing input with
  | nil => exact absurd rfl some
  | cons ty types ih =>
    obtain ⟨here, behind⟩ := List.forall_mem_cons.1 each
    -- What counts of arguments that are types are all of them.
    have written : nameCounts (countingTypes ((ty :: types).map .type)) =
        Argument.nameCount (.type ty) + nameCounts (countingTypes (types.map .type)) := by
      rw [countingTypes_types, countingTypes_types, nameCounts_cons]
      rfl
    simp only [List.forall_mem_cons, List.map_cons] at written ⊢
    cases types with
    | nil =>
      rw [texts_singleton] at shown
      have first := here.reads text ⟨']', rest, rfl, .inr rfl⟩ shown
      rcases first.refused_or_read with ⟨lost, e, failed⟩ | ⟨read, after, found, kept, stop⟩
      · rw [failed]
        exact .error fun all => lost all.1
      · have closing : skipBlanks after.rest = ']' :: rest := by
          rw [stop, skipBlanks_cons (by decide)]
        obtain ⟨closed, visible, onward⟩ := nextVisible_of_skipBlanks closing
        rw [readArgumentList, found]
        simp only [visible]
        exact .ok (kept.cons (nameCounts_countingTypes_cons_le read []) written
          (.same fun _ mem => absurd mem List.not_mem_nil)) onward
    | cons other types =>
      rw [texts_cons_cons, List.append_assoc] at shown
      have first := here.reads text ⟨',', _, rfl, .inl rfl⟩ shown
      rcases first.refused_or_read with ⟨lost, e, failed⟩ | ⟨read, after, found, kept, stop⟩
      · rw [failed]
        exact .error fun all => lost all.1
      · have comma : skipBlanks after.rest =
            ',' :: ' ' :: (texts [',', ' '] (other :: types) ++ ']' :: rest) := by
          rw [stop]
          exact skipBlanks_cons (by decide) _
        obtain ⟨comma, visible, onward⟩ := nextVisible_of_skipBlanks comma
        have shown : skipBlanks comma.rest =
            texts [',', ' '] (other :: types) ++ ']' :: rest := by
          rw [onward, skipBlanks_texts (behind other List.mem_cons_self).begins]
        have others := ih (List.cons_ne_nil _ _) behind shown
        rw [readArgumentList, found]
        simp only [visible]
        generalize readArgumentList text comma.rest = result at others ⊢
        cases others with
        | error lost => exact .error fun all => lost all.2
        | ok kept' stop' =>
          exact .ok (kept.cons (nameCounts_countingTypes_cons_le read _) written kept') stop'

/-! ## Types -/

theorem undotted_arguments_iff (single : ty.isUnion = false) :
    (∀ a ∈ ty.arguments, a.Passes) ↔ ty.Undotted := by
  rw [undotted_iff, branches_of_not_union single]
  simp [Passes, forall_and]

/-- Arguments are read behind the bracket if there are any. -/
theorem readArguments_of_begins (text : List Char) {c : Char} {cs : List Char}
    (shown : skipBlanks input = c :: cs) (name : isNameChar c = true) :
    readArguments text input = readArgumentList text input := by
  obtain ⟨after, found, -⟩ := nextVisible_of_skipBlanks shown
  rw [readArguments, found]
  split
  · next same =>
    cases same
    exact absurd name (by decide)
  · rfl

/-- A name with arguments in brackets is read as far as the arguments are. -/
theorem Headed.rereads {c : Char} {cs : List Char} (headed : Headed ty c cs) (text : List Char)
    (some : ty.arguments ≠ []) (each : ∀ a ∈ ty.arguments, a.RereadableArgument)
    (shown : skipBlanks input = c :: (cs ++ (bracketed ty.arguments ++ rest))) :
    Rereads nameCount ty (∀ a ∈ ty.arguments, a.Passes) rest (readAlternative text input) := by
  rw [bracketed_of_ne_nil some, List.cons_append, List.append_assoc] at shown
  obtain ⟨opening, within, read⟩ := readAlternative_generic text shown headed.chars headed.types
  have begins : Begins (texts [',', ' '] ty.arguments ++ ([']'] ++ rest)) := by
    obtain ⟨first, others, arguments⟩ := List.exists_cons_of_ne_nil some
    rw [arguments] at each ⊢
    exact (begins_texts (each first List.mem_cons_self).begins).append _
  have shown : skipBlanks opening.rest = texts [',', ' '] ty.arguments ++ ']' :: rest := by
    rw [within, begins.skipBlanks]
    rfl
  have all := rereads_argumentList text some each shown
  obtain ⟨d, ds, written, name⟩ := begins
  rw [read, readArguments_of_begins text (shown.trans written) name]
  generalize readArgumentList text opening.rest = result at all ⊢
  cases all with
  | error lost => exact .error lost
  | @ok read after kept stop =>
    simp only
    cases kept with
    | same sound =>
      rw [countingTypes_types, headed.meant]
      exact .ok (.same sound) stop
    | fewer lost fewer =>
      -- The name may refuse the arguments that are left, or make another type of them.
      rw [countingTypes_types] at fewer
      rcases made : (Head.ofName (c :: cs)).apply (c :: cs) (countingTypes read) with e | other
      · exact .error lost
      · exact .ok (.fewer lost (headed.fewer some _ _ fewer made)) stop

/-- A type that is no union is read as far as its arguments are. -/
theorem WellMade.rereadable_of_arguments (h : ty.WellMade) (single : ty.isUnion = false)
    (each : ∀ a ∈ ty.arguments, a.RereadableArgument) : ty.Rereadable := by
  obtain ⟨c, cs, headed⟩ := h.exists_headed single
  refine ⟨⟨c, _, headed.text, (List.forall_mem_cons.1 headed.chars).1⟩, ?_⟩
  intro text input rest pauses shown
  rw [headed.text, List.cons_append, List.append_assoc] at shown
  rw [← undotted_arguments_iff single]
  by_cases some : ty.arguments = []
  · have meant := headed.meant
    rw [some] at shown meant ⊢
    obtain ⟨after, read, stop⟩ := readAlternative_bare text shown headed.chars pauses meant
    rw [read]
    exact .ok (.same fun _ mem => absurd mem List.not_mem_nil) stop
  · exact headed.rereads text some each shown

/-- The text of a well made type that is no union is read as the type wherever an alternative may
    stand, unless it loses something. -/
theorem WellMade.rereadable (ty : Ty) (h : ty.WellMade) (single : ty.isUnion = false) :
    ty.Rereadable := by
  -- By recursion on the type: the alternatives of an argument are smaller than the type.
  refine h.rereadable_of_arguments single fun a mem => ?_
  have made : a.WellMade := (wellMade_iff.1 h).2.1 a mem
  refine made.rereadableArgument fun b inner => ?_
  obtain ⟨made, single⟩ := made.of_mem_alternatives inner
  exact rereadable b made single
termination_by sizeOf ty
decreasing_by exact Nat.lt_of_le_of_lt (sizeOf_alternative_le inner) (sizeOf_argument_lt mem)

/-- The text of a well made type is read as the type, exactly if no type in the place of an
    argument begins with a dot. -/
theorem WellMade.ofAnnotation_iff (h : ty.WellMade) :
    Ty.ofAnnotation ty.display = .ok ty ↔ ty.Undotted := by
  have each : ∀ a ∈ ty.alternatives, a.Rereadable := fun a mem =>
    rereadable a (h.of_mem_alternatives mem).1 (h.of_mem_alternatives mem).2
  have begins := begins_of_alternatives h fun a mem => (each a mem).begins
  have shown : skipBlanks ty.text = texts [' ', '|', ' '] ty.alternatives ++ [] := by
    rw [begins.skipBlanks, List.append_nil, ← text_alternatives]
  have all := rereads_alternatives ty.text h.alternatives_ne_nil each Ends.nil shown
  rw [undotted_alternatives_iff] at all
  change readWhole ty.text = .ok ty ↔ _
  rw [readWhole]
  generalize readAlternatives ty.text ty.text = result at all ⊢
  cases all with
  | error lost =>
    refine ⟨fun same => ?_, fun sound => absurd sound lost⟩
    cases same
  | @ok read after kept stop =>
    have done : skipBlanks after.rest = [] := by rw [stop]; rfl
    simp only [done]
    rcases h.unionOf_kept kept with ⟨sound, same⟩ | ⟨lost, fewer⟩
    · rw [same]
      exact ⟨fun _ => sound, fun _ => rfl⟩
    · refine ⟨fun same => ?_, fun sound => absurd sound lost⟩
      -- What was read has fewer names than the type, so it is another one.
      rw [Except.ok.inj same] at fewer
      exact absurd fewer (Nat.lt_irrefl _)

end Ty

end Understudy
