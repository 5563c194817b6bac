import Understudy.Proofs.Ty.Reading

/-!
# What can be read

Whatever is read from an annotation is well made: every name in it stands for itself, and every
union was made by `Ty.unionOf`.

* `Head.wellMade_apply`: a name makes a well made type of well made arguments.
* `Annotation.wellMade_readWhole`: an annotation declares a well made type.
-/

namespace Understudy

namespace Ty

/-- Whether the type is one that has neither parts nor a name. -/
def isPlain : Ty → Bool
  | .any | .nil | .bool | .int | .float | .str => true
  | _ => false

theorem WellMade.of_isPlain {ty : Ty} (plain : ty.isPlain = true) : ty.WellMade := by
  cases ty with
  | list | tuple | set | map | union | named => cases plain
  | any | nil | bool | int | float | str =>
    rintro part mem
    obtain rfl := List.mem_singleton.1 mem
    trivial

/-- A type that is neither known by its name nor a union is well made if its arguments are. -/
theorem WellMade.of_arguments {ty : Ty} (named : ty.isNamed = false) (single : ty.isUnion = false)
    (each : ∀ a ∈ ty.arguments, a.WellMade) : ty.WellMade := by
  refine wellMade_iff.2 ⟨?_, each, ?_⟩
  · cases ty with
    | named => cases named
    | union => cases single
    | any | nil | bool | int | float | str | list | tuple | set | map => trivial
  · rw [branches_of_not_union single]
    exact fun _ mem => absurd mem List.not_mem_nil

end Ty

namespace Head

theorem isPlain_of_constant {name : List Char} {ty : Ty} (h : ofName name = .constant ty) :
    ty.isPlain = true := by
  have listed : ∀ m ∈ meanings,
      (match m.2 with | .constant ty => ty.isPlain | _ => true) = true := by decide
  rw [ofName] at h
  rcases found : meanings.lookup (String.ofList (lastPart name)) with _ | head
  · rw [found] at h
    cases h
  · rw [found] at h
    obtain rfl : head = .constant ty := h
    exact listed _ (mem_meanings_of_lookup found)

/-- A name makes a well made type of well made arguments. -/
theorem wellMade_apply {name : List Char} {types : List Ty} {ty : Ty} (some : name ≠ [])
    (chars : ∀ c ∈ name, Annotation.isNameChar c = true) (each : ∀ a ∈ types, a.WellMade)
    (made : (ofName name).apply name types = .ok ty) : ty.WellMade := by
  have any : Ty.any.WellMade := .of_isPlain rfl
  have two {a b : Ty} (left : a.WellMade) (right : b.WellMade) : ∀ ty ∈ [a, b], ty.WellMade :=
    List.forall_mem_cons.2 ⟨left, List.forall_mem_singleton.2 right⟩
  -- Each head makes a type of so many arguments and is refused with any other number of them.
  rcases meaning : ofName name with ty | _ | _ | _ | _ | _ | _ | _ | _ | _
  all_goals rw [meaning] at made
  case constant =>
    cases made
    exact .of_isPlain (isPlain_of_constant meaning)
  case list | set =>
    rcases types with _ | ⟨item, _ | ⟨_, _⟩⟩ <;> cases made
    · exact .of_arguments rfl rfl (List.forall_mem_singleton.2 any)
    · exact .of_arguments rfl rfl each
  case map =>
    rcases types with _ | ⟨key, _ | ⟨value, _ | ⟨_, _⟩⟩⟩ <;> cases made
    · exact .of_arguments rfl rfl (two any any)
    · exact .of_arguments rfl rfl (two (each key List.mem_cons_self) any)
    · exact .of_arguments rfl rfl each
  case tuple =>
    cases made
    exact .of_arguments rfl rfl each
  case optional =>
    rcases types with _ | ⟨item, _ | ⟨_, _⟩⟩ <;> cases made
    have none : Ty.nil.WellMade := .of_isPlain rfl
    exact .unionOf (two (each item List.mem_cons_self) none) (List.cons_ne_nil _ _)
  case union =>
    rcases types with _ | ⟨first, others⟩ <;> cases made
    exact .unionOf each (List.cons_ne_nil _ _)
  case wrapper =>
    rcases types with _ | ⟨first, others⟩ <;> cases made
    · exact any
    · exact each first List.mem_cons_self
  case literal =>
    cases made
    exact any
  case own =>
    cases made
    refine Ty.wellMade_iff.2 ⟨⟨?_, ?_, ?_⟩, nofun, nofun⟩
    · exact fun empty => some (String.ofList_eq_empty_iff.1 empty)
    · rwa [String.toList_ofList]
    · rw [String.toList_ofList]
      exact ofName_eq_own_iff.1 meaning

end Head

namespace Annotation

/-! ## Reading -/

/-- Whether what is read, if anything, has the property. -/
def Reads {α : Type} {input : List Char} (P : α → Prop) :
    Except AnnotationError (α × Remainder input) → Prop
  | .ok (a, _) => P a
  | .error _ => True

/-- Whether the argument is an ellipsis or a well made type. -/
def Argument.WellMade : Argument → Prop
  | .type ty => ty.WellMade
  | .ellipsis => True

theorem wellMade_countingTypes {arguments : List Argument} (h : ∀ a ∈ arguments, a.WellMade) :
    ∀ ty ∈ countingTypes arguments, ty.WellMade :=
  fun ty mem => h (.type ty) (mem_of_mem_countingTypes mem)

-- The readers call one another, and the lemmas about them follow them in that.
mutual

theorem wellMade_readWhole {text : List Char} {ty : Ty} (h : readWhole text = .ok ty) :
    ty.WellMade := by
  have types := reads_alternatives text text
  rw [readWhole] at h
  generalize readAlternatives text text = result at types h
  rcases result with e | ⟨read, after⟩
  · cases h
  · simp only at h
    split at h
    · cases h
      exact .unionOf types.2 types.1
    · cases h
termination_by (text.length, 4)

theorem reads_alternatives (text input : List Char) :
    Reads (fun types => types ≠ [] ∧ ∀ ty ∈ types, ty.WellMade) (readAlternatives text input) := by
  have first := reads_alternative text input
  rw [readAlternatives]
  generalize readAlternative text input = result at first ⊢
  rcases result with e | ⟨ty, after⟩
  · trivial
  · simp only
    split
    · next bar found =>
      have shorter := Nat.lt_trans bar.shorter after.shorter
      have others := reads_alternatives text bar.rest
      generalize readAlternatives text bar.rest = result at others ⊢
      rcases result with e | ⟨types, behind⟩
      · trivial
      · exact ⟨List.cons_ne_nil _ _, List.forall_mem_cons.2 ⟨first, others.2⟩⟩
    · exact ⟨List.cons_ne_nil _ _, List.forall_mem_singleton.2 first⟩
termination_by (input.length, 3)

theorem reads_alternative (text input : List Char) :
    Reads Ty.WellMade (readAlternative text input) := by
  rw [readAlternative]
  split
  · trivial
  · next c after found =>
    split
    · -- The contents of quotes are an annotation of their own.
      split
      · trivial
      · next contents behind closed =>
        have shorter := Nat.lt_trans contents.2 after.shorter
        rcases read : readWhole contents.1 with e | ty
        · trivial
        · exact wellMade_readWhole read
    · split
      · next name =>
        have some : c :: after.rest.takeWhile isNameChar ≠ [] := List.cons_ne_nil _ _
        have chars : ∀ d ∈ c :: after.rest.takeWhile isNameChar, isNameChar d = true :=
          List.forall_mem_cons.2 ⟨name, List.all_eq_true.1 List.all_takeWhile⟩
        simp only
        split
        · -- Literals accept everything, and what they are given is skipped.
          split
          · trivial
          · exact .of_isPlain rfl
        · next opening _ _ =>
          have shorter := Nat.lt_trans opening.shorter (after.dropWhile isNameChar).shorter
          have arguments := reads_arguments text opening.rest
          generalize readArguments text opening.rest = result at arguments ⊢
          rcases result with e | ⟨read, behind⟩
          · trivial
          · simp only
            split
            · trivial
            · next ty made =>
              exact Head.wellMade_apply some chars (wellMade_countingTypes arguments) made
        · split
          · trivial
          · next ty made =>
            exact Head.wellMade_apply some chars (fun _ mem => absurd mem List.not_mem_nil) made
      · trivial
termination_by (input.length, 2)

theorem reads_arguments (text input : List Char) :
    Reads (fun arguments => ∀ a ∈ arguments, a.WellMade) (readArguments text input) := by
  rw [readArguments]
  split
  · exact fun _ mem => absurd mem List.not_mem_nil
  · exact reads_argumentList text input
termination_by (input.length, 6)

theorem reads_argumentList (text input : List Char) :
    Reads (fun arguments => ∀ a ∈ arguments, a.WellMade) (readArgumentList text input) := by
  have first := reads_argument text input
  rw [readArgumentList]
  generalize readArgument text input = result at first ⊢
  rcases result with e | ⟨argument, after⟩
  · trivial
  · simp only
    split
    · exact List.forall_mem_singleton.2 first
    · next comma found =>
      have shorter := Nat.lt_trans comma.shorter after.shorter
      have others := reads_argumentList text comma.rest
      generalize readArgumentList text comma.rest = result at others ⊢
      rcases result with e | ⟨arguments, behind⟩
      · trivial
      · exact List.forall_mem_cons.2 ⟨first, others⟩
    · trivial
termination_by (input.length, 5)

theorem reads_argument (text input : List Char) :
    Reads Argument.WellMade (readArgument text input) := by
  rw [readArgument]
  split
  · next opening found =>
    generalize readArguments text opening.rest = result
    rcases result with e | ⟨arguments, behind⟩
    · trivial
    · exact .of_isPlain rfl
  · trivial
  · have types := reads_alternatives text input
    generalize readAlternatives text input = result at types ⊢
    rcases result with e | ⟨read, after⟩
    · trivial
    · exact .unionOf types.2 types.1
termination_by (input.length, 4)

end

end Annotation

end Understudy
