import Understudy.Proofs.Ty.Reading

/-!
# The annotation text of a type

A type that is no union is written as a name, with its arguments in brackets if there are any; the
name means what makes the type of its arguments. A union is written as its alternatives with bars
between them.

* `Ty.WellMade.exists_headed`: the name and the arguments of a type that is no union.
* `Ty.text_alternatives`: the text of a type by its alternatives.
-/

namespace Understudy

namespace Ty

variable {ty : Ty} {types : List Ty}

/-- The characters of the annotation text. -/
def text (ty : Ty) : List Char := ty.display.toList

theorem dotted_iff : ty.Dotted ↔ ty.text.head? = some '.' := .rfl

/-- The texts of several types with a separator between them. -/
def texts (separator : List Char) (types : List Ty) : List Char :=
  separator.intercalate (types.map text)

theorem texts_singleton (separator : List Char) (ty : Ty) : texts separator [ty] = ty.text :=
  List.intercalate_singleton

theorem texts_cons_cons (separator : List Char) (ty other : Ty) (types : List Ty) :
    texts separator (ty :: other :: types) =
      ty.text ++ (separator ++ texts separator (other :: types)) := by
  simp only [texts, List.map_cons, List.intercalate_cons_cons, List.append_assoc]

theorem displayAll_eq (types : List Ty) : displayAll types = types.map display := by
  induction types with
  | nil => rfl
  | cons ty types ih => rw [displayAll, ih, List.map_cons]

theorem toList_intercalate (separator : String) (types : List Ty) :
    (separator.intercalate (displayAll types)).toList = texts separator.toList types := by
  rw [String.toList_intercalate, displayAll_eq, List.map_map]
  rfl

/-- The text of a type is that of its alternatives. -/
theorem text_alternatives (ty : Ty) : ty.text = texts [' ', '|', ' '] ty.alternatives := by
  cases ty with
  | union alternatives => exact toList_intercalate " | " alternatives
  | any | nil | bool | int | float | str | list | tuple | set | map | named =>
    exact (texts_singleton _ _).symm

/-! ## Names and arguments -/

/-- The arguments in brackets, if there are any. -/
def bracketed : List Ty → List Char
  | [] => []
  | types => '[' :: (texts [',', ' '] types ++ [']'])

theorem bracketed_of_ne_nil (h : types ≠ []) :
    bracketed types = '[' :: (texts [',', ' '] types ++ [']']) := by
  cases types with
  | nil => exact absurd rfl h
  | cons ty types => rfl

/-- A type that is written as a name with its arguments. -/
structure Headed (ty : Ty) (c : Char) (cs : List Char) : Prop where
  text : ty.text = c :: (cs ++ bracketed ty.arguments)
  chars : ∀ d ∈ c :: cs, Annotation.isNameChar d = true
  types : Head.ofName (c :: cs) ≠ .literal
  /-- The name makes the type of its arguments. -/
  meant : (Head.ofName (c :: cs)).apply (c :: cs) ty.arguments = .ok ty
  /-- Of arguments with fewer names it makes a type with fewer names. -/
  fewer : ty.arguments ≠ [] → ∀ types other, nameCounts types < nameCounts ty.arguments →
    (Head.ofName (c :: cs)).apply (c :: cs) types = .ok other → other.nameCount < ty.nameCount

end Ty

/-- Whether the name stands for a type with arguments that are types. -/
def Head.isGeneric : Head → Bool
  | .list | .set | .map | .tuple => true
  | _ => false

theorem Ty.nameCount_of_arguments {ty : Ty} (named : ty.isNamed = false)
    (single : ty.isUnion = false) : ty.nameCount = Ty.nameCounts ty.arguments := by
  rw [nameCount_eq, branches_of_not_union single, named, nameCounts_nil]
  exact Nat.zero_add _

/-- What a generic name makes of its arguments has no more names than they have. -/
theorem Head.nameCount_apply_le {head : Head} {name : List Char} {types : List Ty} {ty : Ty}
    (generic : head.isGeneric = true) (made : head.apply name types = .ok ty) :
    ty.nameCount ≤ Ty.nameCounts types := by
  cases head with
  | constant | optional | union | wrapper | literal | own => cases generic
  | list | set =>
    rcases types with _ | ⟨item, _ | ⟨_, _⟩⟩ <;> cases made
    · exact Nat.le_refl _
    · exact Nat.le_of_eq (Ty.nameCount_of_arguments rfl rfl)
  | map =>
    rcases types with _ | ⟨key, _ | ⟨value, _ | ⟨_, _⟩⟩⟩ <;> cases made
    · exact Nat.le_refl _
    · have both : (Ty.map key .any).nameCount = Ty.nameCounts [key] + Ty.nameCounts [.any] :=
        (Ty.nameCount_of_arguments rfl rfl).trans (Ty.nameCounts_append [key] [.any])
      exact Nat.le_of_eq both
    · exact Nat.le_of_eq (Ty.nameCount_of_arguments rfl rfl)
  | tuple =>
    cases made
    exact Nat.le_of_eq (Ty.nameCount_of_arguments rfl rfl)

namespace Ty

/-- A generic name with the arguments of a type. -/
theorem Headed.of_generic {c : Char} {cs : List Char} (named : ty.isNamed = false)
    (single : ty.isUnion = false) (text : ty.text = c :: (cs ++ bracketed ty.arguments))
    (chars : (c :: cs).all Annotation.isNameChar = true)
    (generic : (Head.ofName (c :: cs)).isGeneric = true)
    (meant : (Head.ofName (c :: cs)).apply (c :: cs) ty.arguments = .ok ty) :
    Headed ty c cs where
  text := text
  chars := List.all_eq_true.1 chars
  types := by
    intro literal
    rw [literal] at generic
    cases generic
  meant := meant
  fewer _ types other fewer made := by
    rw [nameCount_of_arguments named single]
    exact Nat.lt_of_le_of_lt (Head.nameCount_apply_le generic made) fewer

/-- A name for a type without arguments. -/
theorem Headed.of_plain {c : Char} {cs : List Char} (plain : ty.arguments = [])
    (text : ty.text = c :: cs) (chars : (c :: cs).all Annotation.isNameChar = true)
    (types : Head.ofName (c :: cs) ≠ .literal)
    (meant : (Head.ofName (c :: cs)).apply (c :: cs) [] = .ok ty) : Headed ty c cs where
  text := by rw [text, plain, bracketed, List.append_nil]
  chars := List.all_eq_true.1 chars
  types := types
  meant := by rw [plain, meant]
  fewer some := absurd plain some

/-- A well made type that is no union is written as a name with its arguments. -/
theorem WellMade.exists_headed (h : ty.WellMade) (single : ty.isUnion = false) :
    ∃ c cs, Headed ty c cs := by
  cases ty with
  | union => cases single
  | any => exact ⟨'A', ['n', 'y'], .of_plain rfl rfl (by decide) (by decide) rfl⟩
  | nil => exact ⟨'N', ['o', 'n', 'e'], .of_plain rfl rfl (by decide) (by decide) rfl⟩
  | bool => exact ⟨'b', ['o', 'o', 'l'], .of_plain rfl rfl (by decide) (by decide) rfl⟩
  | int => exact ⟨'i', ['n', 't'], .of_plain rfl rfl (by decide) (by decide) rfl⟩
  | float => exact ⟨'f', ['l', 'o', 'a', 't'], .of_plain rfl rfl (by decide) (by decide) rfl⟩
  | str => exact ⟨'s', ['t', 'r'], .of_plain rfl rfl (by decide) (by decide) rfl⟩
  -- The arguments of the others stand in brackets behind the name.
  | list item =>
    refine ⟨'l', ['i', 's', 't'], .of_generic rfl rfl ?_ (by decide) rfl rfl⟩
    simp [text, display, bracketed, arguments, texts_singleton]
  | set item =>
    refine ⟨'s', ['e', 't'], .of_generic rfl rfl ?_ (by decide) rfl rfl⟩
    simp [text, display, bracketed, arguments, texts_singleton]
  | map key value =>
    refine ⟨'d', ['i', 'c', 't'], .of_generic rfl rfl ?_ (by decide) rfl rfl⟩
    simp [text, display, bracketed, arguments, texts_singleton, texts_cons_cons]
  | tuple items =>
    refine ⟨'t', ['u', 'p', 'l', 'e'], .of_generic rfl rfl ?_ (by decide) rfl rfl⟩
    rcases items with _ | ⟨item, items⟩
    · rfl
    · change ("tuple[" ++ ", ".intercalate (displayAll (item :: items)) ++ "]").toList = _
      rw [String.toList_append, String.toList_append, toList_intercalate]
      rfl
  | named name =>
    have own := (wellMade_iff.1 h).1
    rcases chars : name.toList with _ | ⟨c, cs⟩
    · exact absurd (String.toList_eq_nil_iff.1 chars) own.ne_empty
    · -- Its last part is not reserved, so the name stands for itself.
      have meaning := Head.ofName_eq_own_iff.2 own.free
      rw [chars] at meaning
      have named : (c :: cs).all Annotation.isNameChar = true :=
        List.all_eq_true.2 (chars ▸ own.chars)
      refine ⟨c, cs, .of_plain rfl chars named (by rw [meaning]; decide) ?_⟩
      rw [meaning, ← chars, Head.apply, String.ofList_toList]

end Ty

end Understudy
