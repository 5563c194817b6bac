import Understudy.Ty.Annotation

/-!
# The parts of a type

A type is made of types: arguments in brackets and the alternatives of unions. What is asked of
types here is asked of each of their parts, the type itself among them.

* `Head.ofName_eq_own_iff`: a name stands for itself unless its last part is reserved.
* `Ty.forall_parts_iff`: what holds of all parts of a type holds of the type, and of all parts of
  the types that it is made of.
* `Ty.WellMade`: names that stand for themselves only, and unions as they are made by `Ty.unionOf`.
-/

namespace Understudy

/-! ## Reserved names -/

namespace Head

/-- The names that cannot be the last part of a name that stands for itself. -/
def reserved : List String := meanings.map Prod.fst

theorem mem_meanings_of_lookup {last : String} {head : Head}
    (found : meanings.lookup last = some head) : (last, head) ∈ meanings := by
  obtain ⟨before, behind, whole, -⟩ := List.lookup_eq_some_iff.1 found
  rw [whole]
  exact List.mem_append_right _ List.mem_cons_self

/-- A name stands for itself unless its last part is reserved. -/
theorem ofName_eq_own_iff {name : List Char} :
    ofName name = .own ↔ String.ofList (lastPart name) ∉ reserved := by
  have listed : ∀ m ∈ meanings, m.2 ≠ .own := by decide
  rw [ofName, reserved]
  generalize String.ofList (lastPart name) = last
  rcases found : meanings.lookup last with _ | head
  · -- A name that is not found is not listed.
    refine iff_of_true rfl fun mem => ?_
    obtain ⟨m, there, rfl⟩ := List.mem_map.1 mem
    exact absurd (List.lookup_eq_none_iff.1 found m there) (by simp)
  · have there := mem_meanings_of_lookup found
    exact iff_of_false (listed _ there) fun free => free (List.mem_map_of_mem there)

end Head

/-! ## Parts -/

namespace Ty

/-- The types in the place of arguments: the item of a list or set, the key and the value of a map,
    the elements of a tuple. -/
def arguments : Ty → List Ty
  | .list item | .set item => [item]
  | .map key value => [key, value]
  | .tuple items => items
  | _ => []

/-- The alternatives of a union. -/
def branches : Ty → List Ty
  | .union alternatives => alternatives
  | _ => []

/-- Whether the type is a union. -/
def isUnion : Ty → Bool
  | .union _ => true
  | _ => false

/-- Whether the type is known by its name only. -/
def isNamed : Ty → Bool
  | .named _ => true
  | _ => false

mutual

/-- The type itself, and all types that it is made of. -/
def parts : Ty → List Ty
  | .list item => .list item :: parts item
  | .set item => .set item :: parts item
  | .map key value => .map key value :: (parts key ++ parts value)
  | .tuple items => .tuple items :: partsAll items
  | .union alternatives => .union alternatives :: partsAll alternatives
  | ty => [ty]

/-- The parts of all of the types. -/
def partsAll : List Ty → List Ty
  | [] => []
  | ty :: rest => parts ty ++ partsAll rest

end

theorem partsAll_eq (types : List Ty) : partsAll types = types.flatMap parts := by
  induction types with
  | nil => rfl
  | cons ty rest ih => rw [partsAll, ih, List.flatMap_cons]

theorem parts_eq (ty : Ty) : ty.parts = ty :: (ty.arguments ++ ty.branches).flatMap parts := by
  cases ty <;> simp [parts, arguments, branches, partsAll_eq]

theorem forall_parts_iff {P : Ty → Prop} {ty : Ty} :
    (∀ part ∈ ty.parts, P part) ↔
      P ty ∧ (∀ a ∈ ty.arguments, ∀ part ∈ a.parts, P part) ∧
        ∀ b ∈ ty.branches, ∀ part ∈ b.parts, P part := by
  rw [parts_eq, List.forall_mem_cons]
  simp only [List.mem_flatMap, List.mem_append]
  constructor
  · rintro ⟨self, inner⟩
    exact ⟨self, fun a mem part there => inner part ⟨a, .inl mem, there⟩,
      fun b mem part there => inner part ⟨b, .inr mem, there⟩⟩
  · rintro ⟨self, arguments, branches⟩
    refine ⟨self, ?_⟩
    rintro part ⟨inner, mem | mem, there⟩
    · exact arguments inner mem part there
    · exact branches inner mem part there

theorem sizeOf_argument_lt {ty a : Ty} (mem : a ∈ ty.arguments) : sizeOf a < sizeOf ty := by
  cases ty with
  | any | nil | bool | int | float | str | named | union => cases mem
  | list item | set item =>
    obtain rfl := List.mem_singleton.1 mem
    simp
  | map key value =>
    simp only [arguments, List.mem_cons, List.not_mem_nil, or_false] at mem
    simp only [map.sizeOf_spec]
    rcases mem with rfl | rfl <;> omega
  | tuple items =>
    have := List.sizeOf_lt_of_mem mem
    simp only [tuple.sizeOf_spec]
    exact Nat.lt_trans this (by simp [arguments])

theorem sizeOf_alternative_le {ty a : Ty} (mem : a ∈ ty.alternatives) : sizeOf a ≤ sizeOf ty := by
  cases ty with
  | union inner =>
    have : sizeOf a < sizeOf inner := List.sizeOf_lt_of_mem mem
    simp only [union.sizeOf_spec]
    omega
  | any | nil | bool | int | float | str | list | tuple | set | map | named =>
    exact Nat.le_of_eq (congrArg sizeOf (List.mem_singleton.1 mem))

/-! ## Counting names -/

/-- How many types known by name the type is made of. -/
def nameCount (ty : Ty) : Nat := ty.parts.countP isNamed

/-- How many types known by name all the types are made of. -/
def nameCounts (types : List Ty) : Nat := (types.flatMap parts).countP isNamed

theorem nameCounts_nil : nameCounts [] = 0 := rfl

theorem nameCounts_cons (ty : Ty) (types : List Ty) :
    nameCounts (ty :: types) = ty.nameCount + nameCounts types := by
  rw [nameCounts, List.flatMap_cons, List.countP_append]
  rfl

theorem nameCounts_singleton (ty : Ty) : nameCounts [ty] = ty.nameCount := by
  rw [nameCounts_cons, nameCounts_nil, Nat.add_zero]

theorem nameCounts_append (as bs : List Ty) :
    nameCounts (as ++ bs) = nameCounts as + nameCounts bs := by
  rw [nameCounts, List.flatMap_append, List.countP_append]
  rfl

theorem nameCount_eq (ty : Ty) :
    ty.nameCount =
      (if ty.isNamed then 1 else 0) + nameCounts ty.arguments + nameCounts ty.branches := by
  rw [nameCount, parts_eq, List.countP_cons, Nat.add_assoc, ← nameCounts_append, Nat.add_comm]
  rfl

theorem branches_of_not_union {ty : Ty} (single : ty.isUnion = false) : ty.branches = [] := by
  cases ty with
  | union => cases single
  | any | nil | bool | int | float | str | list | tuple | set | map | named => rfl

/-! ## Well made types -/

/-- Whether the name is read as one that stands for itself: it consists of the characters of names,
    and its last part is not reserved. -/
structure OwnName (name : String) : Prop where
  ne_empty : name ≠ ""
  chars : ∀ c ∈ name.toList, Annotation.isNameChar c = true
  free : String.ofList (lastPart name.toList) ∉ Head.reserved

instance (name : String) : Decidable (OwnName name) :=
  decidable_of_iff
    (name ≠ "" ∧ name.toList.all Annotation.isNameChar = true ∧
      String.ofList (lastPart name.toList) ∉ Head.reserved)
    ⟨fun h => ⟨h.1, List.all_eq_true.1 h.2.1, h.2.2⟩,
      fun h => ⟨h.ne_empty, List.all_eq_true.2 h.chars, h.free⟩⟩

/-- Whether the type, its parts aside, is as it can be read: a name that stands for itself, or a
    union of several different alternatives that are no unions. -/
def Proper : Ty → Prop
  | .named name => OwnName name
  | .union alternatives =>
    2 ≤ alternatives.length ∧ (∀ a ∈ alternatives, a.isUnion = false) ∧ alternatives.Nodup
  | _ => True

instance : (ty : Ty) → Decidable ty.Proper
  | .named name => inferInstanceAs (Decidable (OwnName name))
  | .union alternatives => inferInstanceAs (Decidable (2 ≤ alternatives.length ∧
      (∀ a ∈ alternatives, a.isUnion = false) ∧ alternatives.Nodup))
  | .any | .nil | .bool | .int | .float | .str => isTrue trivial
  | .list _ | .tuple _ | .set _ | .map _ _ => isTrue trivial

/-- Whether all parts of the type are proper. -/
def WellMade (ty : Ty) : Prop := ∀ part ∈ ty.parts, part.Proper

instance (ty : Ty) : Decidable ty.WellMade :=
  inferInstanceAs (Decidable (∀ part ∈ ty.parts, part.Proper))

theorem wellMade_iff {ty : Ty} :
    ty.WellMade ↔ ty.Proper ∧ (∀ a ∈ ty.arguments, a.WellMade) ∧ ∀ b ∈ ty.branches, b.WellMade :=
  forall_parts_iff

/-- Whether the annotation text of the type begins with a dot. -/
def Dotted (ty : Ty) : Prop := ty.display.toList.head? = some '.'

instance (ty : Ty) : Decidable ty.Dotted := inferInstanceAs (Decidable (_ = _))

/-- Whether no type in the place of an argument begins with a dot. -/
def Undotted (ty : Ty) : Prop := ∀ part ∈ ty.parts, ∀ a ∈ part.arguments, ¬ a.Dotted

instance (ty : Ty) : Decidable ty.Undotted :=
  inferInstanceAs (Decidable (∀ part ∈ ty.parts, ∀ a ∈ part.arguments, ¬ a.Dotted))

theorem undotted_iff {ty : Ty} :
    ty.Undotted ↔ (∀ a ∈ ty.arguments, ¬ a.Dotted) ∧ (∀ a ∈ ty.arguments, a.Undotted) ∧
      ∀ b ∈ ty.branches, b.Undotted :=
  forall_parts_iff

end Ty

end Understudy
