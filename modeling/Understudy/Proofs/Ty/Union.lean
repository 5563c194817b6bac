import Mathlib.Data.List.Nodup
import Understudy.Proofs.Ty.Parts

/-!
# Unions

A union of grouped types is grouped: its alternatives are different and none is a union, and a
single one stands for itself. A grouped type is the union of its own alternatives, a union may be
made of the unions of two parts of its types, and no union has more names than what it is made of.

* `Ty.Grouped.unionOf_alternatives`, `Ty.Grouped.unionOf_append`, `Ty.nameCount_unionOf_le`.
* `Ty.forall_parts_unionOf`: what all parts of a union have if the parts of its types have it. Types
  that are well made are one case, `Ty.WellMade.unionOf`.
-/

namespace Understudy

namespace Ty

variable {ty a : Ty} {types sofar : List Ty}

/-! ## Dropping repetitions -/

/-- The types without repetitions, behind those that are there already. -/
def addAll (sofar types : List Ty) : List Ty := types.foldl addAlternative sofar

theorem addAll_cons (sofar : List Ty) (ty : Ty) (types : List Ty) :
    addAll sofar (ty :: types) = addAll (addAlternative sofar ty) types := rfl

theorem mem_addAlternative : a ∈ addAlternative sofar ty ↔ a ∈ sofar ∨ a = ty := by
  unfold addAlternative
  split
  · next there =>
    constructor
    · exact .inl
    · rintro (mem | rfl)
      · exact mem
      · exact there
  · simp

theorem mem_addAll : a ∈ addAll sofar types ↔ a ∈ sofar ∨ a ∈ types := by
  induction types generalizing sofar with
  | nil => simp [addAll]
  | cons ty types ih => rw [addAll_cons, ih, mem_addAlternative, List.mem_cons, or_assoc]

theorem nodup_addAll (distinct : sofar.Nodup) : (addAll sofar types).Nodup := by
  induction types generalizing sofar with
  | nil => exact distinct
  | cons ty types ih =>
    refine ih ?_
    unfold addAlternative
    split
    · exact distinct
    · next absent => exact List.nodup_append.2 ⟨distinct, List.nodup_singleton ty, by
        rintro a mem b new rfl
        exact absent (List.mem_singleton.1 new ▸ mem)⟩

/-- Different types are all added. -/
theorem addAll_of_nodup (distinct : (sofar ++ types).Nodup) :
    addAll sofar types = sofar ++ types := by
  induction types generalizing sofar with
  | nil => simp [addAll]
  | cons ty types ih =>
    have absent : ty ∉ sofar := fun mem =>
      (List.nodup_append.1 distinct).2.2 ty mem ty List.mem_cons_self rfl
    rw [addAll_cons, addAlternative, if_neg absent, ih (by simpa using distinct)]
    simp

theorem addAll_append (sofar types others : List Ty) :
    addAll sofar (types ++ others) = addAll (addAll sofar types) others :=
  List.foldl_append

/-- Repetitions may be dropped at any time. -/
theorem addAll_addAll (sofar others types : List Ty) :
    addAll sofar (addAll others types) = addAll (addAll sofar others) types := by
  induction types generalizing others with
  | nil => rfl
  | cons ty types ih =>
    have one : addAll sofar (addAlternative others ty) =
        addAlternative (addAll sofar others) ty := by
      unfold addAlternative
      by_cases there : ty ∈ others
      · rw [if_pos there, if_pos (mem_addAll.2 (.inr there))]
      · rw [if_neg there, addAll_append]
        rfl
    rw [addAll_cons, addAll_cons, ih, one]

theorem nameCounts_addAll_le (sofar types : List Ty) :
    nameCounts (addAll sofar types) ≤ nameCounts sofar + nameCounts types := by
  induction types generalizing sofar with
  | nil => exact Nat.le_add_right _ _
  | cons ty types ih =>
    have one : nameCounts (addAlternative sofar ty) ≤ nameCounts sofar + ty.nameCount := by
      unfold addAlternative
      split
      · exact Nat.le_add_right _ _
      · exact Nat.le_of_eq (by rw [nameCounts_append, nameCounts_singleton])
    have rest := ih (addAlternative sofar ty)
    rw [addAll_cons, nameCounts_cons]
    omega

/-! ## Alternatives -/

theorem unionOf_eq (types : List Ty) :
    unionOf types = match addAll [] (types.flatMap alternatives) with
      | [single] => single
      | several => .union several := rfl

theorem nameCounts_alternatives (ty : Ty) : nameCounts ty.alternatives = ty.nameCount := by
  cases ty with
  | union alternatives =>
    rw [nameCount_eq]
    simp [Ty.alternatives, isNamed, arguments, branches, nameCounts_nil]
  | any | nil | bool | int | float | str | list | tuple | set | map | named =>
    exact nameCounts_singleton _

theorem nameCounts_flatMap_alternatives (types : List Ty) :
    nameCounts (types.flatMap alternatives) = nameCounts types := by
  induction types with
  | nil => rfl
  | cons ty types ih =>
    rw [List.flatMap_cons, nameCounts_append, ih, nameCounts_alternatives, nameCounts_cons]

theorem alternatives_of_not_union (h : ty.isUnion = false) : ty.alternatives = [ty] := by
  cases ty with
  | union => cases h
  | any | nil | bool | int | float | str | list | tuple | set | map | named => rfl

theorem flatMap_alternatives (h : ∀ ty ∈ types, ty.isUnion = false) :
    types.flatMap alternatives = types := by
  induction types with
  | nil => rfl
  | cons ty types ih =>
    obtain ⟨here, behind⟩ := List.forall_mem_cons.1 h
    rw [List.flatMap_cons, alternatives_of_not_union here, ih behind]
    rfl

/-- The alternatives of a union, if nothing in it has unions among its alternatives. -/
theorem alternatives_unionOf (flat : ∀ ty ∈ types, ∀ a ∈ ty.alternatives, a.isUnion = false) :
    (unionOf types).alternatives = addAll [] (types.flatMap alternatives) := by
  rw [unionOf_eq]
  split
  · next single found =>
    have mem : single ∈ addAll [] (types.flatMap alternatives) := by
      rw [found]
      exact List.mem_cons_self
    obtain ⟨ty, there, inner⟩ : ∃ ty ∈ types, single ∈ ty.alternatives := by
      simpa [mem_addAll] using mem
    rw [found, alternatives_of_not_union (flat ty there single inner)]
  · rfl

/-- No union has more names than what it is made of. -/
theorem nameCount_unionOf_le (types : List Ty) : (unionOf types).nameCount ≤ nameCounts types := by
  have added := nameCounts_addAll_le [] (types.flatMap alternatives)
  rw [nameCounts_flatMap_alternatives, nameCounts_nil, Nat.zero_add] at added
  rw [← nameCounts_alternatives, unionOf_eq]
  split
  · next single found =>
    rw [found, nameCounts_singleton] at added
    rwa [nameCounts_alternatives]
  · exact added

/-! ## Grouped types -/

/-- Whether the type, its parts aside, is no union, or one of several different alternatives that
    are no unions. -/
def Grouped : Ty → Prop
  | .union alternatives =>
    2 ≤ alternatives.length ∧ (∀ a ∈ alternatives, a.isUnion = false) ∧ alternatives.Nodup
  | _ => True

instance : (ty : Ty) → Decidable ty.Grouped
  | .union alternatives => inferInstanceAs (Decidable (2 ≤ alternatives.length ∧
      (∀ a ∈ alternatives, a.isUnion = false) ∧ alternatives.Nodup))
  | .any | .nil | .bool | .int | .float | .str => isTrue trivial
  | .list _ | .tuple _ | .set _ | .map _ _ | .named _ => isTrue trivial

theorem Proper.grouped (h : ty.Proper) : ty.Grouped := by
  cases ty with
  | union => exact h
  | any | nil | bool | int | float | str | list | tuple | set | map | named => trivial

namespace Grouped

theorem flat (h : ty.Grouped) : ∀ a ∈ ty.alternatives, a.isUnion = false := by
  cases ty with
  | union => exact h.2.1
  | any | nil | bool | int | float | str | list | tuple | set | map | named =>
    exact List.forall_mem_singleton.2 rfl

theorem alternatives_ne_nil (h : ty.Grouped) : ty.alternatives ≠ [] := by
  cases ty with
  | union alternatives =>
    rintro rfl
    exact absurd h.1 (by decide)
  | any | nil | bool | int | float | str | list | tuple | set | map | named =>
    exact List.cons_ne_nil _ _

/-- A grouped type is the union of its alternatives. -/
theorem unionOf_alternatives (h : ty.Grouped) : unionOf ty.alternatives = ty := by
  have single := flatMap_alternatives h.flat
  cases ty with
  | union alternatives =>
    obtain ⟨several, -, distinct⟩ := h
    change alternatives.flatMap Ty.alternatives = alternatives at single
    change Ty.unionOf alternatives = _
    rw [unionOf_eq, single, addAll_of_nodup (by simpa using distinct), List.nil_append]
    split
    · exact absurd several (by simp)
    · rfl
  | any | nil | bool | int | float | str | list | tuple | set | map | named => rfl

/-- A grouped type is the union of itself alone. -/
theorem unionOf_singleton (h : ty.Grouped) : Ty.unionOf [ty] = ty := by
  rw [unionOf_eq, List.flatMap_singleton, ← flatMap_alternatives h.flat, ← unionOf_eq,
    h.unionOf_alternatives]

/-- The alternatives of a union of grouped types. -/
theorem alternatives_unionOf (h : ∀ ty ∈ types, ty.Grouped) :
    (Ty.unionOf types).alternatives = addAll [] (types.flatMap Ty.alternatives) :=
  Ty.alternatives_unionOf fun ty mem => (h ty mem).flat

/-- A union may be made of the unions of two parts of its types. -/
theorem unionOf_append {others : List Ty} (h : ∀ ty ∈ types, ty.Grouped)
    (h' : ∀ ty ∈ others, ty.Grouped) :
    Ty.unionOf [Ty.unionOf types, Ty.unionOf others] = Ty.unionOf (types ++ others) := by
  have same : addAll [] ([Ty.unionOf types, Ty.unionOf others].flatMap Ty.alternatives) =
      addAll [] ((types ++ others).flatMap Ty.alternatives) := by
    rw [List.flatMap_cons, List.flatMap_singleton, alternatives_unionOf h,
      alternatives_unionOf h', List.flatMap_append, addAll_append, addAll_append, addAll_addAll,
      addAll_addAll]
    rfl
  rw [unionOf_eq [Ty.unionOf types, Ty.unionOf others], same, ← unionOf_eq]

/-- What becomes of the alternatives of grouped types: different ones that are no unions. -/
theorem of_addAll (h : ∀ ty ∈ types, ty.Grouped) :
    (addAll [] (types.flatMap Ty.alternatives)).Nodup ∧
      ∀ a ∈ addAll [] (types.flatMap Ty.alternatives), a.isUnion = false := by
  refine ⟨nodup_addAll List.nodup_nil, fun a mem => ?_⟩
  obtain ⟨ty, there, inner⟩ : ∃ ty ∈ types, a ∈ ty.alternatives := by
    simpa [mem_addAll] using mem
  exact (h ty there).flat a inner

end Grouped

/-- What holds of all parts of grouped types holds of all parts of their union, if it holds of
    unions as soon as they are grouped and their alternatives have it. -/
theorem forall_parts_unionOf {P : Ty → Prop} (grouped : ∀ {ty}, P ty → ty.Grouped)
    (make : ∀ {alternatives}, Grouped (.union alternatives) → P (.union alternatives))
    (h : ∀ ty ∈ types, ∀ part ∈ ty.parts, P part) (some : types ≠ []) :
    ∀ part ∈ (unionOf types).parts, P part := by
  have self : ∀ ty ∈ types, ty.Grouped := fun ty mem =>
    grouped (forall_parts_iff.1 (h ty mem)).1
  have inner : ∀ a ∈ addAll [] (types.flatMap alternatives), ∀ part ∈ a.parts, P part := by
    intro a mem
    obtain ⟨ty, there, mem⟩ : ∃ ty ∈ types, a ∈ ty.alternatives := by
      simpa [mem_addAll] using mem
    have parts := h ty there
    cases ty with
    | union => exact (forall_parts_iff.1 parts).2.2 a mem
    | any | nil | bool | int | float | str | list | tuple | set | map | named =>
      obtain rfl := List.mem_singleton.1 mem
      exact parts
  have remain : addAll [] (types.flatMap alternatives) ≠ [] := by
    obtain ⟨ty, there⟩ := List.exists_mem_of_ne_nil types some
    obtain ⟨a, mem⟩ := List.exists_mem_of_ne_nil _ (self ty there).alternatives_ne_nil
    have kept : a ∈ addAll [] (types.flatMap alternatives) :=
      mem_addAll.2 (.inr (List.mem_flatMap.2 ⟨ty, there, mem⟩))
    exact List.ne_nil_of_mem kept
  obtain ⟨distinct, flat⟩ := Grouped.of_addAll self
  rw [unionOf_eq]
  generalize addAll [] (types.flatMap alternatives) = several at inner remain distinct flat
  -- One alternative that remains stands for itself, and several make a union.
  split
  · exact inner _ List.mem_cons_self
  · next single =>
    have two : 2 ≤ several.length := by
      rcases several with _ | ⟨first, _ | ⟨second, others⟩⟩
      · exact absurd rfl remain
      · exact absurd rfl (single first)
      · exact Nat.le_add_left 2 _
    exact forall_parts_iff.2 ⟨make ⟨two, flat, distinct⟩,
      fun _ mem => absurd mem List.not_mem_nil, inner⟩

/-! ## Well made types -/

namespace WellMade

theorem grouped (h : ty.WellMade) : ty.Grouped := (wellMade_iff.1 h).1.grouped

/-- The alternatives of a well made type are well made and no unions. -/
theorem of_mem_alternatives (h : ty.WellMade) (mem : a ∈ ty.alternatives) :
    a.WellMade ∧ a.isUnion = false := by
  refine ⟨?_, h.grouped.flat a mem⟩
  cases ty with
  | union => exact (wellMade_iff.1 h).2.2 a mem
  | any | nil | bool | int | float | str | list | tuple | set | map | named =>
    obtain rfl := List.mem_singleton.1 mem
    exact h

theorem alternatives_ne_nil (h : ty.WellMade) : ty.alternatives ≠ [] :=
  h.grouped.alternatives_ne_nil

theorem unionOf_alternatives (h : ty.WellMade) : unionOf ty.alternatives = ty :=
  h.grouped.unionOf_alternatives

theorem unionOf_singleton (h : ty.WellMade) : Ty.unionOf [ty] = ty := h.grouped.unionOf_singleton

theorem unionOf_append {others : List Ty} (h : ∀ ty ∈ types, ty.WellMade)
    (h' : ∀ ty ∈ others, ty.WellMade) :
    Ty.unionOf [Ty.unionOf types, Ty.unionOf others] = Ty.unionOf (types ++ others) :=
  Grouped.unionOf_append (fun ty mem => (h ty mem).grouped) fun ty mem => (h' ty mem).grouped

/-- A union of well made types is well made. -/
theorem unionOf (h : ∀ ty ∈ types, ty.WellMade) (some : types ≠ []) :
    (Ty.unionOf types).WellMade :=
  forall_parts_unionOf Proper.grouped (fun grouped => grouped) h some

end WellMade

end Ty

end Understudy
