import Understudy.Proofs.Ty.Union
import Understudy.Ty.Acceptance

/-!
# What unions accept, and how they are grouped

A union accepts what one of the types accepts that it is made of, however these are nested: that
unions among them are flattened, repetitions dropped and a single alternative stands for itself
makes no difference to any value. Unions of grouped types are grouped again, so the types may be
put together in one step or in several.

* `Ty.accepts_unionOf`: the meaning of a union.
* `Ty.unionOf_regroups`: the meaning, and the union of two parts of the types.
-/

namespace Understudy

namespace Ty

variable {coercion : Coercion} {types : List Ty} {value : Value}

/-! ## Meaning -/

theorem anyAccepts_iff :
    anyAccepts coercion types value = true ↔ ∃ ty ∈ types, accepts coercion ty value = true := by
  induction types with
  | nil => simp [anyAccepts]
  | cons ty types ih => simp [anyAccepts, ih]

/-- A type accepts what one of its alternatives accepts. -/
theorem accepts_iff_alternatives {ty : Ty} :
    accepts coercion ty value = true ↔ ∃ a ∈ ty.alternatives, accepts coercion a value = true := by
  cases ty with
  | union =>
    rw [accepts]
    exact anyAccepts_iff
  | any | nil | bool | int | float | str | list | tuple | set | map | named => simp [alternatives]

/-- A union accepts what one of the types accepts that it is made of. -/
theorem accepts_unionOf :
    accepts coercion (unionOf types) value = true ↔
      ∃ ty ∈ types, accepts coercion ty value = true := by
  -- What is left of the alternatives are the same ones, repetitions aside.
  have left : (∃ a ∈ addAll [] (types.flatMap alternatives), accepts coercion a value = true) ↔
      ∃ ty ∈ types, accepts coercion ty value = true := by
    simp only [mem_addAll, List.not_mem_nil, false_or, List.mem_flatMap]
    constructor
    · rintro ⟨a, ⟨ty, there, mem⟩, accepted⟩
      exact ⟨ty, there, accepts_iff_alternatives.2 ⟨a, mem, accepted⟩⟩
    · rintro ⟨ty, there, accepted⟩
      obtain ⟨a, mem, accepted⟩ := accepts_iff_alternatives.1 accepted
      exact ⟨a, ⟨ty, there, mem⟩, accepted⟩
  rw [← left, unionOf_eq]
  split
  · next single found => simp [found]
  · rw [accepts]
    exact anyAccepts_iff

/-! ## Grouping -/

/-- The union of grouped types has different alternatives that are no unions, and never a single
    one. -/
theorem Grouped.of_unionOf_eq {alternatives : List Ty} (h : ∀ ty ∈ types, ty.Grouped)
    (made : unionOf types = .union alternatives) :
    (∀ a ∈ alternatives, a.isUnion = false) ∧ alternatives.Nodup ∧ alternatives.length ≠ 1 := by
  obtain ⟨distinct, flat⟩ := Grouped.of_addAll h
  rw [unionOf_eq] at made
  generalize addAll [] (types.flatMap Ty.alternatives) = several at made distinct flat
  split at made
  · -- The single alternative that remains is none.
    next single =>
    have none := flat single List.mem_cons_self
    rw [made] at none
    cases none
  · next single =>
    obtain rfl := Ty.union.inj made
    refine ⟨flat, distinct, fun one => ?_⟩
    obtain ⟨a, rfl⟩ := List.length_eq_one_iff.1 one
    exact single a rfl

/-- Unions accept what their types accept, whatever these are. The union of grouped types may be
    made of the unions of two parts of them; it has different alternatives that are no unions, and
    never a single one. If there is a type at all, and all parts of the types are grouped, then so
    are all parts of the union. -/
theorem unionOf_regroups :
    (∀ (coercion : Coercion) (types : List Ty) (value : Value),
      accepts coercion (unionOf types) value = true ↔
        ∃ ty ∈ types, accepts coercion ty value = true) ∧
    ∀ {types others : List Ty}, (∀ ty ∈ types ++ others, ty.Grouped) →
      unionOf (types ++ others) = unionOf [unionOf types, unionOf others] ∧
      (∀ alternatives, unionOf (types ++ others) = .union alternatives →
        (∀ a ∈ alternatives, a.isUnion = false) ∧ alternatives.Nodup ∧ alternatives.length ≠ 1) ∧
      (types ++ others ≠ [] →
        (∀ ty ∈ types ++ others, ∀ part ∈ ty.parts, part.Grouped) →
        ∀ part ∈ (unionOf (types ++ others)).parts, part.Grouped) := by
  refine ⟨fun _ _ _ => accepts_unionOf, fun grouped => ⟨?_, ?_, ?_⟩⟩
  · obtain ⟨first, second⟩ := List.forall_mem_append.1 grouped
    exact (Grouped.unionOf_append first second).symm
  · exact fun _ => Grouped.of_unionOf_eq grouped
  · exact fun some parts => forall_parts_unionOf (fun grouped => grouped)
      (fun grouped => grouped) parts some

/-- Both parts collapse, one of them to a type that the other one has as well. -/
theorem unionOf_regroups_collapsed :
    (∀ ty ∈ [.str, .str] ++ [.union [.nil, .str]], Ty.Grouped ty) ∧
      unionOf ([.str, .str] ++ [.union [.nil, .str]]) =
        unionOf [unionOf [.str, .str], unionOf [.union [.nil, .str]]] ∧
      unionOf [.str, .str] = .str ∧
      unionOf ([.str, .str] ++ [.union [.nil, .str]]) = .union [.str, .nil] :=
  ⟨by decide, (unionOf_regroups.2 (by decide)).1, by decide, by decide⟩

end Ty

end Understudy
