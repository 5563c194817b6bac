import Understudy.Proofs.Ty.Image
import Understudy.Proofs.Ty.Reread

/-!
# Types that survive being written and read

The annotation text of a type declares the same type exactly if every name in the type stands for
itself, every union in it is made as `Ty.unionOf` makes them, and no type in the place of an
argument begins with a dot.

* `Ty.ofAnnotation_display_iff`: the text of a type is read as the type, exactly if the type is
  readable.
-/

namespace Understudy

namespace Ty

/-- What a type must be like for its annotation text to declare it. -/
structure Readable (ty : Ty) : Prop where
  /-- Every name stands for itself. -/
  names : ∀ name, .named name ∈ ty.parts → OwnName name
  /-- Every union has several different alternatives, and none of them is a union. -/
  unions : ∀ alternatives, .union alternatives ∈ ty.parts →
    2 ≤ alternatives.length ∧ (∀ a ∈ alternatives, a.isUnion = false) ∧ alternatives.Nodup
  /-- No type in the place of an argument begins with a dot. -/
  arguments : ∀ part ∈ ty.parts, ∀ a ∈ part.arguments, ¬ a.Dotted

theorem readable_iff {ty : Ty} : ty.Readable ↔ ty.WellMade ∧ ty.Undotted := by
  constructor
  · rintro ⟨names, unions, undotted⟩
    refine ⟨fun part mem => ?_, undotted⟩
    cases part with
    | named name => exact names name mem
    | union alternatives => exact unions alternatives mem
    | any | nil | bool | int | float | str | list | tuple | set | map => trivial
  · rintro ⟨made, undotted⟩
    exact ⟨fun name mem => made _ mem, fun alternatives mem => made _ mem, undotted⟩

instance (ty : Ty) : Decidable ty.Readable := decidable_of_iff _ readable_iff.symm

/-- Whatever an annotation declares is well made. -/
theorem WellMade.of_ofAnnotation {text : String} {ty : Ty} (h : Ty.ofAnnotation text = .ok ty) :
    ty.WellMade :=
  Annotation.wellMade_readWhole h

/-- The annotation text of a type declares the type, exactly if the type is readable. -/
theorem ofAnnotation_display_iff (ty : Ty) :
    Ty.ofAnnotation ty.display = .ok ty ↔ ty.Readable := by
  rw [readable_iff]
  constructor
  · intro same
    have made := WellMade.of_ofAnnotation same
    exact ⟨made, made.ofAnnotation_iff.1 same⟩
  · rintro ⟨made, undotted⟩
    exact made.ofAnnotation_iff.2 undotted

-- A name may begin with a dot, but not where it is taken for an ellipsis.
example : (Ty.optional (.named ".shapes.Point")).Readable := by decide

example : ¬ (Ty.list (.named ".shapes.Point")).Readable := by decide

end Ty

end Understudy
