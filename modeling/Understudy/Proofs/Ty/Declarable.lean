import Understudy.Proofs.Ty.Spelling

/-!
# Which types can be declared

Whatever an annotation declares is well made, and every well made type is declared by an annotation:
by its text, if names that begin with a dot are put in quotes, so that none is taken for an
ellipsis.

* `Ty.spelling`: that annotation.
* `Ty.WellMade.stands`: it declares the type, on its own and as an argument.
* `Ty.declarable_iff`: the types that can be declared are the well made ones.
-/

namespace Understudy

namespace Ty

mutual

/-- An annotation of a type: its text, with names that begin with a dot in quotes. -/
def spelling : Ty → String
  | .any => "Any"
  | .nil => "None"
  | .bool => "bool"
  | .int => "int"
  | .float => "float"
  | .str => "str"
  | .list item => "list[" ++ spelling item ++ "]"
  | .tuple [] => "tuple"
  | .tuple (item :: items) =>
    "tuple[" ++ ", ".intercalate (spelling item :: spellings items) ++ "]"
  | .set item => "set[" ++ spelling item ++ "]"
  | .map key value => "dict[" ++ spelling key ++ ", " ++ spelling value ++ "]"
  | .union alternatives => " | ".intercalate (spellings alternatives)
  | .named name => if name.toList.head? = some '.' then "'" ++ name ++ "'" else name

/-- Annotations of several types. -/
def spellings : List Ty → List String
  | [] => []
  | ty :: rest => spelling ty :: spellings rest

end

end Ty

namespace Annotation

variable {a rest : List Char} {A ty : Ty} {texts pieces : List (List Char)} {types : List Ty}

/-- The first visible character of a text that stands for a type. -/
theorem Stands.exists_first (stands : Stands a A) :
    ∃ c cs, skipBlanks a = c :: cs ∧ c ≠ '.' := by
  obtain ⟨types, after, read, -, -⟩ := readWhole_eq_ok_iff.1 stands.reads
  obtain ⟨c, next, found⟩ := exists_next_of_readAlternatives read
  refine ⟨c, next.rest, skipBlanks_of_next found, ?_⟩
  rintro rfl
  exact stands.undotted (head?_skipBlanks found)

/-- The annotation text of a type stands for it if it does not begin with a dot. -/
theorem Stands.of_display (made : ty.WellMade) (undotted : ty.Undotted)
    (begins : (skipBlanks ty.display.toList).head? ≠ some '.') : Stands ty.display.toList ty :=
  ⟨made.ofAnnotation_iff.2 undotted, begins⟩

/-- Annotations with bars between them declare the union of their types, and may stand where the
    first of them may. -/
theorem Stands.bars (stand : List.Forall₂ Stands texts types) (some : texts ≠ [])
    (made : ∀ ty ∈ types, ty.WellMade) :
    Stands ([' ', '|', ' '].intercalate texts) (.unionOf types) := by
  induction stand with
  | nil => exact absurd rfl some
  | @cons a A texts types here behind ih =>
    obtain ⟨first, others⟩ := List.forall_mem_cons.1 made
    cases behind with
    | nil =>
      rw [List.intercalate_singleton, first.unionOf_singleton]
      exact here
    | @cons b B texts types there behind =>
      have rest := ih (List.cons_ne_nil _ _) others
      have union := Ty.WellMade.unionOf_append (List.forall_mem_singleton.2 first) others
      rw [first.unionOf_singleton] at union
      -- The first annotation and the bar count as pieces of their own, the others as one.
      have spaced : Spaced [a, ['|'], [' ', '|', ' '].intercalate (b :: texts)]
          (a ++ ' ' :: '|' :: ' ' :: ([' ', '|', ' '].intercalate (b :: texts) ++ [])) :=
        .tight (.space (.tight (.space (.tight (.nil nofun)))))
      rw [List.intercalate_cons_cons, List.append_assoc]
      refine ⟨?_, ?_⟩
      · rw [List.append_nil] at spaced
        exact (readWhole_bar here.reads rest.reads spaced).trans (congrArg _ union)
      · obtain ⟨c, cs, shown, other⟩ := here.exists_first
        rw [skipBlanks_append_of_cons shown]
        exact fun same => other (Option.some.inj same)

/-- A blank may stand behind every comma. -/
theorem Spaced.commas (some : texts ≠ []) (behind : Spaced pieces rest) :
    Spaced (texts.intersperse [','] ++ pieces) ([',', ' '].intercalate texts ++ rest) := by
  induction texts with
  | nil => exact absurd rfl some
  | cons a texts ih =>
    cases texts with
    | nil =>
      rw [List.intersperse_singleton, List.intercalate_singleton]
      exact behind.tight
    | cons b texts =>
      rw [List.intersperse_cons_cons, List.intercalate_cons_cons, List.append_assoc,
        List.append_assoc]
      exact (ih (List.cons_ne_nil _ _)).space.tight.tight

/-- A constructor with texts that stand for types in brackets. -/
theorem Stands.constructor (name : String) (mem : name ∈ constructors)
    (stand : List.Forall₂ Stands texts types) (some : texts ≠ [])
    (made : (Head.ofName name.toList).apply name.toList types = .ok ty) :
    Stands (name.toList ++ '[' :: ([',', ' '].intercalate texts ++ [']'])) ty := by
  obtain ⟨chars, nonempty, single, generic⟩ := constructors_plain name mem
  have chars := List.all_eq_true.1 chars
  refine ⟨?_, ?_⟩
  · have closing : Spaced [[']']] [']'] := (Spaced.nil nofun : Spaced [] []).tight
    exact readWhole_generic chars nonempty generic stand some made
      (Spaced.commas some closing).tight.tight
  · obtain ⟨c, cs, whole⟩ := List.exists_cons_of_ne_nil nonempty
    rw [whole] at chars single ⊢
    rw [List.cons_append, skipBlanks_cons (not_isBlank_of_isNameChar (chars c List.mem_cons_self))]
    rintro ⟨⟩
    exact single List.mem_cons_self

end Annotation

namespace Ty

open Annotation

/-- A name stands for itself, in quotes if it begins with a dot. -/
theorem OwnName.stands {name : String} (own : OwnName name) :
    Stands (spelling (.named name)).toList (.named name) := by
  have made : (Ty.named name).WellMade := wellMade_iff.2 ⟨own, nofun, nofun⟩
  have undotted : (Ty.named name).Undotted := undotted_iff.2 ⟨nofun, nofun, nofun⟩
  rw [spelling]
  split
  · have free : '\'' ∉ name.toList := fun mem => absurd (own.chars _ mem) (by decide)
    have stands := Stands.quoted (made.ofAnnotation_iff.2 undotted) (.inr rfl) free
    simpa [display] using stands
  · next single =>
    refine .of_display made undotted ?_
    rcases chars : name.toList with _ | ⟨c, cs⟩
    · exact absurd (String.toList_eq_nil_iff.1 chars) own.ne_empty
    · have named := own.chars c (chars ▸ List.mem_cons_self)
      rw [display, chars, skipBlanks_cons (not_isBlank_of_isNameChar named)]
      rwa [chars] at single

mutual

/-- The spelling of a well made type stands for the type. -/
theorem WellMade.stands : ∀ (ty : Ty), ty.WellMade → Stands ty.spelling.toList ty
  | .any, made | .nil, made | .bool, made | .int, made | .float, made | .str, made =>
    .of_display made (by decide) (by decide)
  | .named _, made => OwnName.stands (wellMade_iff.1 made).1
  | .list item, made => by
    have inner := stands item ((wellMade_iff.1 made).2.1 item List.mem_cons_self)
    have whole := Stands.constructor "list" (by decide) (.cons inner .nil) (List.cons_ne_nil _ _)
      rfl
    simpa [spelling] using whole
  | .set item, made => by
    have inner := stands item ((wellMade_iff.1 made).2.1 item List.mem_cons_self)
    have whole := Stands.constructor "set" (by decide) (.cons inner .nil) (List.cons_ne_nil _ _)
      rfl
    simpa [spelling] using whole
  | .map key value, made => by
    obtain ⟨first, second⟩ := List.forall_mem_cons.1 (wellMade_iff.1 made).2.1
    have inner := stands key first
    have inner' := stands value (List.forall_mem_singleton.1 second)
    have whole := Stands.constructor "dict" (by decide) (.cons inner (.cons inner' .nil))
      (List.cons_ne_nil _ _) rfl
    simpa [spelling] using whole
  | .tuple [], made => .of_display made (by decide) (by decide)
  | .tuple (item :: items), made => by
    have inner := stands_all (item :: items) (wellMade_iff.1 made).2.1
    have whole := Stands.constructor "tuple" (by decide) inner (List.cons_ne_nil _ _) rfl
    simpa [spelling, spellings, String.toList_intercalate] using whole
  | .union alternatives, made => by
    have each := (wellMade_iff.1 made).2.2
    have several : alternatives ≠ [] := made.alternatives_ne_nil
    have all := stands_all alternatives each
    have some : (spellings alternatives).map String.toList ≠ [] := fun none =>
      several (List.forall₂_nil_left_iff.1 (none ▸ all))
    have whole := Stands.bars all some each
    rw [show Ty.unionOf alternatives = _ from made.unionOf_alternatives] at whole
    simpa [spelling, String.toList_intercalate] using whole

theorem WellMade.stands_all : ∀ types : List Ty, (∀ ty ∈ types, ty.WellMade) →
    List.Forall₂ Stands ((spellings types).map String.toList) types
  | [], _ => .nil
  | ty :: types, made =>
    have each := List.forall_mem_cons.1 made
    .cons (stands ty each.1) (stands_all types each.2)

end

/-- A type can be declared exactly if it is well made: every name in it stands for itself, and every
    union has several different alternatives that are no unions. Its spelling declares it then. -/
theorem declarable_iff (ty : Ty) :
    ((∃ text, Ty.ofAnnotation text = .ok ty) ↔ ty.WellMade) ∧
      (Ty.ofAnnotation ty.spelling = .ok ty ↔ ty.WellMade) := by
  have declared {text : String} (read : Ty.ofAnnotation text = .ok ty) : ty.WellMade :=
    wellMade_readWhole read
  exact ⟨⟨fun ⟨_, read⟩ => declared read, fun made => ⟨_, (made.stands ty).reads⟩⟩, declared,
    fun made => (made.stands ty).reads⟩

end Ty

end Understudy
