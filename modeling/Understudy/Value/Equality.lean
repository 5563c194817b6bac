import Understudy.Value.Basic

/-!
# Equality of values

Values are equal when they have the same shape and equal parts. A set and a map have their parts
in no order: two of them are equal when they have equally many elements and each element of the
first occurs equally often in both. An integer never equals a floating-point number, and "not a
number" equals nothing.

* `same_list`, `same_set`, `same_map`, `same_object` and their like give the rule of each kind.
-/

namespace Understudy

section Elements

variable {α β : Type}

/-- Lists of one length with equal elements at every position. -/
def sameInOrder (same : α → α → Bool) : List α → List α → Bool
  | [], [] => true
  | a :: as, b :: bs => same a b && sameInOrder same as bs
  | _, _ => false

/-- Lists of one length in which every element of the first occurs equally often. -/
def sameInAnyOrder (same : α → α → Bool) (as bs : List α) : Bool :=
  as.length == bs.length && as.all fun x => as.countP (same · x) == bs.countP (same · x)

/-- Pairs with equal members. -/
def samePair (sameFst : α → α → Bool) (sameSnd : β → β → Bool) (p q : α × β) : Bool :=
  sameFst p.1 q.1 && sameSnd p.2 q.2

end Elements

namespace Value

theorem sizeOf_pair_lt {α β : Type} [SizeOf α] [SizeOf β] {p : α × β} {pairs : List (α × β)}
    (mem : p ∈ pairs) : sizeOf p.1 < sizeOf pairs ∧ sizeOf p.2 < sizeOf pairs := by
  have := List.sizeOf_lt_of_mem mem
  obtain ⟨a, b⟩ := p
  simp only [Prod.mk.sizeOf_spec] at this
  constructor <;> simp only <;> omega

/-- Equality of values. -/
def same : Value → Value → Bool
  | .nil, .nil => true
  | .bool a, .bool b => a == b
  | .int a, .int b => a == b
  | .float x, .float y => x.sameNumber y
  | .str a, .str b => a == b
  | .list as, .list bs => inOrder as bs
  | .tuple as, .tuple bs => inOrder as bs
  | .set as, .set bs =>
    as.length == bs.length && as.attach.all fun x =>
      as.attach.countP (fun y => same y.1 x.1) == bs.attach.countP (fun y => same y.1 x.1)
  | .map as, .map bs =>
    as.length == bs.length && as.attach.all fun x =>
      as.attach.countP (fun y => same y.1.1 x.1.1 && same y.1.2 x.1.2) ==
        bs.attach.countP (fun y => same y.1.1 x.1.1 && same y.1.2 x.1.2)
  | .object a as, .object b bs => a == b && fields as bs
  | _, _ => false
termination_by a b => max (sizeOf a) (sizeOf b)
decreasing_by
  · simp
  · simp
  · have := List.sizeOf_lt_of_mem x.2; have := List.sizeOf_lt_of_mem y.2; simp; omega
  · have := List.sizeOf_lt_of_mem x.2; have := List.sizeOf_lt_of_mem y.2; simp; omega
  · have := sizeOf_pair_lt x.2; have := sizeOf_pair_lt y.2; simp; omega
  · have := sizeOf_pair_lt x.2; have := sizeOf_pair_lt y.2; simp; omega
  · have := sizeOf_pair_lt x.2; have := sizeOf_pair_lt y.2; simp; omega
  · have := sizeOf_pair_lt x.2; have := sizeOf_pair_lt y.2; simp; omega
  · simp; omega
where
  /-- Equality of lists, position by position. -/
  inOrder : List Value → List Value → Bool
    | [], [] => true
    | a :: as, b :: bs => same a b && inOrder as bs
    | _, _ => false
  termination_by as bs => max (sizeOf as) (sizeOf bs)
  /-- Equality of the fields of objects, in order. -/
  fields : List (String × Value) → List (String × Value) → Bool
    | [], [] => true
    | (m, a) :: as, (n, b) :: bs => m == n && same a b && fields as bs
    | _, _ => false
  termination_by as bs => max (sizeOf as) (sizeOf bs)

private theorem all_attach {α : Type} (l : List α) (p : α → Bool) :
    (l.attach.all fun x => p x.1) = l.all p := by
  rw [Bool.eq_iff_iff, List.all_eq_true, List.all_eq_true]
  exact ⟨fun h x mem => h ⟨x, mem⟩ (List.mem_attach _ _), fun h x _ => h x.1 x.2⟩

private theorem countP_attach {α : Type} (l : List α) (p : α → Bool) :
    l.attach.countP (fun x => p x.1) = l.countP p :=
  List.countP_attach

theorem inOrder_eq (as bs : List Value) : same.inOrder as bs = sameInOrder same as bs := by
  induction as generalizing bs with
  | nil => cases bs <;> simp [same.inOrder, sameInOrder]
  | cons a as ih => cases bs <;> simp [same.inOrder, sameInOrder, ih]

theorem fields_eq (as bs : List (String × Value)) :
    same.fields as bs = sameInOrder (samePair (· == ·) same) as bs := by
  induction as generalizing bs with
  | nil => cases bs <;> simp [same.fields, sameInOrder]
  | cons a as ih =>
    cases bs with
    | nil => simp [same.fields, sameInOrder]
    | cons b bs =>
      obtain ⟨m, a⟩ := a
      obtain ⟨n, b⟩ := b
      simp [same.fields, sameInOrder, samePair, ih]

@[simp] theorem same_nil : same .nil .nil = true := by rw [same]

@[simp] theorem same_bool (a b : Bool) : same (.bool a) (.bool b) = (a == b) := by rw [same]

@[simp] theorem same_int (a b : Int64) : same (.int a) (.int b) = (a == b) := by rw [same]

@[simp] theorem same_float (x y : Binary64) : same (.float x) (.float y) = x.sameNumber y := by
  rw [same]

@[simp] theorem same_str (a b : String) : same (.str a) (.str b) = (a == b) := by rw [same]

@[simp] theorem same_list (as bs : List Value) :
    same (.list as) (.list bs) = sameInOrder same as bs := by
  rw [same, inOrder_eq]

@[simp] theorem same_tuple (as bs : List Value) :
    same (.tuple as) (.tuple bs) = sameInOrder same as bs := by
  rw [same, inOrder_eq]

@[simp] theorem same_set (as bs : List Value) :
    same (.set as) (.set bs) = sameInAnyOrder same as bs := by
  rw [same, sameInAnyOrder]
  congr 1
  rw [← all_attach as]
  congr 1
  funext x
  rw [countP_attach as fun y => same y x.1, countP_attach bs fun y => same y x.1]

@[simp] theorem same_map (as bs : List (Value × Value)) :
    same (.map as) (.map bs) = sameInAnyOrder (samePair same same) as bs := by
  rw [same, sameInAnyOrder]
  congr 1
  rw [← all_attach as]
  congr 1
  funext x
  rw [countP_attach as fun y => same y.1 x.1.1 && same y.2 x.1.2,
    countP_attach bs fun y => same y.1 x.1.1 && same y.2 x.1.2]
  rfl

@[simp] theorem same_object (s t : String) (as bs : List (String × Value)) :
    same (.object s as) (.object t bs) =
      (s == t && sameInOrder (samePair (· == ·) same) as bs) := by
  rw [same, fields_eq]

end Value

end Understudy
