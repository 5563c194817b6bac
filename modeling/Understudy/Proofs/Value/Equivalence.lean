import Mathlib.Data.List.Forall2
import Understudy.Proofs.Value.RoundTrip

/-!
# When equality of values is an equivalence

Sets and maps are compared by counting: how often each element of the first occurs in both. That
finds out whether they have the same elements only if equality of the elements is an equivalence,
for then elements that are counted together may be exchanged. It is one among values whose
floating-point numbers are numbers. A "not a number" equals nothing, so inside a set it is counted
on neither side; in lists, tuples and objects it does no harm.

* `EquivalentOn.countP_eq`: sets that are found equal agree in how often anything occurs in them.
* `Value.equivalentOn_numeric`: equality is an equivalence among values without "not a number".
* `Value.same_comm`: it is symmetric where sets and maps hold no "not a number".
-/

namespace Understudy

/-- Whether the test is an equivalence among all that has the property. -/
structure EquivalentOn {α : Type} (P : α → Prop) (same : α → α → Bool) : Prop where
  refl : ∀ {a}, P a → same a a = true
  symm : ∀ {a b}, P a → P b → same a b = true → same b a = true
  trans : ∀ {a b c}, P a → P b → P c → same a b = true → same b c = true → same a c = true

namespace EquivalentOn

variable {α β : Type} {P : α → Prop} {Q : β → Prop} {same : α → α → Bool}
  {sameSnd : β → β → Bool}

theorem comm (h : EquivalentOn P same) {a b : α} (ha : P a) (hb : P b) : same a b = same b a :=
  Bool.eq_iff_iff.2 ⟨h.symm ha hb, h.symm hb ha⟩

/-- Equal elements equal the same elements. -/
theorem congr_left (h : EquivalentOn P same) {a b x : α} (ha : P a) (hb : P b) (hx : P x)
    (equal : same a b = true) : same a x = same b x :=
  Bool.eq_iff_iff.2 ⟨h.trans hb ha hx (h.symm ha hb equal), h.trans ha hb hx equal⟩

/-- Equal elements are equalled by the same elements. -/
theorem congr_right (h : EquivalentOn P same) {a b x : α} (ha : P a) (hb : P b) (hx : P x)
    (equal : same a b = true) : same x a = same x b := by
  rw [h.comm hx ha, h.comm hx hb, h.congr_left ha hb hx equal]

theorem beq : EquivalentOn (fun _ => True) fun a b : String => a == b where
  refl _ := beq_self_eq_true _
  symm _ _ equal := beq_iff_eq.2 (beq_iff_eq.1 equal).symm
  trans _ _ _ first second := beq_iff_eq.2 ((beq_iff_eq.1 first).trans (beq_iff_eq.1 second))

theorem pair (h : EquivalentOn P same) (h' : EquivalentOn Q sameSnd) :
    EquivalentOn (fun p => P p.1 ∧ Q p.2) (samePair same sameSnd) := by
  constructor
  case refl =>
    intro p hp
    rw [samePair, h.refl hp.1, h'.refl hp.2]
    rfl
  case symm =>
    intro p q hp hq equal
    obtain ⟨first, second⟩ := Bool.and_eq_true_iff.1 equal
    exact Bool.and_eq_true_iff.2 ⟨h.symm hp.1 hq.1 first, h'.symm hp.2 hq.2 second⟩
  case trans =>
    intro p q r hp hq hr equal equal'
    obtain ⟨first, second⟩ := Bool.and_eq_true_iff.1 equal
    obtain ⟨first', second'⟩ := Bool.and_eq_true_iff.1 equal'
    exact Bool.and_eq_true_iff.2
      ⟨h.trans hp.1 hq.1 hr.1 first first', h'.trans hp.2 hq.2 hr.2 second second'⟩

end EquivalentOn

/-! ## Position by position -/

section InOrder

variable {α : Type} {same : α → α → Bool}

theorem sameInOrder_iff_forall₂ {as bs : List α} :
    sameInOrder same as bs = true ↔ List.Forall₂ (same · · = true) as bs := by
  induction as generalizing bs with
  | nil => cases bs <;> simp [sameInOrder]
  | cons a as ih => cases bs <;> simp [sameInOrder, ih]

/-- A test of lists position by position is symmetric where that of the elements is. -/
theorem sameInOrder_comm {as bs : List α} (comm : ∀ a ∈ as, ∀ b ∈ bs, same a b = same b a) :
    sameInOrder same as bs = sameInOrder same bs as := by
  induction as generalizing bs with
  | nil => cases bs <;> rfl
  | cons a as ih =>
    cases bs with
    | nil => rfl
    | cons b bs =>
      have behind := ih fun c mem d mem' =>
        comm c (List.mem_cons_of_mem a mem) d (List.mem_cons_of_mem b mem')
      rw [sameInOrder, sameInOrder, comm a List.mem_cons_self b List.mem_cons_self, behind]

variable {P : α → Prop}

theorem EquivalentOn.inOrder (h : EquivalentOn P same) :
    EquivalentOn (fun as => ∀ a ∈ as, P a) (sameInOrder same) := by
  constructor
  case refl =>
    intro as has
    exact sameInOrder_of_same fun a mem => h.refl (has a mem)
  case symm =>
    intro as bs has hbs equal
    rwa [sameInOrder_comm fun b memb a mema => h.comm (hbs b memb) (has a mema)]
  case trans =>
    intro as bs cs has hbs hcs first second
    rw [sameInOrder_iff_forall₂] at first second ⊢
    induction first generalizing cs with
    | nil => exact second
    | @cons a b as bs equal _ ih =>
      cases second with
      | @cons _ c _ cs equal' behind =>
        obtain ⟨ha, has⟩ := List.forall_mem_cons.1 has
        obtain ⟨hb, hbs⟩ := List.forall_mem_cons.1 hbs
        obtain ⟨hc, hcs⟩ := List.forall_mem_cons.1 hcs
        exact .cons (h.trans ha hb hc equal equal') (ih has hbs hcs behind)

end InOrder

/-! ## In any order -/

section InAnyOrder

variable {α : Type} {P : α → Prop} {same : α → α → Bool} {as bs : List α}

theorem sameInAnyOrder_iff : sameInAnyOrder same as bs = true ↔
    as.length = bs.length ∧ ∀ x ∈ as, as.countP (same · x) = bs.countP (same · x) := by
  simp [sameInAnyOrder]

/-- If two lists are found equal, the first element of the one equals an element of the other, and
    the lists without these two are found equal. -/
theorem EquivalentOn.exists_partner (h : EquivalentOn P same) {a : α} (ha : P a)
    (has : ∀ a ∈ as, P a) (hbs : ∀ b ∈ bs, P b)
    (equal : sameInAnyOrder same (a :: as) bs = true) :
    ∃ b rest, (b :: rest).Perm bs ∧ same a b = true ∧ sameInAnyOrder same as rest = true := by
  obtain ⟨length, counts⟩ := sameInAnyOrder_iff.1 equal
  -- The element is counted in its own list, so there is one in the other that equals it.
  have counted : 0 < (a :: as).countP (same · a) :=
    List.countP_pos_iff.2 ⟨a, List.mem_cons_self, h.refl ha⟩
  rw [counts a List.mem_cons_self] at counted
  obtain ⟨b, mem, met⟩ := List.countP_pos_iff.1 counted
  obtain ⟨front, back, rfl⟩ := List.append_of_mem mem
  have perm : (b :: (front ++ back)).Perm (front ++ b :: back) := List.perm_middle.symm
  have equals : same a b = true := h.symm (hbs b mem) ha met
  refine ⟨b, front ++ back, perm, equals, sameInAnyOrder_iff.2 ⟨?_, fun x there => ?_⟩⟩
  · rw [← perm.length_eq] at length
    exact Nat.succ.inj length
  · have count := counts x (List.mem_cons_of_mem a there)
    rw [← perm.countP_eq, List.countP_cons, List.countP_cons,
      h.congr_left ha (hbs b mem) (has x there) equals] at count
    exact Nat.add_right_cancel count

/-- What equals an element of one of two lists that are found equal occurs in both equally often,
    and so does everything else. -/
theorem EquivalentOn.countP_eq (h : EquivalentOn P same) (has : ∀ a ∈ as, P a)
    (hbs : ∀ b ∈ bs, P b) (equal : sameInAnyOrder same as bs = true) {x : α} (hx : P x) :
    as.countP (same · x) = bs.countP (same · x) := by
  induction as generalizing bs with
  | nil =>
    obtain ⟨length, -⟩ := sameInAnyOrder_iff.1 equal
    rw [List.length_eq_zero_iff.1 length.symm]
  | cons a as ih =>
    obtain ⟨ha, has⟩ := List.forall_mem_cons.1 has
    obtain ⟨b, rest, perm, met, equal⟩ := h.exists_partner ha has hbs equal
    have hrest : ∀ c ∈ rest, P c := fun c there =>
      hbs c (perm.subset (List.mem_cons_of_mem b there))
    have hb : P b := hbs b (perm.subset List.mem_cons_self)
    rw [← perm.countP_eq, List.countP_cons, List.countP_cons, h.congr_left ha hb hx met,
      ih has hrest equal]

theorem EquivalentOn.inAnyOrder (h : EquivalentOn P same) :
    EquivalentOn (fun as => ∀ a ∈ as, P a) (sameInAnyOrder same) := by
  constructor
  case refl =>
    intro as _
    exact sameInAnyOrder_self same as
  case symm =>
    intro as bs has hbs equal
    refine sameInAnyOrder_iff.2 ⟨(sameInAnyOrder_iff.1 equal).1.symm, fun x mem => ?_⟩
    exact (h.countP_eq has hbs equal (hbs x mem)).symm
  case trans =>
    intro as bs cs has hbs hcs first second
    refine sameInAnyOrder_iff.2 ⟨?_, fun x mem => ?_⟩
    · exact (sameInAnyOrder_iff.1 first).1.trans (sameInAnyOrder_iff.1 second).1
    · exact (h.countP_eq has hbs first (has x mem)).trans
        (h.countP_eq hbs hcs second (has x mem))

end InAnyOrder

/-! ## Values -/

theorem Binary64.sameNumber_trans {x y z : Binary64} (first : x.sameNumber y = true)
    (second : y.sameNumber z = true) : x.sameNumber z = true := by
  simp only [sameNumber, Bool.and_eq_true, Bool.or_eq_true, Bool.not_eq_true', beq_iff_eq]
    at first second ⊢
  grind

namespace Value

/-- How two values are equal. -/
inductive Same : Value → Value → Prop
  | nil : Same .nil .nil
  | bool {b : Bool} : Same (.bool b) (.bool b)
  | int {n : Int64} : Same (.int n) (.int n)
  | float {x y : Binary64} : x.sameNumber y = true → Same (.float x) (.float y)
  | str {text : String} : Same (.str text) (.str text)
  | list {as bs : List Value} : sameInOrder same as bs = true → Same (.list as) (.list bs)
  | tuple {as bs : List Value} : sameInOrder same as bs = true → Same (.tuple as) (.tuple bs)
  | set {as bs : List Value} : sameInAnyOrder same as bs = true → Same (.set as) (.set bs)
  | map {as bs : List (Value × Value)} : sameInAnyOrder (samePair same same) as bs = true →
      Same (.map as) (.map bs)
  | object {typeName : String} {as bs : List (String × Value)} :
      sameInOrder (samePair (· == ·) same) as bs = true →
      Same (.object typeName as) (.object typeName bs)

/-- Values of different kinds are not equal, and those of one kind are by the rule of the kind. -/
theorem same_iff {a b : Value} : same a b = true ↔ Same a b := by
  constructor
  · intro equal
    have rule := equal
    unfold same at equal
    split at equal
    case h_1 => exact .nil
    case h_2 => exact beq_iff_eq.1 equal ▸ .bool
    case h_3 => exact beq_iff_eq.1 equal ▸ .int
    case h_4 => exact .float equal
    case h_5 => exact beq_iff_eq.1 equal ▸ .str
    case h_6 => exact .list (same_list _ _ ▸ rule)
    case h_7 => exact .tuple (same_tuple _ _ ▸ rule)
    case h_8 => exact .set (same_set _ _ ▸ rule)
    case h_9 => exact .map (same_map _ _ ▸ rule)
    case h_10 =>
      rw [same_object] at rule
      obtain ⟨name, fields⟩ := Bool.and_eq_true_iff.1 rule
      exact beq_iff_eq.1 name ▸ .object fields
    case h_11 => cases equal
  · intro equal
    cases equal with
    | nil => exact same_nil
    | bool | int | str => simp
    | float equal => rwa [same_float]
    | list equal => rwa [same_list]
    | tuple equal => rwa [same_tuple]
    | set equal => rwa [same_set]
    | map equal => rwa [same_map]
    | object equal => rwa [same_object, beq_self_eq_true, Bool.true_and]

/-- Whether all floating-point numbers in the value are numbers. -/
abbrev Numeric (value : Value) : Prop := value.Floats (·.isNaN = false)

theorem floatsOfItems_iff {P : Binary64 → Prop} {items : List Value} :
    FloatsOfItems P items ↔ ∀ item ∈ items, item.Floats P := by
  induction items with
  | nil => simp [FloatsOfItems]
  | cons item rest ih => rw [FloatsOfItems, ih, List.forall_mem_cons]

theorem floatsOfEntries_iff {P : Binary64 → Prop} {entries : List (Value × Value)} :
    FloatsOfEntries P entries ↔ ∀ entry ∈ entries, entry.1.Floats P ∧ entry.2.Floats P := by
  induction entries with
  | nil => simp [FloatsOfEntries]
  | cons entry rest ih =>
    rw [FloatsOfEntries, ih, List.forall_mem_cons, and_assoc]

theorem floatsOfFields_iff {P : Binary64 → Prop} {fields : List (String × Value)} :
    FloatsOfFields P fields ↔ ∀ field ∈ fields, field.2.Floats P := by
  induction fields with
  | nil => simp [FloatsOfFields]
  | cons field rest ih => rw [FloatsOfFields, ih, List.forall_mem_cons]

/-- Whether the value is numeric and below the size. -/
structure NumericBelow (bound : Nat) (value : Value) : Prop where
  numeric : value.Numeric
  small : sizeOf value < bound

namespace NumericBelow

variable {bound : Nat} {items : List Value}

theorem of_items (numeric : FloatsOfItems (·.isNaN = false) items) (small : sizeOf items < bound) :
    ∀ item ∈ items, NumericBelow bound item := fun item mem =>
  ⟨floatsOfItems_iff.1 numeric item mem, Nat.lt_trans (List.sizeOf_lt_of_mem mem) small⟩

theorem list (h : NumericBelow (bound + 1) (.list items)) :
    ∀ item ∈ items, NumericBelow bound item :=
  of_items h.numeric (by have := h.small; simp only [list.sizeOf_spec] at this; omega)

theorem tuple (h : NumericBelow (bound + 1) (.tuple items)) :
    ∀ item ∈ items, NumericBelow bound item :=
  of_items h.numeric (by have := h.small; simp only [tuple.sizeOf_spec] at this; omega)

theorem set (h : NumericBelow (bound + 1) (.set items)) :
    ∀ item ∈ items, NumericBelow bound item :=
  of_items h.numeric (by have := h.small; simp only [set.sizeOf_spec] at this; omega)

theorem map {entries : List (Value × Value)} (h : NumericBelow (bound + 1) (.map entries)) :
    ∀ entry ∈ entries, NumericBelow bound entry.1 ∧ NumericBelow bound entry.2 := by
  intro entry mem
  obtain ⟨numericKey, numericValue⟩ := floatsOfEntries_iff.1 h.numeric _ mem
  obtain ⟨smallKey, smallValue⟩ := sizeOf_pair_lt mem
  have below := h.small
  simp only [map.sizeOf_spec] at below
  exact ⟨⟨numericKey, by omega⟩, ⟨numericValue, by omega⟩⟩

theorem object {typeName : String} {fields : List (String × Value)}
    (h : NumericBelow (bound + 1) (.object typeName fields)) :
    ∀ field ∈ fields, True ∧ NumericBelow bound field.2 := by
  intro field mem
  have smallValue := (sizeOf_pair_lt mem).2
  have below := h.small
  simp only [object.sizeOf_spec] at below
  exact ⟨trivial, floatsOfFields_iff.1 h.numeric _ mem, by omega⟩

end NumericBelow

/-- Values are compared by their parts, and these are smaller. Symmetry and transitivity are
    proved together, for counting needs both of the elements. -/
theorem equivalentOn_below (bound : Nat) : EquivalentOn (NumericBelow bound) same := by
  induction bound with
  | zero => exact ⟨fun h => absurd h.small (Nat.not_lt_zero _),
      fun h => absurd h.small (Nat.not_lt_zero _), fun h => absurd h.small (Nat.not_lt_zero _)⟩
  | succ bound ih =>
    have entries := (ih.pair ih).inAnyOrder
    have fields := (EquivalentOn.beq.pair ih).inOrder
    constructor
    case refl =>
      intro a ha
      rw [same_iff]
      cases a with
      | nil => exact .nil
      | bool => exact .bool
      | int => exact .int
      | float x => exact .float (x.sameNumber_self_iff.2 ha.numeric)
      | str => exact .str
      | list => exact .list (ih.inOrder.refl ha.list)
      | tuple => exact .tuple (ih.inOrder.refl ha.tuple)
      | set => exact .set (ih.inAnyOrder.refl ha.set)
      | map => exact .map (entries.refl ha.map)
      | object => exact .object (fields.refl ha.object)
    case symm =>
      intro a b ha hb equal
      rw [same_iff] at equal ⊢
      cases equal with
      | nil => exact .nil
      | bool => exact .bool
      | int => exact .int
      | @float x y equal => exact .float (x.sameNumber_comm y ▸ equal)
      | str => exact .str
      | list equal => exact .list (ih.inOrder.symm ha.list hb.list equal)
      | tuple equal => exact .tuple (ih.inOrder.symm ha.tuple hb.tuple equal)
      | set equal => exact .set (ih.inAnyOrder.symm ha.set hb.set equal)
      | map equal => exact .map (entries.symm ha.map hb.map equal)
      | object equal => exact .object (fields.symm ha.object hb.object equal)
    case trans =>
      intro a b c ha hb hc first second
      rw [same_iff] at first second ⊢
      -- The kind of the first two values is that of the last two.
      cases first with
      | nil => exact second
      | bool => exact second
      | int => exact second
      | str => exact second
      | float equal =>
        cases second with
        | float equal' => exact .float (Binary64.sameNumber_trans equal equal')
      | list equal =>
        cases second with
        | list equal' => exact .list (ih.inOrder.trans ha.list hb.list hc.list equal equal')
      | tuple equal =>
        cases second with
        | tuple equal' => exact .tuple (ih.inOrder.trans ha.tuple hb.tuple hc.tuple equal equal')
      | set equal =>
        cases second with
        | set equal' => exact .set (ih.inAnyOrder.trans ha.set hb.set hc.set equal equal')
      | map equal =>
        cases second with
        | map equal' => exact .map (entries.trans ha.map hb.map hc.map equal equal')
      | object equal =>
        cases second with
        | object equal' =>
          exact .object (fields.trans ha.object hb.object hc.object equal equal')

/-- Equality is an equivalence among values whose numbers are numbers. -/
theorem equivalentOn_numeric : EquivalentOn Numeric same where
  refl {a} ha := (equivalentOn_below (sizeOf a + 1)).refl ⟨ha, by omega⟩
  symm {a b} ha hb := (equivalentOn_below (sizeOf a + sizeOf b + 1)).symm
    ⟨ha, by omega⟩ ⟨hb, by omega⟩
  trans {a b c} ha hb hc := (equivalentOn_below (sizeOf a + sizeOf b + sizeOf c + 1)).trans
    ⟨ha, by omega⟩ ⟨hb, by omega⟩ ⟨hc, by omega⟩

/-! ## Symmetry -/

mutual

/-- Whether the sets and maps in the value hold numeric values only. -/
def NumericCollections : Value → Prop
  | .nil | .bool _ | .int _ | .float _ | .str _ => True
  | .list items | .tuple items => NumericCollectionsOfItems items
  | .set items => FloatsOfItems (·.isNaN = false) items
  | .map entries => FloatsOfEntries (·.isNaN = false) entries
  | .object _ fields => NumericCollectionsOfFields fields

/-- Whether those in all items do. -/
def NumericCollectionsOfItems : List Value → Prop
  | [] => True
  | item :: rest => NumericCollections item ∧ NumericCollectionsOfItems rest

/-- Whether those in all fields of an object do. -/
def NumericCollectionsOfFields : List (String × Value) → Prop
  | [] => True
  | (_, value) :: rest => NumericCollections value ∧ NumericCollectionsOfFields rest

end

mutual

/-- What equals a value is equalled by it. Lists are compared position by position, so only sets
    and maps need an equivalence. -/
theorem same_symm : ∀ {a b : Value}, a.NumericCollections → b.NumericCollections →
    same a b = true → same b a = true
  | .nil, _, _, _, equal | .bool _, _, _, _, equal | .int _, _, _, _, equal
  | .str _, _, _, _, equal => by
    cases same_iff.1 equal
    exact equal
  | .float x, _, _, _, equal => by
    cases same_iff.1 equal with
    | @float _ y number => rwa [same_float, y.sameNumber_comm]
  | .list as, _, ha, hb, equal => by
    cases same_iff.1 equal with
    | list parts =>
      rw [same_list]
      exact sameInOrder_symm ha hb parts
  | .tuple as, _, ha, hb, equal => by
    cases same_iff.1 equal with
    | tuple parts =>
      rw [same_tuple]
      exact sameInOrder_symm ha hb parts
  | .set as, _, ha, hb, equal => by
    cases same_iff.1 equal with
    | set parts =>
      rw [same_set]
      -- Elements are counted on both sides, for which symmetry alone does not do.
      exact equivalentOn_numeric.inAnyOrder.symm (floatsOfItems_iff.1 ha)
        (floatsOfItems_iff.1 hb) parts
  | .map as, _, ha, hb, equal => by
    cases same_iff.1 equal with
    | map parts =>
      rw [same_map]
      exact (equivalentOn_numeric.pair equivalentOn_numeric).inAnyOrder.symm
        (floatsOfEntries_iff.1 ha) (floatsOfEntries_iff.1 hb) parts
  | .object typeName as, _, ha, hb, equal => by
    cases same_iff.1 equal with
    | object parts =>
      rw [same_object, beq_self_eq_true, Bool.true_and]
      exact sameFields_symm ha hb parts

theorem sameInOrder_symm : ∀ {as bs : List Value}, NumericCollectionsOfItems as →
    NumericCollectionsOfItems bs → sameInOrder same as bs = true → sameInOrder same bs as = true
  | [], [], _, _, equal => equal
  | [], _ :: _, _, _, equal | _ :: _, [], _, _, equal => equal
  | a :: as, b :: bs, ha, hb, equal => by
    obtain ⟨here, behind⟩ := Bool.and_eq_true_iff.1 equal
    exact Bool.and_eq_true_iff.2 ⟨same_symm ha.1 hb.1 here, sameInOrder_symm ha.2 hb.2 behind⟩

theorem sameFields_symm : ∀ {as bs : List (String × Value)}, NumericCollectionsOfFields as →
    NumericCollectionsOfFields bs → sameInOrder (samePair (· == ·) same) as bs = true →
    sameInOrder (samePair (· == ·) same) bs as = true
  | [], [], _, _, equal => equal
  | [], _ :: _, _, _, equal | _ :: _, [], _, _, equal => equal
  | (_, a) :: as, (_, b) :: bs, ha, hb, equal => by
    obtain ⟨here, behind⟩ := Bool.and_eq_true_iff.1 equal
    obtain ⟨name, value⟩ := Bool.and_eq_true_iff.1 here
    exact Bool.and_eq_true_iff.2 ⟨Bool.and_eq_true_iff.2
      ⟨EquivalentOn.beq.symm trivial trivial name, same_symm ha.1 hb.1 value⟩,
      sameFields_symm ha.2 hb.2 behind⟩

end

/-- Equality is symmetric where sets and maps hold no "not a number". -/
theorem same_comm {a b : Value} (ha : a.NumericCollections) (hb : b.NumericCollections) :
    same a b = same b a :=
  Bool.eq_iff_iff.2 ⟨same_symm ha hb, same_symm hb ha⟩

end Value

/-- A set of a set and a map. -/
def Sample.shelf : Value := .set [.set [.int 1, .int 2], .map [(.str "key", .float (.zero true))]]

/-- The same set with everything in another order, and with the other zero. -/
def Sample.turnedShelf : Value :=
  .set [.map [(.str "key", .float (.zero false))], .set [.int 2, .int 1]]

namespace Value

theorem same_comm_shelf : Sample.shelf.NumericCollections ∧ Sample.turnedShelf.NumericCollections ∧
    same Sample.shelf Sample.turnedShelf = same Sample.turnedShelf Sample.shelf := by
  have zero : ∀ negative, (Binary64.zero negative).isNaN = false := by decide +kernel
  have left : Sample.shelf.NumericCollections :=
    ⟨⟨trivial, trivial, trivial⟩, ⟨trivial, zero true, trivial⟩, trivial⟩
  have right : Sample.turnedShelf.NumericCollections :=
    ⟨⟨trivial, zero false, trivial⟩, ⟨trivial, trivial, trivial⟩, trivial⟩
  exact ⟨left, right, same_comm left right⟩

/-- What is no number is counted nowhere, so a set of it equals every set of its size. -/
theorem same_set_of_nan {as bs : List Value} (length : as.length = bs.length)
    (none : ∀ a ∈ as, ∃ x : Binary64, a = .float x ∧ x.isNaN = true) :
    same (.set as) (.set bs) = true := by
  have uncounted : ∀ a ∈ as, ∀ b, same b a = false := by
    intro a mem b
    obtain ⟨x, rfl, nan⟩ := none a mem
    rw [Bool.eq_false_iff, Ne, same_iff]
    intro equal
    cases equal with
    | float number => simp [Binary64.sameNumber, nan] at number
  rw [same_set, sameInAnyOrder_iff]
  refine ⟨length, fun a mem => ?_⟩
  simp [uncounted a mem]

/-- A set of "not a number" equals the set of a number, which does not equal it. -/
theorem same_asymmetric :
    same (.set [.float .nan]) (.set [.int 1]) = true ∧
      same (.set [.int 1]) (.set [.float .nan]) = false := by
  constructor
  · refine same_set_of_nan rfl fun a mem => ⟨.nan, List.mem_singleton.1 mem, ?_⟩
    decide +kernel
  · have differ : same (.float .nan) (.int 1) = false := by
      rw [Bool.eq_false_iff, Ne, same_iff]
      exact nofun
    simp [sameInAnyOrder, differ]

end Value

end Understudy
