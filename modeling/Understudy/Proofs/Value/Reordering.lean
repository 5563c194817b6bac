import Understudy.Proofs.Value.Equivalence

/-!
# Equality is structure up to reordering

Values are compared by counting wherever order does not matter. What is decided that way can be
said without counting: two sets are equal if the elements of the one can be put into an order in
which each is equal to the one at its place in the other. This holds among values whose numbers
are numbers, for there equality is an equivalence, and counting finds a partner for every element.

* `DecidesOn.inAnyOrder`: counting decides whether there is such an order.
* `Value.Alike`: the relation that equality decides, by the structure of the values.
* `Value.same_iff_alike`: it does, and so is an equivalence.
-/

namespace Understudy

/-- Whether the test decides the relation among all that has the property. -/
def DecidesOn {α : Type} (P : α → Prop) (same : α → α → Bool) (R : α → α → Prop) : Prop :=
  ∀ ⦃a b⦄, P a → P b → (same a b = true ↔ R a b)

/-! ## Lists -/

section Lists

variable {α β γ δ : Type}

/-- Lists are related position by position if they are by a relation that is the same among their
    elements. -/
theorem forall₂_congr_of_mem {R S : α → β → Prop} {as : List α} {bs : List β}
    (agree : ∀ a ∈ as, ∀ b ∈ bs, (R a b ↔ S a b)) :
    List.Forall₂ R as bs ↔ List.Forall₂ S as bs := by
  induction as generalizing bs with
  | nil => cases bs <;> simp
  | cons a as ih =>
    cases bs with
    | nil => simp
    | cons b bs =>
      have behind := ih fun c mem d mem' =>
        agree c (List.mem_cons_of_mem a mem) d (List.mem_cons_of_mem b mem')
      rw [List.forall₂_cons, List.forall₂_cons, behind,
        agree a List.mem_cons_self b List.mem_cons_self]

/-- Pairs are related position by position if their members are. -/
theorem forall₂_pair_iff {R : α → γ → Prop} {S : β → δ → Prop} {as : List (α × β)}
    {bs : List (γ × δ)} : List.Forall₂ (fun p q => R p.1 q.1 ∧ S p.2 q.2) as bs ↔
      List.Forall₂ R (as.map Prod.fst) (bs.map Prod.fst) ∧
        List.Forall₂ S (as.map Prod.snd) (bs.map Prod.snd) := by
  induction as generalizing bs with
  | nil => cases bs <;> simp
  | cons a as ih => cases bs <;> simp [ih, and_assoc, and_left_comm]

/-- Elements at one position are counted alike if both tests say the same of them. -/
theorem countP_eq_of_forall₂ {R : α → β → Prop} {p : α → Bool} {q : β → Bool} {as : List α}
    {bs : List β} (agree : ∀ a ∈ as, ∀ b ∈ bs, R a b → p a = q b) (like : List.Forall₂ R as bs) :
    as.countP p = bs.countP q := by
  induction like with
  | nil => rfl
  | @cons a b as bs here _ ih =>
    have behind := ih fun c mem d mem' =>
      agree c (List.mem_cons_of_mem a mem) d (List.mem_cons_of_mem b mem')
    rw [List.countP_cons, List.countP_cons, behind,
      agree a List.mem_cons_self b List.mem_cons_self here]

end Lists

namespace DecidesOn

variable {α β : Type} {P : α → Prop} {Q : β → Prop} {same : α → α → Bool}
  {sameSnd : β → β → Bool} {R : α → α → Prop} {S : β → β → Prop}

theorem beq : DecidesOn (fun _ => True) (fun a b : String => a == b) Eq :=
  fun _ _ _ _ => beq_iff_eq

theorem pair (h : DecidesOn P same R) (h' : DecidesOn Q sameSnd S) :
    DecidesOn (fun p => P p.1 ∧ Q p.2) (samePair same sameSnd)
      fun p q => R p.1 q.1 ∧ S p.2 q.2 := by
  intro p q hp hq
  rw [samePair, Bool.and_eq_true, h hp.1 hq.1, h' hp.2 hq.2]

theorem inOrder (h : DecidesOn P same R) :
    DecidesOn (fun as => ∀ a ∈ as, P a) (sameInOrder same) (List.Forall₂ R) := by
  intro as bs has hbs
  rw [sameInOrder_iff_forall₂]
  exact forall₂_congr_of_mem fun a mem b mem' => h (has a mem) (hbs b mem')

/-- Counting decides whether the elements of the second list can be put into an order in which
    they are related to those of the first. -/
theorem inAnyOrder (h : DecidesOn P same R) (equivalent : EquivalentOn P same) :
    DecidesOn (fun as => ∀ a ∈ as, P a) (sameInAnyOrder same)
      fun as bs => ∃ cs, List.Forall₂ R as cs ∧ cs.Perm bs := by
  intro as bs has hbs
  constructor
  · intro equal
    induction as generalizing bs with
    | nil =>
      have length := (sameInAnyOrder_iff.1 equal).1
      exact ⟨[], .nil, List.length_eq_zero_iff.1 length.symm ▸ .refl []⟩
    | cons a as ih =>
      obtain ⟨ha, has⟩ := List.forall_mem_cons.1 has
      -- The first element meets one of the other list, and the rest is counted without the two.
      obtain ⟨b, rest, perm, met, equal⟩ := equivalent.exists_partner ha has hbs equal
      have hrest : ∀ c ∈ rest, P c := fun c mem =>
        hbs c (perm.subset (List.mem_cons_of_mem b mem))
      obtain ⟨cs, like, perm'⟩ := ih has hrest equal
      have hb : P b := hbs b (perm.subset List.mem_cons_self)
      exact ⟨b :: cs, .cons ((h ha hb).1 met) like, (perm'.cons b).trans perm⟩
  · rintro ⟨cs, like, perm⟩
    have hcs : ∀ c ∈ cs, P c := fun c mem => hbs c (perm.subset mem)
    refine sameInAnyOrder_iff.2 ⟨like.length_eq.trans perm.length_eq, fun x mem => ?_⟩
    rw [← perm.countP_eq]
    refine countP_eq_of_forall₂ (fun a mema c memc related => ?_) like
    exact equivalent.congr_left (has a mema) (hcs c memc) (has x mem)
      ((h (has a mema) (hcs c memc)).2 related)

end DecidesOn

/-! ## Values -/

namespace Value

/-- Whether two values are of one structure, save for the order of what is in sets and maps. -/
inductive Alike : Value → Value → Prop
  | nil : Alike .nil .nil
  | bool {b : Bool} : Alike (.bool b) (.bool b)
  | int {n : Int64} : Alike (.int n) (.int n)
  | float {x : Binary64} : Alike (.float x) (.float x)
  /-- The two zeros are one number. -/
  | zero {x y : Binary64} : x.isZero = true → y.isZero = true → Alike (.float x) (.float y)
  | str {text : String} : Alike (.str text) (.str text)
  | list {as bs : List Value} : List.Forall₂ Alike as bs → Alike (.list as) (.list bs)
  | tuple {as bs : List Value} : List.Forall₂ Alike as bs → Alike (.tuple as) (.tuple bs)
  /-- The elements of the second set can be put into an order in which they are like those of the
      first. -/
  | set {as cs bs : List Value} : List.Forall₂ Alike as cs → cs.Perm bs →
      Alike (.set as) (.set bs)
  /-- So can the entries of the second map, in which both their keys and their values are. -/
  | map {as cs bs : List (Value × Value)} :
      List.Forall₂ Alike (as.map Prod.fst) (cs.map Prod.fst) →
      List.Forall₂ Alike (as.map Prod.snd) (cs.map Prod.snd) → cs.Perm bs →
      Alike (.map as) (.map bs)
  | object {typeName : String} {as bs : List (String × Value)} :
      as.map Prod.fst = bs.map Prod.fst →
      List.Forall₂ Alike (as.map Prod.snd) (bs.map Prod.snd) →
      Alike (.object typeName as) (.object typeName bs)

theorem sameNumber_iff_alike {x y : Binary64} (hx : x.isNaN = false) (hy : y.isNaN = false) :
    x.sameNumber y = true ↔ Alike (.float x) (.float y) := by
  simp only [Binary64.sameNumber, hx, hy, Bool.not_false, Bool.true_and, Bool.or_eq_true,
    Bool.and_eq_true, beq_iff_eq]
  constructor
  · rintro (rfl | ⟨zero, zero'⟩)
    · exact .float
    · exact .zero zero zero'
  · intro alike
    cases alike with
    | float => exact .inl rfl
    | zero zero zero' => exact .inr ⟨zero, zero'⟩

/-- Equality decides the relation, as it is decided for the parts and these are smaller. -/
theorem decidesOn_below (bound : Nat) : DecidesOn (NumericBelow bound) same Alike := by
  induction bound with
  | zero => exact fun _ _ h => absurd h.small (Nat.not_lt_zero _)
  | succ bound ih =>
    have equivalent := equivalentOn_below bound
    have items := ih.inAnyOrder equivalent
    have entries := (ih.pair ih).inAnyOrder (equivalent.pair equivalent)
    have fields := (DecidesOn.beq.pair ih).inOrder
    intro a b ha hb
    rw [same_iff]
    constructor
    · intro equal
      cases equal with
      | nil => exact .nil
      | bool => exact .bool
      | int => exact .int
      | float equal => exact (sameNumber_iff_alike ha.numeric hb.numeric).1 equal
      | str => exact .str
      | list equal => exact .list ((ih.inOrder ha.list hb.list).1 equal)
      | tuple equal => exact .tuple ((ih.inOrder ha.tuple hb.tuple).1 equal)
      | set equal =>
        obtain ⟨cs, like, perm⟩ := (items ha.set hb.set).1 equal
        exact .set like perm
      | map equal =>
        obtain ⟨cs, like, perm⟩ := (entries ha.map hb.map).1 equal
        obtain ⟨keys, values⟩ := forall₂_pair_iff.1 like
        exact .map keys values perm
      | object equal =>
        obtain ⟨names, values⟩ := forall₂_pair_iff.1 ((fields ha.object hb.object).1 equal)
        exact .object (List.forall₂_eq_eq_eq ▸ names) values
    · intro alike
      cases alike with
      | nil => exact .nil
      | bool => exact .bool
      | int => exact .int
      | float => exact .float ((sameNumber_iff_alike ha.numeric hb.numeric).2 .float)
      | zero zero zero' =>
        exact .float ((sameNumber_iff_alike ha.numeric hb.numeric).2 (.zero zero zero'))
      | str => exact .str
      | list like => exact .list ((ih.inOrder ha.list hb.list).2 like)
      | tuple like => exact .tuple ((ih.inOrder ha.tuple hb.tuple).2 like)
      | set like perm => exact .set ((items ha.set hb.set).2 ⟨_, like, perm⟩)
      | map keys values perm =>
        exact .map ((entries ha.map hb.map).2 ⟨_, forall₂_pair_iff.2 ⟨keys, values⟩, perm⟩)
      | object names values =>
        have names : List.Forall₂ Eq _ _ := List.forall₂_eq_eq_eq ▸ names
        exact .object ((fields ha.object hb.object).2 (forall₂_pair_iff.2 ⟨names, values⟩))

/-- Among values whose numbers are numbers equality decides the relation. -/
theorem decidesOn_numeric : DecidesOn Numeric same Alike := fun a b ha hb =>
  decidesOn_below (sizeOf a + sizeOf b + 1) ⟨ha, by omega⟩ ⟨hb, by omega⟩

/-- Among values whose numbers are numbers, those are equal that are of one structure up to the
    order in sets and maps; and equality is an equivalence there. -/
theorem same_iff_alike :
    (∀ a b : Value, a.Numeric → b.Numeric → (same a b = true ↔ Alike a b)) ∧
      Equivalence fun a b : { value : Value // value.Numeric } => same a.1 b.1 = true where
  left _ _ ha hb := decidesOn_numeric ha hb
  right :=
    { refl := fun a => equivalentOn_numeric.refl a.2
      symm := fun {a b} => equivalentOn_numeric.symm a.2 b.2
      trans := fun {a b c} => equivalentOn_numeric.trans a.2 b.2 c.2 }

theorem same_iff_alike_shelf : Sample.shelf.Numeric ∧ Sample.turnedShelf.Numeric ∧
    same Sample.shelf Sample.turnedShelf = true := by
  have zero : ∀ negative, (Binary64.zero negative).isNaN = false := by decide +kernel
  have left : Sample.shelf.Numeric :=
    ⟨⟨trivial, trivial, trivial⟩, ⟨trivial, zero true, trivial⟩, trivial⟩
  have right : Sample.turnedShelf.Numeric :=
    ⟨⟨trivial, zero false, trivial⟩, ⟨trivial, trivial, trivial⟩, trivial⟩
  have inner : Alike (.set [.int 1, .int 2]) (.set [.int 2, .int 1]) :=
    .set (.cons .int (.cons .int .nil)) (.swap _ _ _)
  have entry : Alike (.map [(.str "key", .float (.zero true))])
      (.map [(.str "key", .float (.zero false))]) :=
    .map (.cons .str .nil) (.cons (.zero (by decide +kernel) (by decide +kernel)) .nil) (.refl _)
  exact ⟨left, right, (same_iff_alike.1 _ _ left right).2
    (.set (.cons inner (.cons entry .nil)) (.swap _ _ _))⟩

end Value

end Understudy
