import Understudy.Proofs.Call.FirstFault
import Understudy.Proofs.Value.Reordering
import Understudy.Rule
import Understudy.Sample.Surfaces

/-!
# Equal arguments are treated alike

Equal calls may list the elements of sets and the entries of maps in different orders, and may
have different zeros in them. Nothing that happens to a call depends on that: types accept the
same values, the first thing wrong with the one is the first thing wrong with the other, and rules
that are for all calls or for certain arguments draw the same outcome for both.

All of it is proved of values that are alike, which is decided by equality among values whose
numbers are numbers. Alike is also every value with itself, whatever its numbers are, so nothing
has to be known of the defaults of parameters.

* `Ty.accepts_of_alike`, `Member.firstFault?_alike`: types and signatures.
* `Rules.draw_eq`: a call takes part in a draw only by telling which rule is drawn from.
* `Arguments.equal_treated_alike`: equal arguments.
-/

namespace Understudy

/-! ## Lists and options -/

section Lists

variable {α β γ δ : Type} {R : α → β → Prop} {S : γ → δ → Prop} {as : List α} {bs : List β}

theorem all_eq_of_forall₂ {p : α → Bool} {q : β → Bool} (agree : ∀ a b, R a b → p a = q b)
    (like : List.Forall₂ R as bs) : as.all p = bs.all q := by
  induction like with
  | nil => rfl
  | cons here _ ih => rw [List.all_cons, List.all_cons, ih, agree _ _ here]

/-- What is found first in related lists is related if it is at every position. -/
theorem findSome?_rel {f : α → Option γ} {g : β → Option δ}
    (agree : ∀ a b, R a b → Option.Rel S (f a) (g b)) (like : List.Forall₂ R as bs) :
    Option.Rel S (as.findSome? f) (bs.findSome? g) := by
  induction like with
  | nil => exact .none
  | @cons a b as bs here _ ih =>
    rw [List.findSome?_cons, List.findSome?_cons]
    have first := agree a b here
    revert first
    cases f a <;> cases g b <;> intro first
    · exact ih
    · cases first
    · cases first
    · exact first

theorem rel_or {o p : Option α} {o' p' : Option β} (first : Option.Rel R o o')
    (second : Option.Rel R p p') : Option.Rel R (o.or p) (o'.or p') := by
  cases first with
  | none => exact second
  | some related => exact .some related

theorem forall₂_toList {o : Option α} {o' : Option β} (related : Option.Rel R o o') :
    List.Forall₂ R o.toList o'.toList := by
  cases related with
  | none => exact .nil
  | some related => exact .cons related .nil

theorem isSome_eq_of_rel {o : Option α} {o' : Option β} (related : Option.Rel R o o') :
    o.isSome = o'.isSome := by
  cases related <;> rfl

end Lists

/-! ## Values and types -/

/-- A zero of either sign denotes the integer zero. -/
theorem Binary64.toInt64?_of_isZero {x : Binary64} (zero : x.isZero = true) :
    x.toInt64? = some 0 := by
  obtain ⟨exponent, fraction⟩ := Bool.and_eq_true_iff.1 zero
  have exponent : x.exponentField = 0 := beq_iff_eq.1 exponent
  have fraction : x.fraction = 0 := beq_iff_eq.1 fraction
  have significand : x.significand = 0 := by rw [significand, if_pos exponent, fraction]
  have below : ¬ 0 ≤ x.exponent := by rw [Binary64.exponent, exponent]; decide
  have finite : x.isFinite = true := by rw [isFinite, exponent]; rfl
  have whole : x.toInt? = some 0 := by
    simp only [toInt?, if_neg below, significand, Nat.zero_mod, if_true, Nat.zero_div, finite]
    cases x.isNegative <;> rfl
  rw [toInt64?, whole]
  rfl

namespace Value.Alike

theorem refl : ∀ value : Value, Alike value value
  | .nil => .nil
  | .bool _ => .bool
  | .int _ => .int
  | .float _ => .float
  | .str _ => .str
  | .list items => .list (List.forall₂_same.2 fun item _ => refl item)
  | .tuple items => .tuple (List.forall₂_same.2 fun item _ => refl item)
  | .set items => .set (List.forall₂_same.2 fun item _ => refl item) (.refl _)
  | .map entries =>
    have parts := forall₂_pair_iff.1 (List.forall₂_same.2 fun entry mem =>
      have := sizeOf_pair_lt mem
      ⟨refl entry.1, refl entry.2⟩)
    .map parts.1 parts.2 (.refl _)
  | .object _ fields =>
    have parts := forall₂_pair_iff.1 (List.forall₂_same.2 fun field mem =>
      have := sizeOf_pair_lt mem
      ⟨rfl, refl field.2⟩)
    .object rfl parts.2

end Value.Alike

namespace Ty

variable {coercion : Coercion}

mutual

/-- A type accepts both of two values that are alike or neither. -/
theorem accepts_of_alike : ∀ (ty : Ty) {v w : Value}, v.Alike w →
    accepts coercion ty v = accepts coercion ty w
  | .any, _, _, _ => by rw [accepts, accepts]
  | .nil, _, _, alike | .bool, _, _, alike | .float, _, _, alike | .str, _, _, alike
  | .named _, _, _, alike => by cases alike <;> simp only [accepts]
  | .int, _, _, alike => by
    cases alike with
    | zero zero zero' =>
      -- The two zeros denote one integer.
      rw [accepts, accepts, Binary64.toInt64?_of_isZero zero, Binary64.toInt64?_of_isZero zero']
    | _ => simp only [accepts]
  | .list item, _, _, alike => by
    cases alike with
    | list like =>
      rw [accepts, accepts]
      exact all_eq_of_forall₂ (fun _ _ => accepts_of_alike item) like
    | _ => simp only [accepts]
  | .set item, _, _, alike => by
    cases alike with
    | set like perm =>
      rw [accepts, accepts, ← perm.all_eq]
      exact all_eq_of_forall₂ (fun _ _ => accepts_of_alike item) like
    | _ => simp only [accepts]
  | .tuple shape, _, _, alike => by
    cases alike with
    | tuple like => rw [accepts, accepts, acceptsShape_of_alike shape like]
    | _ => simp only [accepts]
  | .map key value, _, _, alike => by
    cases alike with
    | map keys values perm =>
      rw [accepts, accepts, ← perm.all_eq]
      refine all_eq_of_forall₂ (fun p q like => ?_) (forall₂_pair_iff.2 ⟨keys, values⟩)
      rw [accepts_of_alike key like.1, accepts_of_alike value like.2]
    | _ => simp only [accepts]
  | .union alternatives, _, _, alike => by
    rw [accepts, accepts, anyAccepts_of_alike alternatives alike]

theorem acceptsShape_of_alike : ∀ (types : List Ty) {vs ws : List Value},
    List.Forall₂ Value.Alike vs ws →
    acceptsShape coercion types vs = acceptsShape coercion types ws
  | [], _, _, like => by cases like <;> rfl
  | ty :: types, _, _, like => by
    cases like with
    | nil => rfl
    | cons here behind =>
      rw [acceptsShape, acceptsShape, accepts_of_alike ty here, acceptsShape_of_alike types behind]

theorem anyAccepts_of_alike : ∀ (types : List Ty) {v w : Value}, v.Alike w →
    anyAccepts coercion types v = anyAccepts coercion types w
  | [], _, _, _ => rfl
  | ty :: types, _, _, alike => by
    rw [anyAccepts, anyAccepts, accepts_of_alike ty alike, anyAccepts_of_alike types alike]

end

end Ty

/-! ## Calls -/

/-- Whether two calls are alike: alike values at the same positions and under the same names. -/
structure Arguments.Alike (c d : Arguments) : Prop where
  positional : List.Forall₂ Value.Alike c.positional d.positional
  named : List.Forall₂ (fun p q => p.1 = q.1 ∧ p.2.Alike q.2) c.named.entries d.named.entries

/-- Whether all numbers in the arguments are numbers. -/
structure Arguments.Numeric (arguments : Arguments) : Prop where
  positional : ∀ value ∈ arguments.positional, value.Numeric
  named : ∀ entry ∈ arguments.named.entries, entry.2.Numeric

/-- Whether two complaints are alike: of one kind and about the same parameters and names. The
    values that they complain about are alike. -/
inductive Mismatch.Alike : Mismatch → Mismatch → Prop
  | wrongType {param : String} {expected : Ty} {v w : Value} : v.Alike w →
      Alike (.wrongType param expected v) (.wrongType param expected w)
  | tooManyPositional {max given : Nat} :
      Alike (.tooManyPositional max given) (.tooManyPositional max given)
  | missing {param : String} : Alike (.missing param) (.missing param)
  | unexpectedName {name : String} : Alike (.unexpectedName name) (.unexpectedName name)
  | multipleValues {param : String} : Alike (.multipleValues param) (.multipleValues param)

theorem Mismatch.Alike.refl (mismatch : Mismatch) : Alike mismatch mismatch := by
  cases mismatch with
  | wrongType param expected value => exact .wrongType (.refl value)
  | tooManyPositional => exact .tooManyPositional
  | missing => exact .missing
  | unexpectedName => exact .unexpectedName
  | multipleValues => exact .multipleValues

namespace Binding

theorem handed_alike (params : List Param) {vs ws : List Value}
    (like : List.Forall₂ Value.Alike vs ws) (name : String) :
    Option.Rel Value.Alike (handed params vs name) (handed params ws name) := by
  induction params generalizing vs ws with
  | nil => exact .none
  | cons p params ih =>
    cases like with
    | nil => rw [handed_nil]; exact .none
    | cons here behind =>
      rw [handed_cons, handed_cons]
      split
      · exact .some here
      · exact ih behind

theorem typeMismatch?_alike (coercion : Coercion) (ty : Option Ty) {p q : String × Value}
    (like : p.1 = q.1 ∧ p.2.Alike q.2) :
    Option.Rel Mismatch.Alike (typeMismatch? coercion ty p) (typeMismatch? coercion ty q) := by
  obtain ⟨named, alike⟩ := like
  have refusing : Ty.refusing? coercion ty p.2 = Ty.refusing? coercion ty q.2 := by
    cases ty with
    | none => rfl
    | some ty =>
      simp only [Ty.refusing?, Option.filter_some, Ty.accepts_of_alike ty alike]
  rw [typeMismatch?, typeMismatch?, named, refusing]
  cases Ty.refusing? coercion ty q.2 with
  | none => exact .none
  | some ty => exact .some (.wrongType alike)

end Binding

theorem Entries.get?_alike {as bs : List (String × Value)}
    (like : List.Forall₂ (fun p q => p.1 = q.1 ∧ p.2.Alike q.2) as bs) (name : String) :
    Option.Rel Value.Alike (get? name as) (get? name bs) := by
  induction like with
  | nil => exact .none
  | cons here _ ih =>
    rw [get?, get?, here.1]
    split
    · exact .some here.2
    · exact ih

namespace Member

variable {m : Member} {c d : Arguments}

theorem byPosition?_alike (like : c.Alike d) (p : Param) :
    Option.Rel Value.Alike (m.byPosition? c p) (m.byPosition? d p) :=
  Binding.handed_alike _ like.positional p.name

theorem argument?_alike (like : c.Alike d) (p : Param) :
    Option.Rel Value.Alike (m.argument? c p) (m.argument? d p) := by
  refine rel_or (byPosition?_alike like p) ?_
  split
  · exact .none
  · exact Entries.get?_alike like.named p.name

theorem positionFault?_alike (like : c.Alike d) : m.positionFault? c = m.positionFault? d := by
  rw [positionFault?, positionFault?, like.positional.length_eq]

theorem nameFault?_alike (like : c.Alike d) (name : String) :
    m.nameFault? c name = m.nameFault? d name := by
  rw [nameFault?, nameFault?, Binding.nameFault?, Binding.nameFault?]
  cases Binding.named? m.params name with
  | none => rfl
  | some p => simp only [isSome_eq_of_rel (byPosition?_alike like p)]

theorem isMissing_alike (like : c.Alike d) (p : Param) : m.isMissing c p = m.isMissing d p := by
  have given := isSome_eq_of_rel (argument?_alike (m := m) like p)
  rw [isMissing, isMissing, ← Option.not_isSome, given, Option.not_isSome]

/-- What is held against the declared type of a parameter is alike. -/
theorem held_alike (like : c.Alike d) (p : Param) :
    List.Forall₂ (fun a b => a.1 = b.1 ∧ a.2.Alike b.2) (m.held c p) (m.held d p) := by
  have labelled : ∀ {vs ws : List Value}, List.Forall₂ Value.Alike vs ws →
      List.Forall₂ (fun a b => a.1 = b.1 ∧ a.2.Alike b.2) (vs.map (p.name, ·))
        (ws.map (p.name, ·)) := fun alike =>
    List.forall₂_map_left_iff.2 (List.forall₂_map_right_iff.2 (alike.imp fun _ _ h => ⟨rfl, h⟩))
  have default : Option.Rel Value.Alike p.default p.default := by
    cases p.default with
    | none => exact .none
    | some value => exact .some (.refl value)
  rw [held, held]
  cases p.kind with
  | positional | keyword =>
    simp only [Option.toList_map]
    exact labelled (forall₂_toList (rel_or (argument?_alike like p) default))
  | restPositional => exact labelled (List.forall₂_drop _ like.positional)
  | restKeyword => exact List.rel_filter (fun _ _ alike => by simp only [alike.1]) like.named

/-- The first thing wrong with one of two calls that are alike is the first thing wrong with the
    other. -/
theorem firstFault?_alike (like : c.Alike d) (coercion : Coercion) :
    Option.Rel Mismatch.Alike (m.firstFault? coercion c) (m.firstFault? coercion d) := by
  have refl : ∀ fault : Option Mismatch, Option.Rel Mismatch.Alike fault fault := fun fault => by
    cases fault with
    | none => exact .none
    | some fault => exact .some (.refl fault)
  have missing : m.isMissing c = m.isMissing d := funext (isMissing_alike like)
  rw [firstFault?, firstFault?, positionFault?_alike like, missing]
  refine rel_or (refl _) (rel_or ?_ (rel_or (refl _) ?_))
  · refine findSome?_rel (fun a b alike => ?_) like.named
    rw [nameFault?_alike like, alike.1]
    exact refl _
  · refine findSome?_rel (fun p q same => ?_) (List.forall₂_same.2 fun p _ => Eq.refl p)
    subst same
    exact findSome?_rel (fun _ _ => Binding.typeMismatch?_alike coercion p.ty) (held_alike like p)

end Member

/-! ## Rules -/

/-- Whether the rule is for all calls or for certain arguments, of which all numbers are numbers. -/
def Matcher.Plain : Matcher → Prop
  | .any => True
  | .exact arguments => arguments.Numeric
  | .satisfying _ => False

namespace Rules

/-- Which rule a call is drawn from: the first one that accepts it. -/
def drawnFrom? (rules : Rules) (arguments : Arguments) : Option Nat :=
  rules.findIdx? (·.matcher.accepts arguments)

/-- A call takes part in a draw only by telling which rule is drawn from. -/
theorem draw_eq (rules : Rules) (arguments : Arguments) :
    rules.draw arguments = (rules.drawnFrom? arguments).bind fun index => rules[index]?.map
      fun rule => (rule.outcomes.next,
        rules.set index { rule with outcomes := rule.outcomes.advance }) := by
  induction rules with
  | nil => rfl
  | cons rule rules ih =>
    rw [draw, ih, drawnFrom?, drawnFrom?, List.findIdx?_cons]
    split
    · rfl
    · cases rules.findIdx? (·.matcher.accepts arguments) with
      | none => rfl
      | some index =>
        simp only [Option.bind_some, Option.map_some, List.getElem?_cons_succ, Option.map_map]
        rfl

end Rules

namespace Arguments

variable {c d : Arguments}

/-- Equality of calls is an equivalence among calls whose numbers are numbers. -/
theorem equivalentOn_numeric : EquivalentOn Numeric same := by
  have parts := Value.equivalentOn_numeric.inOrder.pair
    (EquivalentOn.beq.pair Value.equivalentOn_numeric).inOrder
  have numeric : ∀ {c : Arguments}, c.Numeric → (∀ value ∈ c.positional, value.Numeric) ∧
      ∀ entry ∈ c.named.entries, True ∧ entry.2.Numeric :=
    fun hc => ⟨hc.positional, fun entry mem => ⟨trivial, hc.named entry mem⟩⟩
  constructor
  case refl => exact fun {c} hc => parts.refl (a := (c.positional, c.named.entries)) (numeric hc)
  case symm =>
    exact fun {c d} hc hd => parts.symm (a := (c.positional, c.named.entries))
      (b := (d.positional, d.named.entries)) (numeric hc) (numeric hd)
  case trans =>
    exact fun {c d e} hc hd he => parts.trans (a := (c.positional, c.named.entries))
      (b := (d.positional, d.named.entries)) (c := (e.positional, e.named.entries))
      (numeric hc) (numeric hd) (numeric he)

/-- Among such calls those are equal that are alike. -/
theorem decidesOn_numeric : DecidesOn Numeric same Alike := by
  intro c d hc hd
  have entries := (DecidesOn.beq.pair Value.decidesOn_numeric).inOrder
    (fun entry mem => ⟨trivial, hc.named entry mem⟩)
    (fun entry mem => ⟨trivial, hd.named entry mem⟩)
  rw [same, Bool.and_eq_true, entries,
    Value.decidesOn_numeric.inOrder hc.positional hd.positional]
  exact ⟨fun ⟨positional, named⟩ => ⟨positional, named⟩, fun like => ⟨like.positional, like.named⟩⟩

/-- A rule that is for all calls or for certain arguments accepts both of two equal calls or
    neither. -/
theorem accepts_of_same {matcher : Matcher} (plain : matcher.Plain) (hc : c.Numeric)
    (hd : d.Numeric) (equal : c.same d = true) : matcher.accepts c = matcher.accepts d := by
  cases matcher with
  | any => rfl
  | exact rehearsed => exact equivalentOn_numeric.congr_right hc hd plain equal
  | satisfying => exact plain.elim

theorem drawnFrom?_of_same {rules : Rules} (plain : ∀ rule ∈ rules, rule.matcher.Plain)
    (hc : c.Numeric) (hd : d.Numeric) (equal : c.same d = true) :
    rules.drawnFrom? c = rules.drawnFrom? d := by
  induction rules with
  | nil => rfl
  | cons rule rules ih =>
    obtain ⟨here, behind⟩ := List.forall_mem_cons.1 plain
    have behind := ih behind
    rw [Rules.drawnFrom?, Rules.drawnFrom?] at behind ⊢
    rw [List.findIdx?_cons, List.findIdx?_cons, behind, accepts_of_same here hc hd equal]

/-- Equal values and calls are treated alike as long as their numbers are numbers. Every type
    accepts both values or neither. Every declared member finds nothing wrong with both calls, or
    first the same with both; and rules that are for all calls or for certain arguments draw from
    the same rule for both, with the same outcome and the same rules left. -/
theorem equal_treated_alike :
    (∀ v w : Value, v.Numeric → w.Numeric → v.same w = true →
      ∀ (coercion : Coercion) (ty : Ty), ty.accepts coercion v = ty.accepts coercion w) ∧
    ∀ c d : Arguments, c.Numeric → d.Numeric → c.same d = true →
      (∀ surface : Surface, ∀ m ∈ surface.members, ∀ coercion : Coercion,
        Option.Rel Mismatch.Alike (m.mismatch? coercion c) (m.mismatch? coercion d)) ∧
      ∀ rules : Rules, (∀ rule ∈ rules, rule.matcher.Plain) →
        rules.drawnFrom? c = rules.drawnFrom? d ∧ rules.draw c = rules.draw d := by
  refine ⟨fun v w hv hw equal coercion ty => ?_, fun c d hc hd equal => ⟨?_, ?_⟩⟩
  · exact Ty.accepts_of_alike ty ((Value.decidesOn_numeric hv hw).1 equal)
  · intro surface m mem coercion
    have distinct := (surface.sound.valid m mem).params.distinct
    rw [m.mismatch?_eq distinct, m.mismatch?_eq distinct]
    exact m.firstFault?_alike ((decidesOn_numeric hc hd).1 equal) coercion
  · intro rules plain
    have index := drawnFrom?_of_same plain hc hd equal
    exact ⟨index, by rw [Rules.draw_eq, Rules.draw_eq, index]⟩

end Arguments

/-- A call with a set whose elements are given in some order. -/
def Sample.packing (elements : List Value) : Arguments := .ofList [.list [], .set elements]

/-- Rules for one such call and for all other calls. -/
def Sample.packingRules : Rules :=
  [⟨.exact (Sample.packing [.int 2, .int 1]), .value .nil, []⟩, ⟨.any, .value (.bool true), []⟩]

namespace Arguments

/-- The order of the elements does not matter to the check, which complains about the sets of both
    calls, nor to the rules. -/
theorem equal_treated_alike_packing :
    ((Sample.packing [.int 1, .int 2]).Numeric ∧ (Sample.packing [.int 2, .int 1]).Numeric ∧
      (Sample.packing [.int 1, .int 2]).same (Sample.packing [.int 2, .int 1]) = true) ∧
    (Sample.drawSample ∈ Sample.randomSurface.members ∧
      Option.Rel Mismatch.Alike
        (Sample.drawSample.mismatch? .strict (Sample.packing [.int 1, .int 2]))
        (Sample.drawSample.mismatch? .strict (Sample.packing [.int 2, .int 1]))) ∧
    (∀ rule ∈ Sample.packingRules, rule.matcher.Plain) ∧
      Sample.packingRules.draw (Sample.packing [.int 1, .int 2]) =
        Sample.packingRules.draw (Sample.packing [.int 2, .int 1]) := by
  have numeric : ∀ first second, (Sample.packing [.int first, .int second]).Numeric := by
    intro first second
    have elements : (Value.set [.int first, .int second]).Numeric := ⟨trivial, trivial, trivial⟩
    exact ⟨Value.floatsOfItems_iff.1 ⟨trivial, elements, trivial⟩, List.forall_mem_nil _⟩
  have like : (Value.set [.int 1, .int 2]).Alike (.set [.int 2, .int 1]) :=
    .set (.cons .int (.cons .int .nil)) (.swap _ _ _)
  have equal : (Sample.packing [.int 1, .int 2]).same (Sample.packing [.int 2, .int 1]) = true :=
    (decidesOn_numeric (numeric 1 2) (numeric 2 1)).2
      ⟨.cons (.list .nil) (.cons like .nil), .nil⟩
  have declared : Sample.randomSurface.members[4]? = some Sample.drawSample := rfl
  have mem := List.mem_of_getElem? declared
  have plain : ∀ rule ∈ Sample.packingRules, rule.matcher.Plain :=
    List.forall_mem_cons.2 ⟨numeric 2 1, List.forall_mem_singleton.2 trivial⟩
  have treated := equal_treated_alike.2 _ _ (numeric 1 2) (numeric 2 1) equal
  exact ⟨⟨numeric 1 2, numeric 2 1, equal⟩, ⟨mem, treated.1 _ _ mem _⟩, plain,
    (treated.2 _ plain).2⟩

end Arguments

end Understudy
