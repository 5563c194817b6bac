import Mathlib.Logic.ExistsUnique
import Understudy.Proofs.Call.FirstFault
import Understudy.Sample.Surfaces

/-!
# Delivery of arguments

Where the arguments of a call go is a matter of the signature and of how many are given by
position. The first ones by position go to the positional parameters, the others to the parameter
that takes what is left over; an argument by name goes to the parameter of the name, unless that
has its argument by position, and one whose name no parameter has goes to the parameter that takes
such arguments.

* `Member.Binds`: every argument is delivered to one place, every parameter gets something, and
  everything is of its declared type.
* `Surface.binding_exact`: the check of a call lets through exactly the calls that bind.
-/

namespace Understudy

/-- An argument of a call. -/
inductive Argument where
  | position (index : Nat)
  | name (name : String)

/-- The value of an argument, if the call has it. -/
def Arguments.value? (arguments : Arguments) : Argument → Option Value
  | .position index => arguments.at? index
  | .name name => arguments.get? name

namespace Member

variable {m : Member} {arguments : Arguments} {coercion : Coercion} {p q : Param}

/-- Which parameter an argument is delivered to. -/
inductive Delivers (m : Member) (arguments : Arguments) : Argument → Param → Prop
  /-- The first arguments by position go to the positional parameters in order. -/
  | byPosition {index : Nat} {p : Param} : (Binding.positionals m.params)[index]? = some p →
      Delivers m arguments (.position index) p
  /-- Those behind them are left over. -/
  | surplus {index : Nat} {p : Param} : (Binding.positionals m.params).length ≤ index →
      p ∈ m.params → p.kind = .restPositional → Delivers m arguments (.position index) p
  /-- An argument by name goes to the parameter of the name, if no argument by position does. -/
  | byName {p : Param} : p ∈ m.params → p.isRest = false →
      (∀ index, (Binding.positionals m.params)[index]? = some p →
        arguments.positional.length ≤ index) →
      Delivers m arguments (.name p.name) p
  /-- It is left over if no parameter has the name, save those that take what is left over. -/
  | extra {name : String} {p : Param} : (∀ q ∈ m.params, q.name = name → q.isRest = true) →
      p ∈ m.params → p.kind = .restKeyword → Delivers m arguments (.name name) p

/-- Whether a parameter gets the value by an argument. -/
def Gets (m : Member) (arguments : Arguments) (p : Param) (value : Value) : Prop :=
  ∃ argument, arguments.value? argument = some value ∧ m.Delivers arguments argument p

/-- Whether a call fits the signature of a member. -/
structure Binds (m : Member) (coercion : Coercion) (arguments : Arguments) : Prop where
  /-- Every argument is delivered to one place. -/
  placed : ∀ argument value, arguments.value? argument = some value →
    ∃! p, m.Delivers arguments argument p
  /-- Every parameter gets something or has a default, save those that take what is left over. -/
  complete : ∀ p ∈ m.params, p.isRest = false →
    (∃ value, m.Gets arguments p value) ∨ p.hasDefault = true
  /-- Every value is of the declared type of the parameter that gets it. -/
  typed : ∀ p value, m.Gets arguments p value → Ty.acceptsDeclared coercion p.ty value = true
  /-- So is every default that is used. -/
  defaults : ∀ p ∈ m.params, p.isRest = false → (∀ value, ¬ m.Gets arguments p value) →
    ∀ value, p.default = some value → Ty.acceptsDeclared coercion p.ty value = true

theorem positionals_mem {index : Nat} (h : (Binding.positionals m.params)[index]? = some p) :
    p ∈ m.params ∧ p.kind = .positional := by
  have := List.mem_filter.1 (List.mem_of_getElem? h)
  exact ⟨this.1, beq_iff_eq.1 this.2⟩

/-- What a parameter gets by position. -/
theorem byPosition?_eq_some_iff (valid : ValidParams m.params) (mem : p ∈ m.params)
    {value : Value} : m.byPosition? arguments p = some value ↔
      ∃ index, (Binding.positionals m.params)[index]? = some p ∧
        arguments.at? index = some value := by
  have distinct : (Binding.positionals m.params).Pairwise fun p q => p.name ≠ q.name :=
    valid.distinct.filter _
  rw [byPosition?, Binding.handed_eq_some_iff distinct]
  constructor
  · rintro ⟨index, q, place, named, there⟩
    obtain rfl := Binding.eq_of_name valid.distinct (positionals_mem place).1 mem named
    exact ⟨index, place, there⟩
  · rintro ⟨index, place, there⟩
    exact ⟨index, p, place, rfl, there⟩

theorem byPosition?_eq_none_iff (valid : ValidParams m.params) (mem : p ∈ m.params) :
    m.byPosition? arguments p = none ↔ ∀ index, (Binding.positionals m.params)[index]? = some p →
      arguments.positional.length ≤ index := by
  rw [Option.eq_none_iff_forall_ne_some]
  constructor
  · intro none index place
    by_contra inside
    have there := List.getElem?_eq_getElem (Nat.lt_of_not_le inside)
    exact none _ ((byPosition?_eq_some_iff valid mem).2 ⟨index, place, there⟩)
  · intro free value given
    obtain ⟨index, place, there⟩ := (byPosition?_eq_some_iff valid mem).1 given
    exact absurd (free index place) (Nat.not_le_of_lt (List.getElem?_eq_some_iff.1 there).1)

/-- A parameter that takes no left-over arguments gets at most one value, and this is it. -/
theorem argument?_eq_some_iff (valid : ValidParams m.params) (mem : p ∈ m.params)
    (single : p.isRest = false) {value : Value} :
    m.argument? arguments p = some value ↔ m.Gets arguments p value := by
  have byName : (if p.isRest then none else arguments.get? p.name) = arguments.get? p.name := by
    rw [single]
    rfl
  rw [argument?, byName]
  constructor
  · intro got
    rcases given : m.byPosition? arguments p with _ | first
    · rw [given, Option.none_or] at got
      have free := (byPosition?_eq_none_iff valid mem).1 given
      exact ⟨.name p.name, got, .byName mem single free⟩
    · obtain ⟨index, place, there⟩ := (byPosition?_eq_some_iff valid mem).1 given
      rw [given, Option.some_or] at got
      exact ⟨.position index, there.trans got, .byPosition place⟩
  · rintro ⟨argument, there, delivered⟩
    cases delivered with
    | byPosition place =>
      rw [(byPosition?_eq_some_iff valid mem).2 ⟨_, place, there⟩, Option.some_or]
    | surplus _ _ kind =>
      rw [Param.isRest, kind] at single
      cases single
    | byName _ _ free =>
      rw [(byPosition?_eq_none_iff valid mem).2 free, Option.none_or]
      exact there
    | extra _ _ kind =>
      rw [Param.isRest, kind] at single
      cases single

theorem gets_restPositional_iff (mem : p ∈ m.params) (kind : p.kind = .restPositional)
    {value : Value} : m.Gets arguments p value ↔
      value ∈ arguments.positional.drop (Binding.positionals m.params).length := by
  rw [List.mem_iff_getElem?]
  constructor
  · rintro ⟨argument, there, delivered⟩
    cases delivered with
    | byPosition place => cases kind.symm.trans (positionals_mem place).2
    | @surplus index _ behind =>
      refine ⟨index - (Binding.positionals m.params).length, ?_⟩
      rw [List.getElem?_drop, Nat.add_sub_cancel' behind]
      exact there
    | byName _ single =>
      rw [Param.isRest, kind] at single
      cases single
    | extra _ _ kind' => cases kind.symm.trans kind'
  · rintro ⟨index, there⟩
    rw [List.getElem?_drop] at there
    exact ⟨.position _, there, .surplus (Nat.le_add_right _ _) mem kind⟩

theorem gets_restKeyword_iff (mem : p ∈ m.params) (kind : p.kind = .restKeyword)
    {value : Value} : m.Gets arguments p value ↔ ∃ name,
      (name, value) ∈ arguments.named.entries ∧ Binding.named? m.params name = none := by
  constructor
  · rintro ⟨argument, there, delivered⟩
    cases delivered with
    | byPosition place => cases kind.symm.trans (positionals_mem place).2
    | surplus _ _ kind' => cases kind.symm.trans kind'
    | byName _ single =>
      rw [Param.isRest, kind] at single
      cases single
    | @extra name _ free =>
      refine ⟨name, (Entries.get?_eq_some_iff arguments.named.ordered).1 there, ?_⟩
      rw [Option.eq_none_iff_forall_ne_some]
      intro q found
      obtain ⟨mem, named, single⟩ := Binding.named?_eq_some found
      rw [free q mem named] at single
      cases single
  · rintro ⟨name, there, free⟩
    exact ⟨.name name, (Entries.get?_eq_some_iff arguments.named.ordered).2 there,
      .extra (fun q mem named => Binding.named?_eq_none free mem named) mem kind⟩

theorem held_of_single (single : p.isRest = false) : m.held arguments p =
    (((m.argument? arguments p).or p.default).map (p.name, ·)).toList := by
  rw [Param.isRest] at single
  rw [held]
  cases kind : p.kind <;> rw [kind] at single <;> first | rfl | cases single

theorem mem_held_of_single (valid : ValidParams m.params) (mem : p ∈ m.params)
    (single : p.isRest = false) {value : Value} :
    (∃ label, (label, value) ∈ m.held arguments p) ↔ m.Gets arguments p value ∨
      (∀ other, ¬ m.Gets arguments p other) ∧ p.default = some value := by
  simp only [← argument?_eq_some_iff valid mem single, held_of_single single, Option.mem_toList]
  rcases m.argument? arguments p with _ | first
  · simp [Option.map_eq_some_iff]
  · simp

theorem mem_held_of_rest (mem : p ∈ m.params) (rest : p.isRest = true) {value : Value} :
    (∃ label, (label, value) ∈ m.held arguments p) ↔ m.Gets arguments p value := by
  rw [held]
  cases kind : p.kind with
  | positional | keyword =>
    rw [Param.isRest, kind] at rest
    cases rest
  | restPositional =>
    rw [gets_restPositional_iff mem kind, m.length_positionals]
    constructor
    · rintro ⟨_, there⟩
      obtain ⟨_, there, same⟩ := List.mem_map.1 there
      exact (Prod.mk.inj same).2 ▸ there
    · exact fun there => ⟨p.name, List.mem_map_of_mem there⟩
  | restKeyword =>
    rw [gets_restKeyword_iff mem kind]
    simp [List.mem_filter]

/-- The values held against the type of a parameter are those that it gets, or its default. -/
theorem mem_held_iff (valid : ValidParams m.params) (mem : p ∈ m.params) {value : Value} :
    (∃ label, (label, value) ∈ m.held arguments p) ↔ m.Gets arguments p value ∨
      p.isRest = false ∧ (∀ other, ¬ m.Gets arguments p other) ∧ p.default = some value := by
  cases rest : p.isRest with
  | false =>
    rw [mem_held_of_single valid mem rest]
    simp
  | true =>
    rw [mem_held_of_rest mem rest]
    simp

/-! ## The complaints -/

theorem hasParam_iff {kind : ParamKind} :
    m.hasParam kind = true ↔ ∃ p ∈ m.params, p.kind = kind := by
  simp [hasParam]

/-- The number of arguments by position is complained about if one of them is delivered nowhere. -/
theorem positionFault?_eq_none_iff (valid : ValidParams m.params) :
    m.positionFault? arguments = none ↔
      ∀ index < arguments.positional.length, ∃! p, m.Delivers arguments (.position index) p := by
  have fault : m.positionFault? arguments = none ↔
      (m.positionalCount < arguments.positional.length →
        m.hasParam .restPositional = true) := by
    rw [positionFault?]
    cases m.hasParam .restPositional <;> simp
  rw [fault, hasParam_iff, ← m.length_positionals]
  constructor
  · intro takes index inside
    -- The place of the argument decides: in front it goes to the parameter at the place, and
    -- behind to the one that takes the rest, of which there are no two.
    by_cases first : index < (Binding.positionals m.params).length
    · have place := List.getElem?_eq_getElem first
      refine ⟨_, .byPosition place, fun q delivered => ?_⟩
      cases delivered with
      | byPosition place' => exact Option.some.inj (place'.symm.trans place)
      | surplus behind => exact absurd first (Nat.not_lt_of_le behind)
    · have behind := Nat.le_of_not_lt first
      obtain ⟨p, mem, kind⟩ := takes (Nat.lt_of_le_of_lt behind inside)
      refine ⟨p, .surplus behind mem kind, fun q delivered => ?_⟩
      cases delivered with
      | byPosition place => exact absurd (List.getElem?_eq_some_iff.1 place).1 first
      | surplus _ mem' kind' =>
        exact valid.eq_of_rest mem' mem (kind'.trans kind.symm) (by rw [Param.isRest, kind]; rfl)
  · intro placed many
    obtain ⟨p, delivered, _⟩ := placed _ many
    cases delivered with
    | byPosition place => exact absurd (List.getElem?_eq_some_iff.1 place).1 (Nat.lt_irrefl _)
    | surplus _ mem kind => exact ⟨p, mem, kind⟩

/-- Arguments are delivered to parameters of the member. -/
theorem Gets.mem {value : Value} (h : m.Gets arguments p value) : p ∈ m.params := by
  obtain ⟨argument, _, delivered⟩ := h
  cases delivered with
  | byPosition place => exact (positionals_mem place).1
  | surplus _ mem => exact mem
  | byName mem => exact mem
  | extra _ mem => exact mem

theorem delivers_name_iff {name : String} : m.Delivers arguments (.name name) p ↔
    p ∈ m.params ∧ (p.name = name ∧ p.isRest = false ∧
        (∀ index, (Binding.positionals m.params)[index]? = some p →
          arguments.positional.length ≤ index) ∨
      (∀ q ∈ m.params, q.name = name → q.isRest = true) ∧ p.kind = .restKeyword) := by
  constructor
  · intro delivered
    cases delivered with
    | byName mem single free => exact ⟨mem, .inl ⟨rfl, single, free⟩⟩
    | extra free mem kind => exact ⟨mem, .inr ⟨free, kind⟩⟩
  · rintro ⟨mem, ⟨rfl, single, free⟩ | ⟨free, kind⟩⟩
    · exact .byName mem single free
    · exact .extra free mem kind

/-- An argument of the name of a parameter is delivered if that got nothing by position. -/
theorem delivers_of_named (valid : ValidParams m.params) {name : String}
    (found : Binding.named? m.params name = some p) :
    (∃! q, m.Delivers arguments (.name name) q) ↔ m.byPosition? arguments p = none := by
  obtain ⟨mem, named, single⟩ := Binding.named?_eq_some found
  rw [byPosition?_eq_none_iff valid mem]
  constructor
  · rintro ⟨q, delivered, _⟩
    rcases delivers_name_iff.1 delivered with ⟨mem', ⟨named', _, free⟩ | ⟨none, _⟩⟩
    · exact Binding.eq_of_name valid.distinct mem' mem (named'.trans named.symm) ▸ free
    · rw [none p mem named] at single
      cases single
  · intro free
    refine ⟨p, delivers_name_iff.2 ⟨mem, .inl ⟨named, single, free⟩⟩, fun q delivered => ?_⟩
    rcases delivers_name_iff.1 delivered with ⟨mem', ⟨named', _⟩ | ⟨none, _⟩⟩
    · exact Binding.eq_of_name valid.distinct mem' mem (named'.trans named.symm)
    · rw [none p mem named] at single
      cases single

/-- An argument of another name is delivered if there is a parameter for what is left over. -/
theorem delivers_of_unnamed (valid : ValidParams m.params) {name : String}
    (found : Binding.named? m.params name = none) :
    (∃! q, m.Delivers arguments (.name name) q) ↔ m.hasParam .restKeyword = true := by
  have none : ∀ q ∈ m.params, q.name = name → q.isRest = true :=
    fun q mem named => Binding.named?_eq_none found mem named
  rw [hasParam_iff]
  constructor
  · rintro ⟨q, delivered, _⟩
    rcases delivers_name_iff.1 delivered with ⟨mem, ⟨named, single, _⟩ | ⟨_, kind⟩⟩
    · rw [none q mem named] at single
      cases single
    · exact ⟨q, mem, kind⟩
  · rintro ⟨p, mem, kind⟩
    refine ⟨p, .extra none mem kind, fun q delivered => ?_⟩
    rcases delivers_name_iff.1 delivered with ⟨mem', ⟨named, single, _⟩ | ⟨_, kind'⟩⟩
    · rw [none q mem' named] at single
      cases single
    · exact valid.eq_of_rest mem' mem (kind'.trans kind.symm) (by rw [Param.isRest, kind]; rfl)

/-- A name is complained about if the argument of the name is not delivered to one place. -/
theorem nameFault?_eq_none_iff (valid : ValidParams m.params) (name : String) :
    m.nameFault? arguments name = none ↔ ∃! p, m.Delivers arguments (.name name) p := by
  rw [nameFault?, Binding.nameFault?]
  rcases found : Binding.named? m.params name with _ | p
  · rw [delivers_of_unnamed valid found]
    cases m.hasParam .restKeyword <;> simp
  · rw [delivers_of_named valid found]
    rcases given : m.byPosition? arguments p with _ | value <;> simp [given]

theorem isMissing_iff (valid : ValidParams m.params) (mem : p ∈ m.params) :
    m.isMissing arguments p = true ↔ p.isRest = false ∧ (∀ value, ¬ m.Gets arguments p value) ∧
      p.hasDefault = false := by
  rw [isMissing]
  simp only [Bool.and_eq_true, Bool.not_eq_true', Option.isNone_iff_eq_none, and_assoc]
  refine and_congr_right fun single => and_congr_left' ?_
  rw [Option.eq_none_iff_forall_ne_some]
  exact forall_congr' fun value => not_congr (argument?_eq_some_iff valid mem single)

/-- No complaint is made exactly about the calls that fit. -/
theorem firstFault?_eq_none_iff (valid : ValidParams m.params) (coercion : Coercion)
    (arguments : Arguments) :
    m.firstFault? coercion arguments = none ↔ m.Binds coercion arguments := by
  have typed : (m.params.findSome? fun p =>
      (m.held arguments p).findSome? (Binding.typeMismatch? coercion p.ty)) = none ↔
      ∀ p ∈ m.params, ∀ value, (∃ label, (label, value) ∈ m.held arguments p) →
        Ty.acceptsDeclared coercion p.ty value = true := by
    simp only [List.findSome?_eq_none_iff, Binding.typeMismatch?, Option.map_eq_none_iff,
      Ty.refusing?_eq_none_iff, Prod.forall]
    exact ⟨fun h p mem value ⟨label, there⟩ => h p mem label value there,
      fun h p mem label value there => h p mem value ⟨label, there⟩⟩
  -- None of the four kinds of complaints is made, in the order of the four parts of what binds.
  rw [firstFault?]
  simp only [Option.or_eq_none_iff, typed, Option.map_eq_none_iff, List.find?_eq_none,
    List.findSome?_eq_none_iff, positionFault?_eq_none_iff valid, nameFault?_eq_none_iff valid]
  constructor
  · rintro ⟨positions, names, missing, types⟩
    constructor
    case placed =>
      intro argument value there
      cases argument with
      | position index => exact positions index (List.getElem?_eq_some_iff.1 there).1
      | name name =>
        exact names (name, value) ((Entries.get?_eq_some_iff arguments.named.ordered).1 there)
    case complete =>
      intro p mem single
      by_cases gets : ∃ value, m.Gets arguments p value
      · exact .inl gets
      · refine .inr (Bool.of_not_eq_false fun default => missing p mem ?_)
        exact (isMissing_iff valid mem).2 ⟨single, not_exists.1 gets, default⟩
    case typed =>
      intro p value gets
      exact types p gets.mem value ((mem_held_iff valid gets.mem).2 (.inl gets))
    case defaults =>
      intro p mem single none value default
      exact types p mem value ((mem_held_iff valid mem).2 (.inr ⟨single, none, default⟩))
  · intro binds
    refine ⟨fun index inside => ?_, fun entry mem => ?_, fun p mem missing => ?_,
      fun p mem value held => ?_⟩
    · exact binds.placed (.position index) _ (List.getElem?_eq_getElem inside)
    · exact binds.placed (.name entry.1) entry.2
        ((Entries.get?_eq_some_iff arguments.named.ordered).2 mem)
    · obtain ⟨single, none, default⟩ := (isMissing_iff valid mem).1 missing
      rcases binds.complete p mem single with ⟨value, gets⟩ | default'
      · exact none value gets
      · rw [default] at default'
        cases default'
    · rcases (mem_held_iff valid mem).1 held with gets | ⟨single, none, default⟩
      · exact binds.typed p value gets
      · exact binds.defaults p mem single none value default

end Member

/-- The check of a call of a declared member is exact: it lets through the calls whose arguments
    are delivered to one place each and fit there, and of others it tells the first thing that is
    wrong. -/
theorem Surface.binding_exact (surface : Surface) {m : Member} (mem : m ∈ surface.members)
    (coercion : Coercion) (arguments : Arguments) :
    (m.mismatch? coercion arguments = none ↔ m.Binds coercion arguments) ∧
      m.mismatch? coercion arguments = m.firstFault? coercion arguments := by
  have valid := (surface.sound.valid m mem).params
  have same := m.mismatch?_eq valid.distinct coercion arguments
  exact ⟨same ▸ m.firstFault?_eq_none_iff valid coercion arguments, same⟩

theorem Surface.binding_exact_drawing : Sample.drawSample.Binds .strict Sample.drawing :=
  have declared : Sample.randomSurface.members[4]? = some Sample.drawSample := rfl
  (Sample.randomSurface.binding_exact (List.mem_of_getElem? declared) _ _).1.1 rfl

end Understudy
