import Mathlib.Data.List.Find
import Understudy.Proofs.Call.FirstFault
import Understudy.Sample.Surfaces

/-!
# Arguments given by name instead of by position

A positional parameter takes its argument by position or by name. If the last argument by position
is given under the name of its parameter instead, the check of the call finds the same: the same
parameters get the same values, no other name is complained about, and nothing more is left over.
If something is wrong with the call, the complaint is the same one.

* `Member.argument?_put`: what every parameter gets.
* `Member.firstFault?_put`: all complaints together.
* `Surface.mismatch?_nameLast`: the check of a declared member.
-/

namespace Understudy

/-- The call with its last argument by position given under the name instead. -/
def Arguments.nameLast (arguments : Arguments) (name : String) : Arguments :=
  match arguments.positional.getLast? with
  | none => arguments
  | some value => Arguments.put ⟨arguments.positional.dropLast, arguments.named⟩ name value

theorem Arguments.nameLast_push (arguments : Arguments) (value : Value) (name : String) :
    (arguments.push value).nameLast name = arguments.put name value := by
  simp [nameLast, push]

/-- A call with arguments by position is another one with one more of them. -/
theorem Arguments.exists_eq_push {arguments : Arguments} {count : Nat}
    (length : arguments.positional.length = count + 1) :
    ∃ (others : Arguments) (value : Value), arguments = others.push value ∧
      others.positional.length = count ∧ others.named = arguments.named := by
  obtain ⟨positional, named⟩ := arguments
  rcases List.eq_nil_or_concat positional with rfl | ⟨front, value, rfl⟩
  · cases length
  · refine ⟨⟨front, named⟩, value, by simp [push], ?_, rfl⟩
    simpa using length

/-! ## One more name among others -/

namespace Entries

variable {α β : Type} {name : String} {entries : List (String × α)}

/-- An entry under a new name is put between the others. -/
theorem exists_insert_eq (free : get? name entries = none) (entry : α) :
    ∃ before behind, entries = before ++ behind ∧
      insert name entry entries = before ++ (name, entry) :: behind := by
  induction entries with
  | nil => exact ⟨[], [], rfl, rfl⟩
  | cons head entries ih =>
    rw [get?] at free
    split at free
    · cases free
    · next differ =>
      rw [insert, if_neg differ]
      split
      · exact ⟨[], head :: entries, rfl, rfl⟩
      · obtain ⟨before, behind, whole, inserted⟩ := ih free
        exact ⟨head :: before, behind, by rw [whole]; rfl, by rw [inserted]; rfl⟩

theorem findSome?_insert (free : get? name entries = none) {entry : α}
    {f : String × α → Option β} (nothing : f (name, entry) = none) :
    (insert name entry entries).findSome? f = entries.findSome? f := by
  obtain ⟨before, behind, whole, inserted⟩ := exists_insert_eq free entry
  rw [inserted, whole, List.findSome?_append, List.findSome?_append, List.findSome?_cons, nothing]

theorem filter_insert (free : get? name entries = none) {entry : α} {p : String × α → Bool}
    (dropped : p (name, entry) = false) :
    (insert name entry entries).filter p = entries.filter p := by
  obtain ⟨before, behind, whole, inserted⟩ := exists_insert_eq free entry
  rw [inserted, whole, List.filter_append, List.filter_append,
    List.filter_cons_of_neg (by rw [dropped]; exact Bool.false_ne_true)]

/-- Nothing is kept under the name of an entry other than the one that is looked up. -/
theorem ne_of_free {entry : String × α} (free : get? name entries = none)
    (mem : entry ∈ entries) : entry.1 ≠ name := by
  induction entries with
  | nil => cases mem
  | cons head entries ih =>
    rw [get?] at free
    split at free
    · cases free
    · next differ =>
      rcases List.mem_cons.1 mem with rfl | mem
      · exact Ne.symm differ
      · exact ih free mem

end Entries

/-! ## One more argument by position -/

namespace Binding

variable {params : List Param} {values : List Value} {p : Param}

/-- The parameter behind those that get a value gets none. -/
theorem handed_eq_none_of_place (distinct : params.Pairwise fun p q => p.name ≠ q.name)
    (place : params[values.length]? = some p) : handed params values p.name = none := by
  rw [Option.eq_none_iff_forall_ne_some]
  intro value handed
  obtain ⟨index, q, place', named, there⟩ := (handed_eq_some_iff distinct).1 handed
  have before := (List.getElem?_eq_some_iff.1 there).1
  obtain ⟨inside, rfl⟩ := List.getElem?_eq_some_iff.1 place
  obtain ⟨inside', rfl⟩ := List.getElem?_eq_some_iff.1 place'
  exact List.pairwise_iff_getElem.1 distinct _ _ inside' inside before named

/-- One more value goes to the parameter behind those that got one, and changes nothing else. -/
theorem handed_concat (distinct : params.Pairwise fun p q => p.name ≠ q.name)
    (place : params[values.length]? = some p) (value : Value) (name : String) :
    handed params (values ++ [value]) name =
      if name = p.name then some value else handed params values name := by
  induction params generalizing values with
  | nil => cases place
  | cons q params ih =>
    obtain ⟨other, distinct⟩ := List.pairwise_cons.1 distinct
    cases values with
    | nil =>
      obtain rfl := Option.some.inj place
      rw [List.nil_append, handed_cons, handed_nil, handed_nil]
      simp only [eq_comm]
    | cons first values =>
      rw [List.cons_append, handed_cons, handed_cons, ih distinct place]
      by_cases here : q.name = name
      · -- The parameter at the place stands behind this one, so it has another name.
        have apart : name ≠ p.name := here ▸ other p (List.mem_of_getElem? place)
        rw [if_pos here, if_neg apart, if_pos here]
      · rw [if_neg here, if_neg here]

/-- A name is that of its parameter, unless this takes what is left over. -/
theorem named?_of_mem (distinct : params.Pairwise fun p q => p.name ≠ q.name) (mem : p ∈ params)
    (single : p.isRest = false) : named? params p.name = some p := by
  rcases found : named? params p.name with _ | q
  · rw [named?_eq_none found mem rfl] at single
    cases single
  · obtain ⟨there, named, _⟩ := named?_eq_some found
    rw [eq_of_name distinct there mem named]

end Binding

/-! ## The complaints -/

namespace Member

variable {m : Member} {arguments : Arguments} {p q : Param}

/-- Whether the parameter is the one that gets the next argument by position. -/
structure Next (m : Member) (arguments : Arguments) (p : Param) : Prop where
  distinct : m.params.Pairwise fun p q => p.name ≠ q.name
  place : (Binding.positionals m.params)[arguments.positional.length]? = some p
  /-- It is not given by name. -/
  free : arguments.get? p.name = none

namespace Next

variable (next : m.Next arguments p)

include next

theorem mem : p ∈ m.params ∧ p.isRest = false := by
  obtain ⟨mem, kind⟩ := List.mem_filter.1 (List.mem_of_getElem? next.place)
  refine ⟨mem, ?_⟩
  rw [Param.isRest, beq_iff_eq.1 kind]
  rfl

theorem named? : Binding.named? m.params p.name = some p :=
  Binding.named?_of_mem next.distinct next.mem.1 next.mem.2

theorem byPosition?_eq_none : m.byPosition? arguments p = none :=
  Binding.handed_eq_none_of_place (next.distinct.filter _) next.place

theorem byPosition?_push (value : Value) (q : Param) : m.byPosition? (arguments.push value) q =
    if q.name = p.name then some value else m.byPosition? arguments q :=
  Binding.handed_concat (next.distinct.filter _) next.place value q.name

/-- Every parameter gets the same, whichever way the argument is given. -/
theorem argument?_put (value : Value) (mem : q ∈ m.params) :
    m.argument? (arguments.put p.name value) q = m.argument? (arguments.push value) q := by
  have before : m.byPosition? (arguments.put p.name value) q = m.byPosition? arguments q := rfl
  have after : (arguments.put p.name value).get? q.name =
      if q.name = p.name then some value else arguments.get? q.name :=
    NameMap.get?_insert ..
  rw [argument?, argument?, before, after, next.byPosition?_push]
  -- Nothing was given by position to the parameter before, so it gets the argument either way.
  by_cases named : q.name = p.name
  · obtain rfl := Binding.eq_of_name next.distinct mem next.mem.1 named
    simp only [if_true, next.byPosition?_eq_none, next.mem.2, Bool.false_eq_true, if_false]
    rfl
  · simp only [if_neg named]
    rfl

theorem isMissing_put (value : Value) (mem : q ∈ m.params) :
    m.isMissing (arguments.put p.name value) q = m.isMissing (arguments.push value) q := by
  rw [isMissing, isMissing, next.argument?_put value mem]

/-- There are not more arguments by position than positional parameters, even with one more. -/
theorem length_lt : arguments.positional.length < m.positionalCount := by
  rw [← m.length_positionals]
  exact (List.getElem?_eq_some_iff.1 next.place).1

theorem positionFault?_push (value : Value) : m.positionFault? (arguments.push value) = none := by
  have inside := next.length_lt
  rw [positionFault?, if_neg]
  simp only [Arguments.push, List.length_append, List.length_singleton]
  omega

theorem positionFault?_put (value : Value) :
    m.positionFault? (arguments.put p.name value) = none :=
  if_neg fun many => absurd next.length_lt (Nat.lt_asymm many.1)

/-- Another name is complained about as before, and the name of the parameter never is. -/
theorem nameFault?_put (value : Value) (name : String) :
    m.nameFault? (arguments.put p.name value) name =
      if name = p.name then none else m.nameFault? (arguments.push value) name := by
  have before : m.byPosition? (arguments.put p.name value) = m.byPosition? arguments := rfl
  rw [nameFault?, nameFault?, Binding.nameFault?, Binding.nameFault?, before]
  by_cases same : name = p.name
  · subst same
    simp [next.named?, next.byPosition?_eq_none]
  · rw [if_neg same]
    rcases found : Binding.named? m.params name with _ | q
    · rfl
    · have other : q.name ≠ p.name := (Binding.named?_eq_some found).2.1 ▸ same
      simp only [next.byPosition?_push, if_neg other]

theorem findSome?_nameFault?_put (value : Value) :
    ((arguments.put p.name value).named.entries.findSome? fun entry =>
        m.nameFault? (arguments.put p.name value) entry.1) =
      (arguments.push value).named.entries.findSome? fun entry =>
        m.nameFault? (arguments.push value) entry.1 := by
  have own : m.nameFault? (arguments.put p.name value) p.name = none := by
    rw [next.nameFault?_put, if_pos rfl]
  refine (Entries.findSome?_insert (β := Mismatch) next.free own).trans ?_
  refine Binding.findSome?_congr fun entry mem => ?_
  rw [next.nameFault?_put, if_neg (Entries.ne_of_free next.free mem)]

/-- The same values are held against the type of every parameter. -/
theorem held_put (value : Value) (mem : q ∈ m.params) :
    m.held (arguments.put p.name value) q = m.held (arguments.push value) q := by
  have inside := next.length_lt
  -- Nothing is left over of the positional arguments, not even of one more.
  have before : arguments.positional.drop m.positionalCount = [] :=
    List.drop_of_length_le (Nat.le_of_lt inside)
  have after : (arguments.positional ++ [value]).drop m.positionalCount = [] :=
    List.drop_of_length_le (by rw [List.length_append]; exact inside)
  rw [held, held]
  cases q.kind with
  | restPositional => simp only [Arguments.put, Arguments.push, before, after]
  | restKeyword =>
    refine Entries.filter_insert next.free ?_
    rw [next.named?]
    rfl
  | positional => simp only [next.argument?_put value mem]
  | keyword => simp only [next.argument?_put value mem]

/-- The first complaint is the same, whichever way the argument is given. -/
theorem firstFault?_put (coercion : Coercion) (value : Value) :
    m.firstFault? coercion (arguments.put p.name value) =
      m.firstFault? coercion (arguments.push value) := by
  have typed : (m.params.findSome? fun q =>
        (m.held (arguments.put p.name value) q).findSome?
          (Binding.typeMismatch? coercion q.ty)) =
      m.params.findSome? fun q => (m.held (arguments.push value) q).findSome?
        (Binding.typeMismatch? coercion q.ty) :=
    Binding.findSome?_congr fun q mem => by rw [next.held_put value mem]
  rw [firstFault?, firstFault?, next.positionFault?_put, next.positionFault?_push,
    next.findSome?_nameFault?_put, List.find?_congr fun q mem => next.isMissing_put value mem,
    typed]

end Next

end Member

/-- The check of a call of a declared member finds the same whether the last argument by position
    is given by position, or under the name of its parameter if nothing else is. -/
theorem Surface.mismatch?_nameLast (surface : Surface) {m : Member} (mem : m ∈ surface.members)
    (coercion : Coercion) (arguments : Arguments) {count : Nat} {p : Param}
    (length : arguments.positional.length = count + 1)
    (place : (Binding.positionals m.params)[count]? = some p)
    (free : arguments.get? p.name = none) :
    m.mismatch? coercion (arguments.nameLast p.name) = m.mismatch? coercion arguments := by
  have distinct := (surface.sound.valid m mem).params.distinct
  obtain ⟨others, value, rfl, rfl, _⟩ := Arguments.exists_eq_push length
  have next : m.Next others p := ⟨distinct, place, free⟩
  rw [Arguments.nameLast_push, m.mismatch?_eq distinct, m.mismatch?_eq distinct,
    next.firstFault?_put]

/-- A call of the sample with a wrong argument by position, and one by name that is left over. -/
def Sample.misdrawing : Arguments := (Arguments.ofList [.int 3]).put "mode" (.str "plain")

theorem Surface.mismatch?_nameLast_misdrawing :
    Sample.drawSample ∈ Sample.randomSurface.members ∧
      Sample.misdrawing.positional.length = 0 + 1 ∧
      (Binding.positionals Sample.drawSample.params)[0]? =
        some (.required "population" (.list .any)) ∧
      Sample.misdrawing.get? "population" = none ∧
      Sample.drawSample.mismatch? .strict (Sample.misdrawing.nameLast "population") =
        Sample.drawSample.mismatch? .strict Sample.misdrawing := by
  have declared : Sample.randomSurface.members[4]? = some Sample.drawSample := rfl
  have mem := List.mem_of_getElem? declared
  have place : (Binding.positionals Sample.drawSample.params)[0]? =
      some (.required "population" (.list .any)) := rfl
  have free : Sample.misdrawing.get? "population" = none := by decide +kernel
  have length : Sample.misdrawing.positional.length = 0 + 1 := rfl
  have same := Sample.randomSurface.mismatch?_nameLast mem .strict Sample.misdrawing length place
    free
  exact ⟨mem, length, place, free, same⟩

end Understudy
