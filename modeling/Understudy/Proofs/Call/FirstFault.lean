import Mathlib.Data.List.Nodup
import Understudy.Call.Binding
import Understudy.Surface.Signature

/-!
# The first thing wrong with a call

The check of a call hands out the arguments one after the other and looks at what the parameters
got so far. Where the names of the parameters are distinct nothing depends on that order: what a
parameter gets, and whether an argument by name finds its place, can be told from the call as it
was made.

* `Member.firstFault?`: the complaints about a call, each told from the call alone, in the order
  in which the first one counts.
* `Member.mismatch?_eq`: the check finds the same complaint.
-/

namespace Understudy

/-- The parameters that take an argument by position. -/
def Binding.positionals (params : List Param) : List Param :=
  params.filter (·.kind == .positional)

/-- The value that the parameter of the name gets if values are handed to parameters in order. -/
def Binding.handed (params : List Param) (values : List Value) (name : String) : Option Value :=
  ((params.zip values).find? (·.1.name == name)).map (·.2)

/-- The parameter that takes an argument of the name, save those that take what is left over. -/
def Binding.named? (params : List Param) (name : String) : Option Param :=
  params.find? fun p => p.name = name ∧ !p.isRest

/-- The complaint about an argument of the name, where some parameters got an argument before. -/
def Binding.nameFault? (takesRest : Bool) (params : List Param) (got : Param → Option Value)
    (name : String) : Option Mismatch :=
  match named? params name with
  | some p => if (got p).isSome then some (.multipleValues name) else none
  | none => if takesRest then none else some (.unexpectedName name)

namespace Member

/-- The argument that a parameter gets by position. -/
def byPosition? (m : Member) (arguments : Arguments) (p : Param) : Option Value :=
  Binding.handed (Binding.positionals m.params) arguments.positional p.name

/-- The argument that a parameter gets, by position or by name. -/
def argument? (m : Member) (arguments : Arguments) (p : Param) : Option Value :=
  (m.byPosition? arguments p).or (if p.isRest then none else arguments.get? p.name)

/-- The complaint about the number of arguments by position. -/
def positionFault? (m : Member) (arguments : Arguments) : Option Mismatch :=
  if m.positionalCount < arguments.positional.length ∧ !m.hasParam .restPositional then
    some (.tooManyPositional m.positionalCount arguments.positional.length)
  else none

/-- The complaint about an argument of the name. -/
def nameFault? (m : Member) (arguments : Arguments) (name : String) : Option Mismatch :=
  Binding.nameFault? (m.hasParam .restKeyword) m.params (m.byPosition? arguments) name

/-- Whether a parameter gets no argument and has no default. -/
def isMissing (m : Member) (arguments : Arguments) (p : Param) : Bool :=
  !p.isRest && (m.argument? arguments p).isNone && !p.hasDefault

/-- The values that are held against the declared type of a parameter, each with the name that a
    complaint gives. -/
def held (m : Member) (arguments : Arguments) (p : Param) : List (String × Value) :=
  match p.kind with
  | .restPositional => (arguments.positional.drop m.positionalCount).map (p.name, ·)
  | .restKeyword =>
    arguments.named.entries.filter fun entry => (Binding.named? m.params entry.1).isNone
  | _ => (((m.argument? arguments p).or p.default).map (p.name, ·)).toList

/-- The first complaint about a call: too many arguments by position, then the first name that
    finds no place, then the first parameter that gets nothing, then the first value that is not
    of the declared type. Names are in their order, parameters in that of their declaration. -/
def firstFault? (m : Member) (coercion : Coercion) (arguments : Arguments) : Option Mismatch :=
  (m.positionFault? arguments).or <|
    (arguments.named.entries.findSome? fun entry => m.nameFault? arguments entry.1).or <|
      ((m.params.find? (m.isMissing arguments)).map (.missing ·.name)).or <|
        m.params.findSome? fun p =>
          (m.held arguments p).findSome? (Binding.typeMismatch? coercion p.ty)

end Member

namespace Binding

theorem handed_nil (params : List Param) (name : String) : handed params [] name = none := by
  rw [handed, List.zip_nil_right]
  rfl

theorem handed_cons (p : Param) (params : List Param) (value : Value) (values : List Value)
    (name : String) : handed (p :: params) (value :: values) name =
      if p.name = name then some value else handed params values name := by
  rw [handed, List.zip_cons_cons, List.find?_cons]
  by_cases same : p.name = name
  · rw [if_pos same, beq_iff_eq.2 same]
    rfl
  · rw [if_neg same, beq_eq_false_iff_ne.2 same]
    rfl

theorem handed_eq_none {params : List Param} {name : String} (h : ∀ p ∈ params, p.name ≠ name)
    (values : List Value) : handed params values name = none := by
  rw [handed, Option.map_eq_none_iff, List.find?_eq_none]
  intro entry mem same
  exact h entry.1 (List.of_mem_zip mem).1 (beq_iff_eq.1 same)

/-- A parameter gets the value at its place among the parameters. -/
theorem handed_eq_some_iff {params : List Param}
    (distinct : params.Pairwise fun p q => p.name ≠ q.name) {values : List Value} {name : String}
    {value : Value} : handed params values name = some value ↔
      ∃ (index : Nat) (p : Param), params[index]? = some p ∧ p.name = name ∧
        values[index]? = some value := by
  induction params generalizing values with
  | nil => simp [handed]
  | cons p params ih =>
    obtain ⟨other, distinct⟩ := List.pairwise_cons.1 distinct
    cases values with
    | nil => simp [handed_nil]
    | cons first values =>
      rw [handed_cons]
      by_cases here : p.name = name
      · rw [if_pos here]
        constructor
        · exact fun there => ⟨0, p, rfl, here, there⟩
        · rintro ⟨index, q, place, named, there⟩
          cases index with
          | zero => exact there
          | succ index =>
            -- A parameter further back has another name.
            exact absurd (here.trans named.symm) (other q (List.mem_of_getElem? place))
      · rw [if_neg here, ih distinct]
        constructor
        · rintro ⟨index, q, found⟩
          exact ⟨index + 1, q, found⟩
        · rintro ⟨index, q, place, named, there⟩
          cases index with
          | zero =>
            obtain rfl := Option.some.inj place
            exact absurd named here
          | succ index => exact ⟨index, q, place, named, there⟩

theorem positionals_cons {p : Param} (params : List Param) (h : p.kind = .positional) :
    positionals (p :: params) = p :: positionals params :=
  List.filter_cons_of_pos (beq_iff_eq.2 h)

theorem positionals_cons_other {p : Param} (params : List Param) (h : p.kind ≠ .positional) :
    positionals (p :: params) = positionals params :=
  List.filter_cons_of_neg fun same => h (beq_iff_eq.1 same)

theorem byPosition_cons {p : Param} (params : List Param) (value : Value) (values : List Value)
    (h : p.kind = .positional) : byPosition (p :: params) (value :: values) =
      ((p, some value) :: (byPosition params values).1, (byPosition params values).2) := by
  rw [byPosition]
  exact h

theorem byPosition_cons_other {p : Param} (params : List Param) {values : List Value}
    (h : p.kind = .positional → values = []) : byPosition (p :: params) values =
      ((p, none) :: (byPosition params values).1, (byPosition params values).2) := by
  rw [byPosition]
  intro value rest positional same
  cases (h positional).symm.trans same

/-- Handing out by position: every parameter gets the value at its place among the positional
    ones, and what stands behind them all is left over. -/
theorem byPosition_eq {params : List Param} (distinct : params.Pairwise fun p q => p.name ≠ q.name)
    (values : List Value) :
    byPosition params values =
      (params.map fun p => (p, handed (positionals params) values p.name),
        values.drop (positionals params).length) := by
  induction params generalizing values with
  | nil => rfl
  | cons p params ih =>
    obtain ⟨other, distinct⟩ := List.pairwise_cons.1 distinct
    by_cases positional : p.kind = .positional
    · rw [positionals_cons params positional, List.map_cons, List.length_cons]
      cases values with
      | nil =>
        rw [byPosition_cons_other params fun _ => rfl, ih distinct]
        simp only [handed_nil, List.drop_nil]
      | cons value values =>
        -- The value is for this parameter only, as no other one has its name.
        rw [byPosition_cons params value values positional]
        simp only [ih distinct, handed_cons, if_true, List.drop_succ_cons]
        congr 2
        exact List.map_congr_left fun q mem => by rw [if_neg (other q mem)]
    · have none : handed (positionals params) values p.name = none :=
        handed_eq_none (fun q mem same => other q (List.mem_filter.1 mem).1 same.symm) values
      rw [positionals_cons_other params positional, List.map_cons, none,
        byPosition_cons_other params fun h => absurd h positional, ih distinct]

/-! ## By name -/

/-- The parameters with what they got. -/
def slotsOf (params : List Param) (got : Param → Option Value) : List Slot :=
  params.map fun p => (p, got p)

theorem slotsOf_congr {params : List Param} {got got' : Param → Option Value}
    (h : ∀ p ∈ params, got p = got' p) : slotsOf params got = slotsOf params got' :=
  List.map_congr_left fun p mem => by rw [h p mem]

theorem named?_eq_some {params : List Param} {name : String} {p : Param}
    (h : named? params name = some p) : p ∈ params ∧ p.name = name ∧ p.isRest = false := by
  have answers := List.find?_some h
  simp only [Bool.not_eq_true', decide_eq_true_eq] at answers
  exact ⟨List.mem_of_find?_eq_some h, answers⟩

theorem named?_eq_none {params : List Param} {name : String} (h : named? params name = none)
    {p : Param} (mem : p ∈ params) (named : p.name = name) : p.isRest = true := by
  have := List.find?_eq_none.1 h p mem
  simpa [named] using this

theorem eq_of_name {params : List Param} (distinct : params.Pairwise fun p q => p.name ≠ q.name)
    {p q : Param} (hp : p ∈ params) (hq : q ∈ params) (same : p.name = q.name) : p = q := by
  have nodup : (params.map (·.name)).Nodup := List.pairwise_map.2 distinct
  exact List.inj_on_of_nodup_map nodup hp hq same

theorem findSome?_congr {α β : Type} {f g : α → Option β} {items : List α}
    (h : ∀ a ∈ items, f a = g a) : items.findSome? f = items.findSome? g := by
  induction items with
  | nil => rfl
  | cons a items ih =>
    rw [List.findSome?_cons, List.findSome?_cons, h a List.mem_cons_self,
      ih fun b mem => h b (List.mem_cons_of_mem a mem)]

/-- What the parameters got, and with it an argument of the name. -/
def filled (got : Param → Option Value) (name : String) (value : Value) (p : Param) :
    Option Value :=
  if p.name = name ∧ !p.isRest then some value else got p

/-- What the parameters got, and with it what is left for them among arguments by name. -/
def withNames (got : Param → Option Value) (entries : List (String × Value)) (p : Param) :
    Option Value :=
  (got p).or (if p.isRest then none else Entries.get? p.name entries)

/-- Handing out one argument by name. -/
theorem byName_eq {params : List Param} (distinct : params.Pairwise fun p q => p.name ≠ q.name)
    (got : Param → Option Value) (name : String) (value : Value) :
    byName name value (slotsOf params got) = (named? params name).map fun p =>
      if (got p).isSome then .error (.multipleValues name)
      else .ok (slotsOf params (filled got name value)) := by
  induction params with
  | nil => rfl
  | cons p params ih =>
    obtain ⟨other, distinct⟩ := List.pairwise_cons.1 distinct
    rw [slotsOf, List.map_cons, byName, named?, List.find?_cons]
    by_cases answers : p.name = name ∧ !p.isRest
    · -- No parameter behind has the name, so nothing else changes.
      have kept : slotsOf params got = slotsOf params (filled got name value) :=
        slotsOf_congr fun q mem =>
          (if_neg fun same => other q mem (answers.1.trans same.1.symm)).symm
      rw [if_pos answers, decide_eq_true answers, Option.map_some]
      simp only [slotsOf, List.map_cons, filled, if_pos answers] at kept ⊢
      rw [kept]
    · have behind := ih distinct
      rw [slotsOf] at behind
      rw [if_neg answers, decide_eq_false answers, behind, Option.map_map]
      refine congrArg (Option.map · _) ?_
      funext q
      simp only [Function.comp_apply, slotsOf, List.map_cons, filled, if_neg answers]
      cases (got q).isSome <;> rfl

/-- An argument is in the way of those of its name only. -/
theorem nameFault?_filled (takesRest : Bool) (params : List Param) (got : Param → Option Value)
    {name other : String} (apart : other ≠ name) (value : Value) :
    nameFault? takesRest params (filled got name value) other =
      nameFault? takesRest params got other := by
  rw [nameFault?, nameFault?]
  rcases found : named? params other with _ | q
  · rfl
  · have unnamed : q.name ≠ name := (named?_eq_some found).2.1 ▸ apart
    simp only [filled, unnamed, false_and, if_false]

/-- An argument that no parameter has the name of goes to none. -/
theorem withNames_of_unnamed {params : List Param} {name : String}
    (unnamed : named? params name = none) (got : Param → Option Value) (value : Value)
    (entries : List (String × Value)) {p : Param} (mem : p ∈ params) :
    withNames got entries p = withNames got ((name, value) :: entries) p := by
  rw [withNames, withNames]
  by_cases named : p.name = name
  · rw [named?_eq_none unnamed mem named, if_pos rfl, if_pos rfl]
  · rw [Entries.get?, if_neg named]

/-- An argument that a parameter has the name of goes to that one. -/
theorem withNames_of_named {params : List Param}
    (distinct : params.Pairwise fun p q => p.name ≠ q.name) {name : String} {p q : Param}
    (found : named? params name = some p) {got : Param → Option Value} (free : got p = none)
    (value : Value) (entries : List (String × Value)) (mem : q ∈ params) :
    withNames (filled got name value) entries q = withNames got ((name, value) :: entries) q := by
  obtain ⟨there, named, single⟩ := named?_eq_some found
  rw [withNames, withNames, filled, Entries.get?]
  by_cases answers : q.name = name
  · obtain rfl := eq_of_name distinct mem there (answers.trans named.symm)
    rw [if_pos ⟨answers, by rw [single]; rfl⟩, free, if_pos answers, single]
    rfl
  · rw [if_neg fun h => answers h.1, if_neg answers]

/-- Handing out by name, one argument after the other: as the names are distinct, no argument is in
    the way of another, and every parameter gets the one of its name. -/
theorem byNames_eq {params : List Param} (distinct : params.Pairwise fun p q => p.name ≠ q.name)
    (takesRest : Bool) (got : Param → Option Value) (extra : List (String × Value))
    {entries : List (String × Value)} (ordered : Entries.Ordered entries) :
    byNames takesRest (slotsOf params got) extra entries =
      match entries.findSome? fun entry => nameFault? takesRest params got entry.1 with
      | some fault => .error fault
      | none => .ok (slotsOf params (withNames got entries),
          extra ++ entries.filter fun entry => (named? params entry.1).isNone) := by
  -- The induction is over the arguments that are left; what the parameters got may be anything.
  induction entries generalizing got extra with
  | nil =>
    have same : withNames got [] = got := by
      funext p
      simp [withNames, Entries.get?]
    simp [byNames, same]
  | cons entry entries ih =>
    obtain ⟨name, value⟩ := entry
    obtain ⟨below, ordered⟩ := List.pairwise_cons.1 ordered
    rw [byNames, byName_eq distinct, List.findSome?_cons, nameFault?]
    rcases found : named? params name with _ | p
    · simp only [Option.map_none]
      cases takesRest with
      | false => rfl
      | true =>
        have same := slotsOf_congr fun p mem => withNames_of_unnamed found got value entries mem
        rw [List.filter_cons_of_pos (by rw [found]; rfl), ← same]
        simp only [if_true, ih got _ ordered, List.append_assoc, List.singleton_append]
    · simp only [Option.map_some]
      rcases given : got p with _ | first
      · have faults := findSome?_congr fun entry later => nameFault?_filled takesRest params got
          (String.ne_of_lt (below entry later)).symm value
        have same := slotsOf_congr fun q mem =>
          withNames_of_named distinct found given value entries mem
        simp only [Option.isSome_none, Bool.false_eq_true, if_false]
        rw [List.filter_cons_of_neg (by rw [found]; exact Bool.false_ne_true), ← same,
          ih _ extra ordered, faults]
      · rfl

end Binding

namespace Member

theorem length_positionals (m : Member) :
    (Binding.positionals m.params).length = m.positionalCount :=
  List.countP_eq_length_filter.symm

theorem checked_eq_held (m : Member) (arguments : Arguments) (p : Param) :
    Binding.checked (arguments.positional.drop m.positionalCount)
        (arguments.named.entries.filter fun entry => (Binding.named? m.params entry.1).isNone)
        (p, m.argument? arguments p) =
      m.held arguments p := by
  unfold Binding.checked held
  cases p.kind with
  | restPositional => rfl
  | restKeyword => rfl
  | positional => cases m.argument? arguments p <;> cases p.default <;> rfl
  | keyword => cases m.argument? arguments p <;> cases p.default <;> rfl

/-- Where the names of the parameters are distinct the check finds the first complaint. -/
theorem mismatch?_eq {m : Member} (distinct : m.params.Pairwise fun p q => p.name ≠ q.name)
    (coercion : Coercion) (arguments : Arguments) :
    m.mismatch? coercion arguments = m.firstFault? coercion arguments := by
  have surplus : (!(arguments.positional.drop m.positionalCount).isEmpty &&
      !m.hasParam .restPositional) = true ↔
      m.positionalCount < arguments.positional.length ∧ !m.hasParam .restPositional := by
    simp [List.drop_eq_nil_iff]
  rw [mismatch?, Binding.byPosition_eq distinct, firstFault?, positionFault?, m.length_positionals]
  by_cases many : m.positionalCount < arguments.positional.length ∧ !m.hasParam .restPositional
  · simp only [surplus, if_pos many, Option.some_or]
  · simp only [surplus, if_neg many, Option.none_or]
    have slots : (m.params.map fun p => (p, Binding.handed (Binding.positionals m.params)
        arguments.positional p.name)) = Binding.slotsOf m.params (m.byPosition? arguments) := rfl
    rw [slots, Binding.byNames_eq distinct _ _ _ arguments.named.ordered, List.nil_append]
    change _ = Option.or (arguments.named.entries.findSome? fun entry =>
      Binding.nameFault? (m.hasParam .restKeyword) m.params (m.byPosition? arguments) entry.1) _
    cases arguments.named.entries.findSome? fun entry =>
      Binding.nameFault? (m.hasParam .restKeyword) m.params (m.byPosition? arguments) entry.1 with
    | some fault => rfl
    | none =>
      -- Behind the names every parameter has the argument that the call tells.
      have got : Binding.slotsOf m.params (Binding.withNames (m.byPosition? arguments)
          arguments.named.entries) = m.params.map fun p => (p, m.argument? arguments p) := rfl
      have missing : (m.params.map fun p => (p, m.argument? arguments p)).find? Binding.isMissing =
          (m.params.find? (m.isMissing arguments)).map fun p => (p, m.argument? arguments p) :=
        List.find?_map
      simp only [got, missing, Option.none_or]
      cases m.params.find? (m.isMissing arguments) with
      | some p => rfl
      | none =>
        simp only [Option.map_none, Option.none_or, List.findSome?_map, Function.comp_def,
          checked_eq_held]

end Member

end Understudy
