import Understudy.Surface.Member

/-!
# Valid signatures

The parameters of a member come in a fixed order of kinds, with at most one that takes the left-over
positional arguments and at most one that takes the left-over named ones. Names are distinct, a
parameter that takes what is left over has no default, and no positional parameter without a
default follows one with a default. The receiver, a first positional parameter called `self` or
`cls`, is not an argument and is dropped.

* `paramsFault?_eq_none_iff`: no fault is found exactly in valid parameters.
* `normalize_valid`: a member whose signature was checked is valid.
-/

namespace Understudy

/-- What is wrong with the signature of a member. -/
inductive SignatureFault where
  | takesNoParameters (kind : MemberKind)
  | duplicateParameter (name : String)
  | outOfOrder (name : String)
  | defaultOfRest (name : String)
  | requiredAfterDefault (name : String)
deriving DecidableEq

namespace SignatureFault

/-- The wording of a fault. -/
def message : SignatureFault → String
  | .takesNoParameters kind => "a " ++ kind.name ++ " takes no parameters"
  | .duplicateParameter name => "duplicate parameter '" ++ name ++ "'"
  | .outOfOrder name => "parameter '" ++ name ++ "' is out of order"
  | .defaultOfRest name => "variadic parameter '" ++ name ++ "' cannot have a default"
  | .requiredAfterDefault name =>
    "non-default parameter '" ++ name ++ "' follows a default parameter"

end SignatureFault

/-- What a parameter `p` and one behind it, `q`, owe each other: names of their own, the order of
    the kinds, no second one of a kind that takes what is left over, and a default for the
    positional `q` if the positional `p` has one. -/
structure Param.Precedes (p q : Param) : Prop where
  distinct : p.name ≠ q.name
  ordered : p.kind.rank ≤ q.kind.rank
  single : p.kind.rank = q.kind.rank → q.isRest = false
  defaulted : p.kind = .positional → p.hasDefault = true → q.kind = .positional →
    q.hasDefault = true

/-- Parameters that make a signature. -/
structure ValidParams (params : List Param) : Prop where
  precedes : params.Pairwise Param.Precedes
  required : ∀ p ∈ params, p.isRest = true → p.hasDefault = false

theorem validParams_nil : ValidParams [] :=
  ⟨List.Pairwise.nil, fun _ mem => absurd mem List.not_mem_nil⟩

theorem validParams_cons {p : Param} {rest : List Param} :
    ValidParams (p :: rest) ↔
      (∀ q ∈ rest, p.Precedes q) ∧ (p.isRest = true → p.hasDefault = false) ∧ ValidParams rest := by
  constructor
  · rintro ⟨precedes, required⟩
    rw [List.pairwise_cons] at precedes
    rw [List.forall_mem_cons] at required
    exact ⟨precedes.1, required.1, precedes.2, required.2⟩
  · rintro ⟨head, default, precedes, required⟩
    exact ⟨List.pairwise_cons.2 ⟨head, precedes⟩, List.forall_mem_cons.2 ⟨default, required⟩⟩

namespace ValidParams

variable {params : List Param} {p q : Param}

theorem distinct (valid : ValidParams params) : params.Pairwise fun p q => p.name ≠ q.name :=
  valid.precedes.imp fun h => h.distinct

/-- No two parameters take what is left over in the same way. -/
theorem eq_of_rest (valid : ValidParams params) (hp : p ∈ params) (hq : q ∈ params)
    (same : p.kind = q.kind) (rest : q.isRest = true) : p = q := by
  obtain ⟨i, hi, rfl⟩ := List.getElem_of_mem hp
  obtain ⟨j, hj, rfl⟩ := List.getElem_of_mem hq
  have pairs := List.pairwise_iff_getElem.1 valid.precedes
  rcases Nat.lt_trichotomy i j with before | rfl | behind
  · have := (pairs i j hi hj before).single (congrArg ParamKind.rank same)
    rw [rest] at this
    cases this
  · rfl
  · have := (pairs j i hj hi behind).single (congrArg ParamKind.rank same.symm)
    rw [Param.isRest, same] at this
    rw [Param.isRest] at rest
    rw [rest] at this
    cases this

end ValidParams

namespace Member

/-- Members with a valid signature: those that are not callable have no parameters. -/
structure Valid (m : Member) : Prop where
  params : ValidParams m.params
  plain : m.kind.isCallable = false → m.params = []

/-- Whether the parameter is the receiver of a method. -/
def isReceiver (p : Param) : Bool :=
  p.kind == .positional && (p.name == "self" || p.name == "cls")

/-- The parameters without a receiver at their head. -/
def dropReceiver : List Param → List Param
  | [] => []
  | p :: rest => if isReceiver p then rest else p :: rest

/-- The first fault of a parameter that stands behind others. Those are known by their names, by
    the rank of the last one, and by whether a positional one among them has a default. -/
def paramFault? (names : List String) (rank : Nat) (defaulted : Bool) (p : Param) :
    Option SignatureFault :=
  if p.name ∈ names then some (.duplicateParameter p.name)
  else if p.kind.rank < rank ∨ (p.kind.rank = rank ∧ p.isRest) then some (.outOfOrder p.name)
  else if p.isRest && p.hasDefault then some (.defaultOfRest p.name)
  else if p.kind = .positional ∧ !p.hasDefault ∧ defaulted then
    some (.requiredAfterDefault p.name)
  else none

/-- The first fault of parameters that stand behind others. -/
def paramsFault? (names : List String) (rank : Nat) (defaulted : Bool) :
    List Param → Option SignatureFault
  | [] => none
  | p :: rest =>
    match paramFault? names rank defaulted p with
    | some fault => some fault
    | none =>
      paramsFault? (names ++ [p.name]) p.kind.rank
        (defaulted || (p.kind == .positional && p.hasDefault)) rest

theorem paramFault?_eq_none_iff {names : List String} {rank : Nat} {defaulted : Bool} {p : Param} :
    paramFault? names rank defaulted p = none ↔ p.name ∉ names ∧ rank ≤ p.kind.rank ∧
      (rank = p.kind.rank → p.isRest = false) ∧ (p.isRest = true → p.hasDefault = false) ∧
      (defaulted = true → p.kind = .positional → p.hasDefault = true) := by
  unfold paramFault?
  grind

/-- The parameters that are known are in force for every parameter behind them, although each is
    held against its neighbour only: ranks ascend. -/
theorem paramsFault?_eq_none_iff {names : List String} {rank : Nat} {defaulted : Bool}
    {params : List Param} :
    paramsFault? names rank defaulted params = none ↔
      (∀ p ∈ params, p.name ∉ names ∧ rank ≤ p.kind.rank ∧
        (rank = p.kind.rank → p.isRest = false) ∧
        (defaulted = true → p.kind = .positional → p.hasDefault = true)) ∧
      ValidParams params := by
  induction params generalizing names rank defaulted with
  | nil => simp [paramsFault?, validParams_nil]
  | cons p rest ih =>
    have head := @paramFault?_eq_none_iff names rank defaulted p
    rw [paramsFault?, List.forall_mem_cons, validParams_cons]
    cases fault : paramFault? names rank defaulted p with
    | some _ => grind
    | none =>
      simp only [ih, List.mem_append, List.mem_singleton]
      grind [Param.Precedes]

/-- The member with a valid signature and without receiver, or what is wrong with it. -/
def normalize (m : Member) : Except SignatureFault Member :=
  if m.kind.isCallable then
    let params := dropReceiver m.params
    match paramsFault? [] 0 false params with
    | some fault => .error fault
    | none => .ok { m with params }
  else if m.params.isEmpty then .ok m
  else .error (.takesNoParameters m.kind)

theorem normalize_valid {m normal : Member} (h : m.normalize = .ok normal) : normal.Valid := by
  unfold normalize at h
  by_cases callable : m.kind.isCallable = true
  · rw [if_pos callable] at h
    cases fault : paramsFault? [] 0 false (dropReceiver m.params) with
    | some _ => simp [fault] at h
    | none =>
      simp only [fault, Except.ok.injEq] at h
      subst h
      exact ⟨(paramsFault?_eq_none_iff.1 fault).2, fun plain => by simp_all⟩
  · rw [if_neg callable] at h
    by_cases empty : m.params = []
    · simp only [empty, List.isEmpty_nil, if_true, Except.ok.injEq] at h
      subst h
      exact ⟨empty ▸ validParams_nil, fun _ => empty⟩
    · simp [empty] at h

end Member

end Understudy
