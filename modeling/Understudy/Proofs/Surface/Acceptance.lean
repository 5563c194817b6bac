import Mathlib.Data.List.Induction
import Mathlib.Data.List.Nodup
import Understudy.Proofs.Surface.Rebuild

/-!
# Which descriptions are accepted

A signature falls into sections: positional parameters without a default, positional ones with a
default, at most one parameter for the left-over positional arguments, those given by name only, and
at most one for the left-over named arguments. The checks never look at sections. They pass over the
parameters once, hold each of them against what is known of those before it, and stop at the first
that does not go together with them.

* `validParams_iff_sections`: the parameters that pass are those that fall into sections.
* `Member.normalize_eq_error_iff`: what is said of a member that does not pass.
* `Surface.build_exactly`: which descriptions make a surface, which surface they make, and what is
  said of the others.
-/

namespace Understudy

/-! ## Sections of a signature -/

namespace Param

/-- The number of the section in which the parameter belongs. -/
def place (p : Param) : Nat :=
  match p.kind, p.hasDefault with
  | .positional, false => 0
  | .positional, true => 1
  | .restPositional, _ => 2
  | .keyword, _ => 3
  | .restKeyword, _ => 4

/-- Whether the parameter may stand before the other one, whatever their names: sections come in
    their order, and in a section for what is left over there is no second one. -/
def Before (p q : Param) : Prop := p.place ≤ q.place ∧ (p.place = q.place → q.isRest = false)

theorem precedes_iff {p q : Param} : p.Precedes q ↔ p.name ≠ q.name ∧ p.Before q := by
  have kinds : p.Before q ↔ p.kind.rank ≤ q.kind.rank ∧
      (p.kind.rank = q.kind.rank → q.isRest = false) ∧
      (p.kind = .positional → p.hasDefault = true → q.kind = .positional →
        q.hasDefault = true) := by
    cases hp : p.kind <;> cases hq : q.kind <;> cases dp : p.hasDefault <;>
      cases dq : q.hasDefault <;>
      simp [Before, place, hp, hq, dp, dq, ParamKind.rank, isRest, ParamKind.isRest]
  rw [kinds]
  exact ⟨fun h => ⟨h.distinct, h.ordered, h.single, h.defaulted⟩,
    fun h => ⟨h.1, h.2.1, h.2.2.1, h.2.2.2⟩⟩

end Param

theorem validParams_iff {params : List Param} : ValidParams params ↔
    (params.map (·.name)).Nodup ∧ params.Pairwise Param.Before ∧
      ∀ p ∈ params, p.isRest = true → p.hasDefault = false := by
  have names : (params.map (·.name)).Nodup ↔ params.Pairwise fun p q => p.name ≠ q.name :=
    List.pairwise_map
  rw [names, ← and_assoc, ← List.pairwise_and_iff]
  simp only [← Param.precedes_iff]
  exact ⟨fun h => ⟨h.precedes, h.required⟩, fun h => ⟨h.1, h.2⟩⟩

/-- The sections of a signature, in their order. -/
structure Sections where
  /-- The positional parameters without a default. -/
  required : List Param
  /-- The positional parameters with a default. -/
  optional : List Param
  /-- The parameter that takes the left-over positional arguments. -/
  rest : Option Param
  /-- The parameters that are given by name only. -/
  keywords : List Param
  /-- The parameter that takes the left-over named arguments. -/
  restKeyword : Option Param

namespace Sections

variable {s : Sections} {p : Param}

/-- The parameters of all sections. -/
def params (s : Sections) : List Param :=
  s.required ++ (s.optional ++ (s.rest.toList ++ (s.keywords ++ s.restKeyword.toList)))

/-- Whether every parameter stands in the section where it belongs. A parameter that takes what is
    left over has no default. -/
structure Sorted (s : Sections) : Prop where
  required : ∀ p ∈ s.required, p.kind = .positional ∧ p.hasDefault = false
  optional : ∀ p ∈ s.optional, p.kind = .positional ∧ p.hasDefault = true
  rest : ∀ p ∈ s.rest, p.kind = .restPositional ∧ p.hasDefault = false
  keywords : ∀ p ∈ s.keywords, p.kind = .keyword
  restKeyword : ∀ p ∈ s.restKeyword, p.kind = .restKeyword ∧ p.hasDefault = false

/-- What `Sorted` says in the numbers of the sections. -/
structure Placed (s : Sections) : Prop where
  required : ∀ p ∈ s.required, p.place = 0 ∧ p.isRest = false
  optional : ∀ p ∈ s.optional, p.place = 1 ∧ p.isRest = false
  rest : ∀ p ∈ s.rest.toList, p.place = 2 ∧ p.isRest = true
  keywords : ∀ p ∈ s.keywords, p.place = 3 ∧ p.isRest = false
  restKeyword : ∀ p ∈ s.restKeyword.toList, p.place = 4 ∧ p.isRest = true

theorem Sorted.placed (sorted : s.Sorted) : s.Placed := by
  obtain ⟨required, optional, rest, keywords, restKeyword⟩ := sorted
  constructor
  · exact fun p mem => by simp [Param.place, Param.isRest, ParamKind.isRest, required p mem]
  · exact fun p mem => by simp [Param.place, Param.isRest, ParamKind.isRest, optional p mem]
  · exact fun p mem => by
      simp [Param.place, Param.isRest, ParamKind.isRest, rest p (Option.mem_toList.1 mem)]
  · exact fun p mem => by simp [Param.place, Param.isRest, ParamKind.isRest, keywords p mem]
  · exact fun p mem => by
      simp [Param.place, Param.isRest, ParamKind.isRest, restKeyword p (Option.mem_toList.1 mem)]

theorem pairwise_section {l : List Param} {place : Nat}
    (within : ∀ p ∈ l, p.place = place ∧ p.isRest = false) : l.Pairwise Param.Before := by
  refine List.pairwise_of_forall_mem_list fun p hp q hq => ?_
  exact ⟨Nat.le_of_eq ((within p hp).1.trans (within q hq).1.symm), fun _ => (within q hq).2⟩

theorem pairwise_toList (o : Option Param) : o.toList.Pairwise Param.Before := by
  cases o with
  | none => exact .nil
  | some p => exact List.pairwise_singleton _ _

theorem pairwise_append {l more : List Param} {place : Nat} (hl : l.Pairwise Param.Before)
    (hmore : more.Pairwise Param.Before) (within : ∀ p ∈ l, p.place = place)
    (behind : ∀ p ∈ more, place < p.place) : (l ++ more).Pairwise Param.Before := by
  refine List.pairwise_append.2 ⟨hl, hmore, fun p hp q hq => ?_⟩
  have lt : p.place < q.place := within p hp ▸ behind q hq
  exact ⟨Nat.le_of_lt lt, fun same => absurd same (Nat.ne_of_lt lt)⟩

theorem Sorted.pairwise (sorted : s.Sorted) : s.params.Pairwise Param.Before := by
  obtain ⟨required, optional, rest, keywords, restKeyword⟩ := sorted.placed
  have fromKeywords := pairwise_append (pairwise_section keywords) (pairwise_toList s.restKeyword)
    (fun p mem => (keywords p mem).1) (by grind)
  have fromRest := pairwise_append (pairwise_toList s.rest) fromKeywords
    (fun p mem => (rest p mem).1) (by grind)
  have fromOptional := pairwise_append (pairwise_section optional) fromRest
    (fun p mem => (optional p mem).1) (by grind)
  exact pairwise_append (pairwise_section required) fromOptional
    (fun p mem => (required p mem).1) (by grind)

theorem Sorted.bare (sorted : s.Sorted) :
    ∀ p ∈ s.params, p.isRest = true → p.hasDefault = false := by
  obtain ⟨required, optional, rest, keywords, restKeyword⟩ := sorted
  simp only [params, List.mem_append, Option.mem_toList]
  grind [Param.isRest, ParamKind.isRest]

/-- A section is empty if one of its parameters would stand behind one that belongs behind it. -/
theorem eq_nil_of_before {l : List Param} {place : Nat} {rest : Bool}
    (within : ∀ q ∈ l, q.place = place ∧ q.isRest = rest) (behind : ∀ q ∈ l, p.Before q)
    (less : place < p.place) : l = [] :=
  List.eq_nil_iff_forall_not_mem.2 fun q mem =>
    Nat.not_le_of_lt less ((within q mem).1 ▸ (behind q mem).1)

/-- A section for what is left over is taken by one parameter. -/
theorem eq_none_of_before {o : Option Param} {place : Nat}
    (within : ∀ q ∈ o.toList, q.place = place ∧ q.isRest = true)
    (behind : ∀ q ∈ o.toList, p.Before q) (le : place ≤ p.place) : o = none := by
  cases o with
  | none => rfl
  | some q =>
    obtain ⟨here, rest⟩ := within q List.mem_cons_self
    obtain ⟨before, single⟩ := behind q List.mem_cons_self
    rw [single (by omega)] at rest
    cases rest

/-- One more parameter in front goes into the section where it belongs; all sections before that
    one are empty. -/
theorem Sorted.exists_cons (sorted : s.Sorted) (before : ∀ q ∈ s.params, p.Before q)
    (bare : p.isRest = true → p.hasDefault = false) :
    ∃ t : Sections, t.Sorted ∧ t.params = p :: s.params := by
  have placed := sorted.placed
  obtain ⟨required, optional, rest, keywords, restKeyword⟩ := s
  simp only [params, List.forall_mem_append] at before
  obtain ⟨before0, before1, before2, before3, before4⟩ := before
  have place := @Param.place.eq_def p
  cases kind : p.kind with
  | positional =>
    cases default : p.hasDefault with
    | false =>
      exact ⟨⟨p :: required, optional, rest, keywords, restKeyword⟩,
        { sorted with required := List.forall_mem_cons.2 ⟨⟨kind, default⟩, sorted.required⟩ }, rfl⟩
    | true =>
      simp only [kind, default] at place
      obtain rfl := eq_nil_of_before placed.required before0 (by omega)
      exact ⟨⟨[], p :: optional, rest, keywords, restKeyword⟩,
        { sorted with optional := List.forall_mem_cons.2 ⟨⟨kind, default⟩, sorted.optional⟩ }, rfl⟩
  | restPositional =>
    simp only [kind] at place
    obtain rfl := eq_nil_of_before placed.required before0 (by omega)
    obtain rfl := eq_nil_of_before placed.optional before1 (by omega)
    obtain rfl := eq_none_of_before placed.rest before2 (by omega)
    have default := bare (by rw [Param.isRest, kind]; rfl)
    exact ⟨⟨[], [], some p, keywords, restKeyword⟩,
      { sorted with rest := fun q mem => Option.some.inj mem ▸ ⟨kind, default⟩ }, rfl⟩
  | keyword =>
    simp only [kind] at place
    obtain rfl := eq_nil_of_before placed.required before0 (by omega)
    obtain rfl := eq_nil_of_before placed.optional before1 (by omega)
    obtain rfl := eq_none_of_before placed.rest before2 (by omega)
    exact ⟨⟨[], [], none, p :: keywords, restKeyword⟩,
      { sorted with keywords := List.forall_mem_cons.2 ⟨kind, sorted.keywords⟩ }, rfl⟩
  | restKeyword =>
    simp only [kind] at place
    obtain rfl := eq_nil_of_before placed.required before0 (by omega)
    obtain rfl := eq_nil_of_before placed.optional before1 (by omega)
    obtain rfl := eq_none_of_before placed.rest before2 (by omega)
    obtain rfl := eq_nil_of_before placed.keywords before3 (by omega)
    obtain rfl := eq_none_of_before placed.restKeyword before4 (by omega)
    have default := bare (by rw [Param.isRest, kind]; rfl)
    exact ⟨⟨[], [], none, [], some p⟩,
      { sorted with restKeyword := fun q mem => Option.some.inj mem ▸ ⟨kind, default⟩ }, rfl⟩

theorem exists_sorted {params : List Param} (before : params.Pairwise Param.Before)
    (bare : ∀ p ∈ params, p.isRest = true → p.hasDefault = false) :
    ∃ s : Sections, s.Sorted ∧ s.params = params := by
  induction params with
  | nil => exact ⟨⟨[], [], none, [], none⟩, ⟨nofun, nofun, nofun, nofun, nofun⟩, rfl⟩
  | cons p behind ih =>
    obtain ⟨here, before⟩ := List.pairwise_cons.1 before
    obtain ⟨bareHere, bare⟩ := List.forall_mem_cons.1 bare
    obtain ⟨s, sorted, rfl⟩ := ih before bare
    exact sorted.exists_cons here bareHere

end Sections

/-- Parameters with names of their own that fall into sections. -/
def FallsIntoSections (params : List Param) : Prop :=
  (params.map (·.name)).Nodup ∧ ∃ s : Sections, s.Sorted ∧ s.params = params

theorem validParams_iff_sections {params : List Param} :
    ValidParams params ↔ FallsIntoSections params := by
  rw [validParams_iff, FallsIntoSections]
  refine and_congr_right fun _ => ⟨fun h => Sections.exists_sorted h.1 h.2, ?_⟩
  rintro ⟨s, sorted, rfl⟩
  exact ⟨sorted.pairwise, sorted.bare⟩

/-! ## The first parameter that is wrong -/

section

variable {front params : List Param} {p : Param} {fault : SignatureFault} {names : List String}
  {rank : Nat} {defaulted : Bool}

/-- What is wrong with a parameter `p` that stands behind those in `front`. A name that is taken
    counts before the order of the kinds, and that before a default that must not be there or must
    be there. -/
inductive Param.Clashes (front : List Param) (p : Param) : SignatureFault → Prop
  | duplicate : (∃ q ∈ front, q.name = p.name) → Clashes front p (.duplicateParameter p.name)
  | order : (∀ q ∈ front, q.name ≠ p.name) →
      (∃ q ∈ front, p.kind.rank < q.kind.rank ∨ p.kind.rank = q.kind.rank ∧ p.isRest = true) →
      Clashes front p (.outOfOrder p.name)
  | rest : (∀ q ∈ front, q.name ≠ p.name) →
      (∀ q ∈ front, q.kind.rank ≤ p.kind.rank ∧ (q.kind.rank = p.kind.rank → p.isRest = false)) →
      p.isRest = true → p.hasDefault = true → Clashes front p (.defaultOfRest p.name)
  | default : (∀ q ∈ front, q.name ≠ p.name) →
      (∀ q ∈ front, q.kind.rank ≤ p.kind.rank ∧ (q.kind.rank = p.kind.rank → p.isRest = false)) →
      p.kind = .positional → p.hasDefault = false →
      (∃ q ∈ front, q.kind = .positional ∧ q.hasDefault = true) →
      Clashes front p (.requiredAfterDefault p.name)

/-- What the checks know of the parameters before the one they look at. -/
structure Known (front : List Param) (names : List String) (rank : Nat) (defaulted : Bool) :
    Prop where
  names : ∀ name, name ∈ names ↔ ∃ q ∈ front, q.name = name
  highest : ∀ q ∈ front, q.kind.rank ≤ rank
  reached : rank = 0 ∨ ∃ q ∈ front, q.kind.rank = rank
  defaulted : defaulted = true ↔ ∃ q ∈ front, q.kind = .positional ∧ q.hasDefault = true

namespace Known

theorem nil : Known [] [] 0 false := ⟨by simp, by simp, .inl rfl, by simp⟩

theorem concat (known : Known front names rank defaulted) (next : rank ≤ p.kind.rank) :
    Known (front ++ [p]) (names ++ [p.name]) p.kind.rank
      (defaulted || (p.kind == .positional && p.hasDefault)) := by
  obtain ⟨names, highest, reached, defaulted⟩ := known
  constructor
  · grind
  · grind
  · grind
  · grind

theorem paramFault?_eq_some_iff (known : Known front names rank defaulted) :
    Member.paramFault? names rank defaulted p = some fault ↔ p.Clashes front fault := by
  obtain ⟨names, highest, reached, defaulted⟩ := known
  have rest : p.isRest = true → p.kind.rank ≠ 0 := by
    cases kind : p.kind <;> simp [Param.isRest, ParamKind.isRest, ParamKind.rank, kind]
  unfold Member.paramFault?
  constructor
  · intro h
    split at h
    · next taken => exact Option.some.inj h ▸ .duplicate ((names _).1 taken)
    · next free =>
      have free : ∀ q ∈ front, q.name ≠ p.name :=
        fun q mem same => free ((names _).2 ⟨q, mem, same⟩)
      split at h
      · next late =>
        obtain rfl := Option.some.inj h
        obtain ⟨q, mem, reached⟩ := reached.resolve_left (by grind)
        exact .order free ⟨q, mem, reached ▸ late⟩
      · next late =>
        have late : ∀ q ∈ front, q.kind.rank ≤ p.kind.rank ∧
            (q.kind.rank = p.kind.rank → p.isRest = false) := by grind
        grind [Param.Clashes]
  · intro h
    cases h
    all_goals grind

/-- The checks report what is wrong with the first parameter that clashes with those before it. -/
theorem paramsFault?_eq_some_iff (known : Known front names rank defaulted) :
    Member.paramsFault? names rank defaulted params = some fault ↔
      ∃ before p after, params = before ++ p :: after ∧
        Member.paramsFault? names rank defaulted before = none ∧
        p.Clashes (front ++ before) fault := by
  -- The parameters that passed move to the front, of which the checks then know one more.
  induction params generalizing front names rank defaulted with
  | nil => simp [Member.paramsFault?]
  | cons first rest ih =>
    rw [Member.paramsFault?]
    cases here : Member.paramFault? names rank defaulted first with
    | some found =>
      constructor
      · rintro ⟨rfl⟩
        exact ⟨[], first, rest, rfl, rfl,
          by rw [List.append_nil]; exact known.paramFault?_eq_some_iff.1 here⟩
      · rintro ⟨before, p, after, split, clear, clash⟩
        cases before with
        | nil =>
          obtain ⟨rfl, rfl⟩ := List.cons.inj split
          rw [List.append_nil] at clash
          exact here.symm.trans (known.paramFault?_eq_some_iff.2 clash)
        | cons _ before =>
          obtain ⟨rfl, rfl⟩ := List.cons.inj split
          rw [Member.paramsFault?, here] at clear
          cases clear
    | none =>
      have known' := known.concat (Member.paramFault?_eq_none_iff.1 here).2.1
      simp only [ih known']
      constructor
      · rintro ⟨before, p, after, rfl, clear, clash⟩
        refine ⟨first :: before, p, after, rfl, ?_, ?_⟩
        · rw [Member.paramsFault?, here]
          exact clear
        · rwa [List.append_assoc] at clash
      · rintro ⟨before, p, after, split, clear, clash⟩
        cases before with
        | nil =>
          obtain ⟨rfl, rfl⟩ := List.cons.inj split
          rw [List.append_nil, ← known.paramFault?_eq_some_iff, here] at clash
          cases clash
        | cons _ before =>
          obtain ⟨rfl, rfl⟩ := List.cons.inj split
          rw [Member.paramsFault?, here] at clear
          exact ⟨before, p, after, rfl, clear, by rwa [List.append_assoc]⟩

end Known

end

/-! ## Members -/

namespace Member

variable {m normal : Member} {fault : SignatureFault}

/-- Whether the member may be declared as it is. A receiver at the head is not looked at. -/
structure WellDeclared (m : Member) : Prop where
  params : m.kind.isCallable = true → FallsIntoSections (dropReceiver m.params)
  plain : m.kind.isCallable = false → m.params = []

/-- What is wrong with the signature of a member. -/
inductive Faulty (m : Member) : SignatureFault → Prop
  | plain : m.kind.isCallable = false → m.params ≠ [] → Faulty m (.takesNoParameters m.kind)
  | param {before after : List Param} {p : Param} {fault : SignatureFault} :
      m.kind.isCallable = true → dropReceiver m.params = before ++ p :: after →
      FallsIntoSections before → p.Clashes before fault → Faulty m fault

theorem paramsFault?_nil_eq_none_iff_sections {params : List Param} :
    paramsFault? [] 0 false params = none ↔ FallsIntoSections params :=
  paramsFault?_nil_eq_none_iff.trans validParams_iff_sections

theorem normalize_eq_ok_iff :
    m.normalize = .ok normal ↔ m.WellDeclared ∧ normal = m.withoutReceiver := by
  unfold normalize withoutReceiver
  cases callable : m.kind.isCallable with
  | true =>
    have accepted : m.WellDeclared ↔ paramsFault? [] 0 false (dropReceiver m.params) = none := by
      rw [paramsFault?_nil_eq_none_iff_sections]
      exact ⟨fun h => h.params callable, fun h => ⟨fun _ => h, by simp [callable]⟩⟩
    rw [accepted]
    cases found : paramsFault? [] 0 false (dropReceiver m.params) with
    | none => simp [found, eq_comm]
    | some fault => simp [found]
  | false =>
    have accepted : m.WellDeclared ↔ m.params = [] :=
      ⟨fun h => h.plain callable, fun h => ⟨by simp [callable], fun _ => h⟩⟩
    rw [accepted]
    by_cases empty : m.params = []
    · simp [empty, eq_comm]
    · simp [empty]

theorem normalize_eq_error_iff : m.normalize = .error fault ↔ m.Faulty fault := by
  unfold normalize
  cases callable : m.kind.isCallable with
  | true =>
    have faulty :
        m.Faulty fault ↔ paramsFault? [] 0 false (dropReceiver m.params) = some fault := by
      rw [Known.nil.paramsFault?_eq_some_iff]
      constructor
      · intro h
        cases h with
        | plain not => simp [callable] at not
        | param _ split clear clash =>
          exact ⟨_, _, _, split, paramsFault?_nil_eq_none_iff_sections.2 clear, clash⟩
      · rintro ⟨before, p, after, split, clear, clash⟩
        exact .param callable split (paramsFault?_nil_eq_none_iff_sections.1 clear) clash
    rw [faulty]
    cases found : paramsFault? [] 0 false (dropReceiver m.params) with
    | none => simp [found]
    | some fault' => simp [found]
  | false =>
    have faulty : m.Faulty fault ↔ m.params ≠ [] ∧ fault = .takesNoParameters m.kind := by
      constructor
      · intro h
        cases h with
        | plain _ some => exact ⟨some, rfl⟩
        | param not => simp [callable] at not
      · rintro ⟨some, rfl⟩
        exact .plain callable some
    rw [faulty]
    by_cases empty : m.params = []
    · simp [empty]
    · simp [empty, @eq_comm _ fault]

end Member

/-! ## Descriptions -/

namespace Surface

open Member

variable {typeName : String} {members : List Member} {surface : Surface} {error : SchemaError}

/-- Members that may stand in one description: each is well declared, and no name occurs twice. -/
structure Describable (members : List Member) : Prop where
  wellDeclared : ∀ m ∈ members, m.WellDeclared
  distinct : (members.map (·.name)).Nodup

/-- What is said of a description that makes no surface. Of the members the first is named that
    cannot follow those before it: for its signature, or else for a name that one of them has. -/
inductive Rejected (typeName : String) : List Member → SchemaError → Prop
  | empty : Rejected typeName [] (.unsupportedType typeName)
  | signature {before after : List Member} {m : Member} {fault : SignatureFault} :
      Describable before → m.Faulty fault →
      Rejected typeName (before ++ m :: after) (.invalidSignature typeName m.name fault)
  | duplicate {before after : List Member} {m : Member} :
      Describable before → m.WellDeclared → (∃ n ∈ before, n.name = m.name) →
      Rejected typeName (before ++ m :: after) (.duplicateMember typeName m.name)

variable {sofar : Surface} {m : Member} {fault : SignatureFault}

theorem addMember_of_faulty (faulty : m.Faulty fault) :
    sofar.addMember m = .error (.invalidSignature sofar.name m.name fault) := by
  have refused := normalize_eq_error_iff.2 faulty
  unfold addMember
  split
  · next fault' refused' => rw [Except.error.inj (refused.symm.trans refused')]
  · next normal accepted => cases refused.symm.trans accepted

theorem addMember_of_taken (well : m.WellDeclared) (taken : ∃ n ∈ sofar.members, n.name = m.name) :
    sofar.addMember m = .error (.duplicateMember sofar.name m.name) := by
  have accepted := normalize_eq_ok_iff.2 ⟨well, rfl⟩
  unfold addMember
  split
  · next fault refused => cases accepted.symm.trans refused
  · next normal accepted' =>
    obtain rfl := Except.ok.inj (accepted.symm.trans accepted')
    obtain ⟨n, mem, same⟩ := taken
    rw [dif_neg fun fresh => fresh n mem (same.trans (withoutReceiver_name m).symm),
      withoutReceiver_name]

/-- Members that may stand in one description are all added. -/
theorem Describable.foldlM_addMember (describable : Describable members) (typeName : String) :
    ∃ surface, members.foldlM addMember ⟨typeName, [], soundMembers_nil⟩ = .ok surface ∧
      surface.name = typeName ∧ surface.members = members.map withoutReceiver :=
  Surface.foldlM_addMember
    (fun m mem => normalize_eq_ok_iff.2 ⟨describable.wellDeclared m mem, rfl⟩)
    (List.pairwise_map.1 describable.distinct) fun _ mem => absurd mem List.not_mem_nil

theorem Describable.build (describable : Describable members) (some : members ≠ [])
    (typeName : String) : ∃ surface, build typeName members = .ok surface ∧ surface.name = typeName ∧
      surface.members = members.map withoutReceiver := by
  rw [Surface.build, if_neg (by simpa using some)]
  exact describable.foldlM_addMember typeName

/-- The first member that is not added ends the construction. -/
theorem build_of_refused {before after : List Member}
    (added : before.foldlM addMember ⟨typeName, [], soundMembers_nil⟩ = .ok sofar)
    (refused : sofar.addMember m = .error error) :
    build typeName (before ++ m :: after) = .error error := by
  rw [build, if_neg (by simp), List.foldlM_append, added]
  show List.foldlM addMember sofar _ = _
  rw [List.foldlM_cons, refused]
  rfl

theorem Rejected.build (rejected : Rejected typeName members error) :
    build typeName members = .error error := by
  cases rejected with
  | empty => rfl
  | signature describable faulty =>
    obtain ⟨sofar, added, rfl, _⟩ := describable.foldlM_addMember typeName
    exact build_of_refused added (addMember_of_faulty faulty)
  | duplicate describable well taken =>
    obtain ⟨sofar, added, rfl, members⟩ := describable.foldlM_addMember typeName
    obtain ⟨n, mem, same⟩ := taken
    -- The surface so far has the member before without its receiver, and under the same name.
    have mem : n.withoutReceiver ∈ sofar.members := members ▸ List.mem_map_of_mem mem
    exact build_of_refused added
      (addMember_of_taken well ⟨_, mem, (withoutReceiver_name n).trans same⟩)

/-- What was wrong with a description stays wrong with a longer one. -/
theorem Rejected.concat (rejected : Rejected typeName members error) (some : members ≠ []) :
    Rejected typeName (members ++ [m]) error := by
  cases rejected with
  | empty => exact absurd rfl some
  | signature describable faulty =>
    rw [List.append_assoc]
    exact .signature describable faulty
  | duplicate describable well taken =>
    rw [List.append_assoc]
    exact .duplicate describable well taken

theorem Describable.concat (describable : Describable members) (well : m.WellDeclared)
    (fresh : ∀ n ∈ members, n.name ≠ m.name) : Describable (members ++ [m]) := by
  refine ⟨fun k mem => ?_, ?_⟩
  · rcases List.mem_append.1 mem with old | new
    · exact describable.wellDeclared k old
    · exact List.mem_singleton.1 new ▸ well
  · rw [List.map_append, List.map_singleton]
    refine List.nodup_append.2 ⟨describable.distinct, List.nodup_singleton _, ?_⟩
    rintro _ old _ new rfl
    obtain ⟨n, mem, same⟩ := List.mem_map.1 old
    exact fresh n mem (same.trans (List.mem_singleton.1 new))

/-- The first member that cannot follow those before it is found from the front. -/
theorem describable_or_rejected (typeName : String) (members : List Member) :
    Describable members ∨ members ≠ [] ∧ ∃ error, Rejected typeName members error := by
  -- Whether a member can follow depends on those before it, so members are added at the end.
  induction members using List.reverseRecOn with
  | nil => exact .inl ⟨nofun, List.nodup_nil⟩
  | append_singleton front m ih =>
    rcases ih with describable | ⟨some, error, rejected⟩
    · cases normalized : m.normalize with
      | error fault =>
        exact .inr ⟨by simp, _, .signature describable (normalize_eq_error_iff.1 normalized)⟩
      | ok normal =>
        have well := (normalize_eq_ok_iff.1 normalized).1
        by_cases taken : ∃ n ∈ front, n.name = m.name
        · exact .inr ⟨by simp, _, .duplicate describable well taken⟩
        · exact .inl (describable.concat well fun n mem same => taken ⟨n, mem, same⟩)
    · exact .inr ⟨by simp, error, rejected.concat some⟩

/-- A member is looked up by the one name it has in the surface. -/
theorem member?_eq_some_iff {name : String} :
    surface.member? name = some m ↔ m ∈ surface.members ∧ m.name = name := by
  constructor
  · intro found
    exact ⟨List.mem_of_find?_eq_some found, by simpa using List.find?_some found⟩
  · rintro ⟨mem, rfl⟩
    obtain ⟨before, after, split⟩ := List.append_of_mem mem
    have distinct := surface.sound.distinct
    rw [split, List.pairwise_append] at distinct
    rw [member?, List.find?_eq_some_iff_append]
    refine ⟨beq_self_eq_true _, before, after, split, fun k earlier => ?_⟩
    simpa using distinct.2.2 k earlier m List.mem_cons_self

/-- A description makes a surface exactly if it is not empty, every member of it is well declared
    and no name occurs twice. The surface has the members in their order, each without its receiver,
    and finds every one of them by its name and nothing by any other name. Of every other
    description the first member is named that cannot follow those before it. -/
theorem build_exactly (typeName : String) (members : List Member) :
    ((∃ surface, build typeName members = .ok surface) ↔ members ≠ [] ∧ Describable members) ∧
      (∀ surface, build typeName members = .ok surface →
        surface.name = typeName ∧ surface.members = members.map withoutReceiver ∧
        ∀ name m, surface.member? name = some m ↔ m ∈ surface.members ∧ m.name = name) ∧
      ∀ error, build typeName members = .error error ↔ Rejected typeName members error := by
  have accepted : (∃ surface, build typeName members = .ok surface) →
      members ≠ [] ∧ Describable members := by
    rintro ⟨surface, built⟩
    refine ⟨?_, (describable_or_rejected typeName members).resolve_right ?_⟩
    · rintro rfl
      cases built.symm.trans (@Rejected.empty typeName).build
    · rintro ⟨_, _, rejected⟩
      cases built.symm.trans rejected.build
  refine ⟨⟨accepted, ?_⟩, fun surface built => ?_, fun error => ⟨fun refused => ?_, Rejected.build⟩⟩
  · rintro ⟨some, describable⟩
    obtain ⟨surface, built, _⟩ := describable.build some typeName
    exact ⟨surface, built⟩
  · obtain ⟨some, describable⟩ := accepted ⟨surface, built⟩
    obtain ⟨_, built', name, kept⟩ := describable.build some typeName
    obtain rfl := Except.ok.inj (built.symm.trans built')
    exact ⟨name, kept, fun _ _ => member?_eq_some_iff⟩
  · have rejected : ∃ error, Rejected typeName members error := by
      rcases describable_or_rejected typeName members with describable | ⟨_, rejected⟩
      · by_cases empty : members = []
        · exact ⟨_, empty ▸ Rejected.empty⟩
        · obtain ⟨_, built, _⟩ := describable.build empty typeName
          cases refused.symm.trans built
      · exact rejected
    obtain ⟨error', rejected⟩ := rejected
    obtain rfl := Except.error.inj (refused.symm.trans rejected.build)
    exact rejected

end Surface

/-- A description with a second parameter for the left-over positional arguments of one method, and
    with one name for two members behind it. -/
def Sample.tangledMembers : List Member :=
  [.field "level" .int,
    .method "log" [.untyped "self", .restPositional "parts" .any, .restPositional "more" .any] none,
    .property "level" .int]

/-- The method is named, because it comes first. -/
theorem Surface.rejected_tangled : Rejected "Service" Sample.tangledMembers
    (.invalidSignature "Service" "log" (.outOfOrder "more")) :=
  ((build_exactly "Service" Sample.tangledMembers).2.2 _).1 rfl

end Understudy
