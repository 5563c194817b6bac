import Understudy.Proofs.Call.Indifference
import Understudy.Proofs.Stage.Nesting
import Understudy.Proofs.Stage.Returns

/-!
# Rehearsals

A rehearsal is a call that is not made. Whoever has the token of one may declare a rule for that
call later on, but only on the member that it was rehearsed on. Labels do not tell members apart:
mocks may be named alike. So the token names the mock by its number, and within one mock no two
members have one label.

* `Token.Bound`: what can be done with a token on a stage.
* `Session.rehearsed`: every member can be rehearsed, and the token stays bound to it.
-/

namespace Understudy

/-! ## Histories without declarations -/

namespace History

variable {more history : History}

/-- Whether the rules of the member stayed as they were declared: it was called and read, but no
    rule was declared and none forgotten. -/
def KeepsRules (history : History) : Prop :=
  ∀ happening ∈ history, (∃ arguments, happening = .called arguments) ∨ happening = .read

theorem declared_append (keeps : more.KeepsRules) :
    declared (more ++ history) = history.declared := by
  induction more with
  | nil => rfl
  | cons happening more ih =>
    obtain ⟨here, behind⟩ := List.forall_mem_cons.1 keeps
    rcases here with ⟨arguments, rfl⟩ | rfl
    · exact ih behind
    · exact ih behind

/-- The latest rule decides what it accepts, and leaves the rest to those before it. -/
theorem decisive?_latest (keeps : more.KeepsRules) (matcher : Matcher) (outcomes : List Outcome)
    (arguments : Arguments) :
    decisive? (more ++ .declared matcher outcomes :: history) arguments =
      if matcher.accepts arguments then some ⟨history.length, matcher, outcomes⟩
      else history.decisive? arguments := by
  rw [decisive?, declared_append keeps, declared, List.find?_cons]
  split <;> simp_all [decisive?]

/-- No rule decides anything that is still to be declared. -/
theorem decisive?_ne_next (rule : DeclaredRule) (next : rule.index = history.length)
    (arguments : Arguments) : history.decisive? arguments ≠ some rule := by
  intro decisive
  have := index_lt_of_mem_declared (List.mem_of_find?_eq_some decisive)
  omega

end History

/-! ## Tokens -/

/-- Within a mock members are told apart by their labels. -/
theorem Mock.memberLabel_inj {mock : Mock} {name other : String}
    (same : mock.memberLabel name = mock.memberLabel other) : name = other := by
  rw [memberLabel, memberLabel] at same
  exact (String.append_right_inj _).1 same

/-- Whether the call goes on as the history has it. -/
def Stage.AnswersAs (stage : Stage) (history : History) (id : MockId) (name : String)
    (arguments : Arguments) : Prop :=
  ∃ mock m outcome, stage.At id name mock m ∧
    history.outcome? m.spec.result arguments = some outcome ∧
    (stage.begin (.call id name arguments)).1 = outcome.progress arguments

namespace Token

variable {token : Token} {id target : MockId} {name member : String} {steps : List Step}
  {stage : Stage} {outcomes : List Outcome} {mock : Mock} {m : MockMember}

/-- The rule with the outcomes that is declared with the token behind the steps. -/
def rule (token : Token) (id : MockId) (name : String) (steps : List Step)
    (outcomes : List Outcome) : DeclaredRule :=
  ⟨(historyOf id name steps).length, .exact token.arguments, outcomes⟩

/-- The step in which it is declared. -/
def declaration (token : Token) (id : MockId) (name : String) (outcomes : List Outcome) : Step :=
  ⟨.declare id name (.rehearsed token) outcomes, .finished (.ok .done)⟩

/-- Which calls are decided by a rule that was declared with the token when the history was as it
    was before, and goes on as it is now on the stage. -/
structure Decides (token : Token) (rule : DeclaredRule) (before history : History) (id : MockId)
    (name : String) (stage : Stage) : Prop where
  /-- The call that was rehearsed is. -/
  itself : history.decisive? token.arguments = some rule
  /-- So are the calls that are like it, and no others. -/
  like : ∀ {arguments : Arguments}, arguments.Numeric →
    (history.decisive? arguments = some rule ↔ token.arguments.Alike arguments)
  /-- All others are decided as they were before. -/
  unlike : ∀ {arguments : Arguments}, arguments.Numeric → ¬ token.arguments.Alike arguments →
    history.decisive? arguments = before.decisive? arguments
  /-- Calls go on as the rules have it that decide them. -/
  answers : ∀ {arguments : Arguments},
    (stage.begin (.call id name arguments)).1.accepted = true →
    stage.AnswersAs history id name arguments

/-- What can be done with a token of the member on a stage that the steps have led to. -/
structure Bound (token : Token) (id : MockId) (name : String) (steps : List Step)
    (stage : Stage) : Prop where
  /-- It is refused by every other member, on the same mock or on any other one. -/
  foreign : ∀ {target member mock m}, stage.At target member mock m →
    m.spec.kind.isCallable = true → ¬ (target = id ∧ member = name) →
    ∀ outcomes, stage.begin (.declare target member (.rehearsed token) outcomes) =
      (.finished (.error (.rehearsalMismatch (mock.memberLabel member) token.member)), stage)
  /-- On its own member a rule is declared with it, if there are outcomes and their values are of
      the declared type. -/
  own : ∀ {mock m}, stage.At id name mock m → m.spec.kind.isCallable = true →
    ∀ outcomes, outcomes ≠ [] →
    (∀ value, .value value ∈ outcomes →
      Ty.acceptsDeclared mock.settings.coercion m.spec.result value = true) →
    (stage.begin (.declare id name (.rehearsed token) outcomes)).1 = .finished (.ok .done)
  /-- As long as no newer rule is declared and none is forgotten, that rule decides the calls that
      are like the rehearsed one. -/
  decides : ∀ {outcomes later last},
    (stage.begin (.declare id name (.rehearsed token) outcomes)).1 = .finished (.ok .done) →
    (stage.begin (.declare id name (.rehearsed token) outcomes)).2.Performs later last →
    (historyOf id name later).KeepsRules → token.arguments.Numeric →
    token.Decides (token.rule id name steps outcomes) (historyOf id name steps)
      (historyOf id name (later.reverse ++ token.declaration id name outcomes :: steps)) id name
      last

/-- A declaration with a token is refused where the token is not one of the member. -/
theorem begin_declare_foreign (h : stage.WellFormed) (found : stage.At target member mock m)
    (callable : m.spec.kind.isCallable = true)
    (foreign : ¬ (token.mock = mock.id ∧ token.member = mock.memberLabel member)) :
    stage.begin (.declare target member (.rehearsed token) outcomes) =
      (.finished (.error (.rehearsalMismatch (mock.memberLabel member) token.member)), stage) := by
  obtain ⟨records, rules, state⟩ := h.exists_rules found callable
  simp only [Stage.begin, Stage.declare, Mock.declare, found.1, found.2, state, Stage.ok_bind,
    Mock.matcherOf, if_neg foreign, Stage.error_bind, Except.map, Stage.settled_error]

/-- And it is accepted where the token is one of the member, if the outcomes are in order. -/
theorem begin_declare_own (h : stage.WellFormed) (found : stage.At target member mock m)
    (callable : m.spec.kind.isCallable = true) (some : outcomes ≠ [])
    (own : token.mock = mock.id ∧ token.member = mock.memberLabel member)
    (typed : ∀ value, .value value ∈ outcomes →
      Ty.acceptsDeclared mock.settings.coercion m.spec.result value = true) :
    (stage.begin (.declare target member (.rehearsed token) outcomes)).1 =
      .finished (.ok .done) := by
  obtain ⟨records, rules, state⟩ := h.exists_rules found callable
  have faultless : outcomes.findSome? (mock.outcomeFault? m) = none := by
    refine List.findSome?_eq_none_iff.2 fun outcome mem => ?_
    cases outcome with
    | value value =>
      have accepts : (mock.bindingOf m).Accepts value := typed value mem
      exact CellBinding.fault?_eq_none_iff.2 accepts
    | failure error => rfl
    | function f => rfl
  obtain ⟨next, rest, rfl⟩ := List.exists_cons_of_ne_nil some
  simp only [Stage.begin, Stage.declare, Mock.declare, found.1, found.2, state, Stage.ok_bind,
    Mock.matcherOf, if_pos own, faultless, OutcomeQueue.ofList?]
  rfl

/-- A rule that was declared with a token decides as the token says. -/
theorem decides_of_session (session : Session steps stage)
    (declared : (stage.begin (.declare id name (.rehearsed token) outcomes)).1 =
      .finished (.ok .done)) {later : List Step} {last : Stage}
    (performs : (stage.begin (.declare id name (.rehearsed token) outcomes)).2.Performs later last)
    (keeps : (historyOf id name later).KeepsRules) (numeric : token.arguments.Numeric) :
    token.Decides (token.rule id name steps outcomes) (historyOf id name steps)
      (historyOf id name (later.reverse ++ token.declaration id name outcomes :: steps)) id name
      last := by
  have begun := session.step (.declare id name (.rehearsed token) outcomes)
  rw [declared] at begun
  have explained := (begun.performs performs).explained id name
  have told : (token.declaration id name outcomes).happening? id name =
      some (.declared (.exact token.arguments) outcomes) := by
    simp [declaration, Step.happening?, Stage.Progress.accepted, Pattern.matcher]
  -- Histories are newest first, so what happened later stands before the declaration.
  have keeps : (historyOf id name later.reverse).KeepsRules := by
    intro happening mem
    rw [historyOf, List.filterMap_reverse, List.mem_reverse] at mem
    exact keeps happening mem
  have latest : ∀ arguments,
      (historyOf id name (later.reverse ++ token.declaration id name outcomes :: steps)).decisive?
        arguments = if token.arguments.same arguments then some (token.rule id name steps outcomes)
        else (historyOf id name steps).decisive? arguments := by
    intro arguments
    rw [historyOf_append, historyOf_cons, told]
    exact History.decisive?_latest keeps _ _ _
  constructor
  case itself => rw [latest, if_pos (Arguments.equivalentOn_numeric.refl numeric)]
  case like =>
    intro arguments numeric'
    rw [latest, ← Arguments.decidesOn_numeric numeric numeric']
    split
    · next same => exact iff_of_true rfl same
    · next other => exact iff_of_false (History.decisive?_ne_next _ rfl _) other
  case unlike =>
    intro arguments numeric' unlike
    rw [latest, if_neg fun same => unlike ((Arguments.decidesOn_numeric numeric numeric').1 same)]
  case answers => exact Stage.resolved_of_explained explained

/-- A token that names the mock and the label of a member is bound to it. -/
theorem bound_of_session (session : Session steps stage) (own : token.mock = id)
    (label : ∀ mock, stage.mock id = .ok mock → token.member = mock.memberLabel name) :
    token.Bound id name steps stage := by
  have h := session.wellFormed
  constructor
  case foreign =>
    intro target member mock m found callable different outcomes
    refine begin_declare_foreign h found callable ?_
    -- The same mock and the same label make the same member.
    rintro ⟨same, labelled⟩
    obtain rfl : target = id := by rw [← h.id_eq found.1, ← same, own]
    rw [label mock found.1] at labelled
    exact different ⟨rfl, (Mock.memberLabel_inj labelled).symm⟩
  case own =>
    intro mock m found callable outcomes some typed
    exact begin_declare_own h found callable some
      ⟨own.trans (h.id_eq found.1).symm, label mock found.1⟩ typed
  case decides => exact fun declared performs keeps numeric =>
    decides_of_session session declared performs keeps numeric

end Token

/-- Every member can be rehearsed with any arguments, which changes nothing. The token stays bound
    to the member of the mock for the rest of the session: other members refuse it, whatever their
    labels are, and on its own member a rule can be declared with it for the calls that are like the
    rehearsed one. -/
theorem Session.rehearsed {steps : List Step} {stage : Stage} {id : MockId} {name : String}
    {mock : Mock} {m : MockMember} (session : Session steps stage)
    (found : stage.At id name mock m) (arguments : Arguments) :
    ∃ token, stage.rehearse id name arguments = .ok token ∧
      token = ⟨id, mock.memberLabel name, arguments⟩ ∧ ∀ {more after},
        stage.Performs more after → token.Bound id name (more.reverse ++ steps) after := by
  refine ⟨⟨id, mock.memberLabel name, arguments⟩, ?_, rfl, fun {more after} performs => ?_⟩
  · simp only [Stage.rehearse, found.1, found.2, Stage.ok_bind]
  · obtain ⟨mock', there, alike⟩ := performs.keeps session.wellFormed found.1
    refine Token.bound_of_session (session.performs performs) rfl fun k here => ?_
    obtain rfl := Except.ok.inj (here.symm.trans there)
    rw [Mock.memberLabel, Mock.memberLabel, alike.label]

/-- A session with two mocks of one name. -/
def Sample.namesakes : List Operation :=
  [.createMock ⟨0, philosopherSurface⟩ (.named (some "Zeno")),
    .createMock ⟨0, philosopherSurface⟩ (.named (some "Zeno"))]

/-- The label of the token is that of the member of the other mock, which refuses it all the
    same. -/
theorem Session.rehearsed_namesakes :
    ∃ token, (performed Sample.namesakes).2.rehearse ⟨0⟩ "think" (.ofList [.str "justice"]) =
        .ok token ∧
      token.Bound ⟨0⟩ "think" (performed Sample.namesakes).1 (performed Sample.namesakes).2 ∧
      ((performed Sample.namesakes).2.begin
        (.declare ⟨1⟩ "think" (.rehearsed token) [.value (.str "hm")])).1 =
          .finished (.error (.rehearsalMismatch token.member token.member)) := by
  have here : (performed Sample.namesakes).2.At ⟨0⟩ "think" _ _ := ⟨rfl, rfl⟩
  have there : (performed Sample.namesakes).2.At ⟨1⟩ "think" _ _ := ⟨rfl, rfl⟩
  obtain ⟨token, rehearsed, rfl, bound⟩ :=
    (Session.of_performed Sample.namesakes).rehearsed here (.ofList [.str "justice"])
  have bound := bound (Stage.performs_nil.2 rfl)
  refine ⟨_, rehearsed, bound, ?_⟩
  rw [bound.foreign there rfl (by decide)]
  rfl

end Understudy
