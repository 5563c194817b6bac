import Understudy.Proofs.Stage.Effect
import Understudy.Sample.Surfaces
import Understudy.Stage.Run

/-!
# Sessions

A session begins on the empty stage and consists of operations that are begun one after the other,
in any order and on anything. The operations that a function performs are steps like all others,
behind the step that made the function run; so a session is also what running operations to their
ends comes down to.

* `Session.run`: running an operation to its end continues the session by steps.
* `Session.wellFormed`: on every stage of a session the mocks are numbered by their places, their
  members are those of their surfaces, and each has a state of its kind.
-/

namespace Understudy

/-- Whether the state is one of a member of the kind. -/
def MemberState.Fits : MemberState → MemberKind → Prop
  | .callable _ _, kind => kind.isCallable = true
  | .field _, kind => kind = .field
  | .property _ _, kind => kind = .property

theorem MemberState.fresh_fits (kind : MemberKind) : (fresh kind).Fits kind := by
  cases kind <;> rfl

theorem MemberState.reset_fits {state : MemberState} {kind : MemberKind} (h : state.Fits kind) :
    state.reset.Fits kind := by
  cases state <;> exact h

/-- The members of the mock are those of its surface, each in a state of its kind. -/
structure Mock.WellFormed (mock : Mock) : Prop where
  declared : mock.members.map (·.spec) = mock.surface.value.members
  fits : ∀ m ∈ mock.members, m.state.Fits m.spec.kind

namespace Mock.WellFormed

variable {mock : Mock} {name : String} {state : MemberState} {m : MockMember}

theorem create (id : MockId) (surface : Shared Surface) (settings : Settings) :
    (Mock.create id surface settings).WellFormed := by
  constructor
  · simp [Mock.create, Function.comp_def]
  · intro m mem
    obtain ⟨spec, _, rfl⟩ := List.mem_map.1 mem
    exact MemberState.fresh_fits spec.kind

/-- No two members have one name. -/
theorem distinct (h : mock.WellFormed) :
    mock.members.Pairwise fun m n => m.spec.name ≠ n.spec.name := by
  have := mock.surface.value.sound.distinct
  rw [← h.declared, List.pairwise_map] at this
  exact this

theorem setState (h : mock.WellFormed) (hm : mock.member name = .ok m)
    (fits : state.Fits m.spec.kind) : (mock.setState name state).WellFormed := by
  obtain ⟨before, after, split, changed⟩ := Mock.setState_members h.distinct hm
  constructor
  · rw [Mock.setState_surface, ← h.declared, changed, split]
    simp
  · intro k mem
    rw [changed] at mem
    have old := split ▸ h.fits
    simp only [List.mem_append, List.mem_cons] at mem old
    rcases mem with mem | rfl | mem
    · exact old k (.inl mem)
    · exact fits
    · exact old k (.inr (.inr mem))

theorem advance (h : mock.WellFormed) : mock.advance.WellFormed := ⟨h.declared, h.fits⟩

theorem reset (h : mock.WellFormed) : mock.reset.WellFormed := by
  constructor
  · rw [Mock.reset_surface, ← h.declared]
    simp [Mock.reset, Function.comp_def]
  · intro k mem
    obtain ⟨m, old, rfl⟩ := List.mem_map.1 mem
    exact MemberState.reset_fits (h.fits m old)

end Mock.WellFormed

/-- Every mock is numbered by its place and is well formed. -/
def Stage.WellFormed (stage : Stage) : Prop :=
  ∀ (i : Nat) (mock : Mock), stage.mocks[i]? = some mock → mock.id.index = i ∧ mock.WellFormed

namespace Stage.WellFormed

variable {stage : Stage} {id : MockId} {name : String} {mock old : Mock} {m : MockMember}
  {state : MemberState}

theorem empty : Stage.empty.WellFormed :=
  fun _ _ found => absurd found (by simp [Stage.empty])

theorem id_eq (h : stage.WellFormed) (hmock : stage.mock id = .ok mock) : mock.id = id := by
  have index := (h _ _ (mock_eq_ok_iff.1 hmock)).1
  cases id
  cases hid : mock.id
  simp_all

theorem of_mock (h : stage.WellFormed) (hmock : stage.mock id = .ok mock) : mock.WellFormed :=
  (h _ _ (mock_eq_ok_iff.1 hmock)).2

/-- It is a matter of the mocks only. -/
theorem of_mocks_eq {after : Stage} (h : stage.WellFormed) (same : after.mocks = stage.mocks) :
    after.WellFormed :=
  fun i k found => h i k (same ▸ found)

/-- The mocks behind a change of the mock of the id. -/
theorem mock_putMock (h : stage.WellFormed) (there : stage.mock id = .ok old) (mock : Mock)
    (same : mock.id = old.id) (other : MockId) :
    (stage.putMock mock).mock other = if other = id then .ok mock else stage.mock other := by
  have own : mock.id = id := same.trans (h.id_eq there)
  rw [Stage.mock_putMock (own ▸ there), own]

/-- The states of members behind a change of the mock of the id. -/
theorem stateOf?_putMock (h : stage.WellFormed) (there : stage.mock id = .ok old) (mock : Mock)
    (same : mock.id = old.id) {other : MockId} :
    (stage.putMock mock).stateOf? other name =
      if other = id then mock.stateOf? name else stage.stateOf? other name := by
  have own : mock.id = id := same.trans (h.id_eq there)
  rw [Stage.stateOf?_putMock (own ▸ there), own]

theorem putMock (h : stage.WellFormed) (there : stage.mock id = .ok old)
    (same : mock.id = old.id) (hmock : mock.WellFormed) : (stage.putMock mock).WellFormed := by
  have own : mock.id = id := same.trans (h.id_eq there)
  intro i k found
  rw [getElem?_putMock (own ▸ there)] at found
  split at found
  · next place =>
    obtain rfl := Option.some.inj found
    exact ⟨place.symm, hmock⟩
  · exact h i k found

theorem createMock (h : stage.WellFormed) (surface : Shared Surface) (settings : Settings) :
    (stage.createMock surface settings).2.WellFormed := by
  intro i k found
  simp only [Stage.createMock, List.getElem?_append] at found
  split at found
  · exact h i k found
  · rw [List.getElem?_singleton] at found
    split at found
    · obtain rfl := Option.some.inj found
      exact ⟨by simp only [Mock.create]; omega, .create _ _ _⟩
    · cases found

/-- The state of a member fits its kind. -/
theorem fits (h : stage.WellFormed) (found : stage.At id name mock m) (hstate : m.state = state) :
    state.Fits m.spec.kind :=
  hstate ▸ (h.of_mock found.1).fits m (Mock.mem_of_member found.2)

/-- A callable member has rules. -/
theorem exists_rules (h : stage.WellFormed) (found : stage.At id name mock m)
    (callable : m.spec.kind.isCallable = true) :
    ∃ records rules, m.state = .callable records rules := by
  have fits := h.fits found rfl
  cases state : m.state with
  | callable records rules => exact ⟨records, rules, rfl⟩
  | field value =>
    rw [state] at fits
    rw [show m.spec.kind = .field from fits] at callable
    cases callable
  | property cell records =>
    rw [state] at fits
    rw [show m.spec.kind = .property from fits] at callable
    cases callable

/-- A member may get another state of the kinds that its state is one of. -/
theorem setState (h : stage.WellFormed) (found : stage.At id name mock m)
    (keeps : ∀ kind, m.state.Fits kind → state.Fits kind) :
    (stage.putMock (mock.setState name state)).WellFormed ∧
      (stage.putMock (mock.setState name state).advance).WellFormed := by
  have changed := (h.of_mock found.1).setState found.2 (keeps _ (h.fits found rfl))
  exact ⟨h.putMock found.1 rfl changed, h.putMock found.1 rfl changed.advance⟩

end Stage.WellFormed

/-- What an operation keeps. -/
theorem Stage.Effect.wellFormed {stage after : Stage} {operation : Operation} {progress : Progress}
    (effect : Effect stage operation progress after) (h : stage.WellFormed) : after.WellFormed := by
  cases effect with
  | refused | readField | peek | records => exact h
  | createMock => exact h.createMock _ _
  -- Cells are no part of it.
  | createCell | write | writeBacked => exact h.of_mocks_eq rfl
  | call found state =>
    exact (h.setState found (by rw [state]; exact fun _ fits => fits)).2
  | readProperty found state =>
    exact (h.setState found (by rw [state]; exact fun _ fits => fits)).2
  | writeField found state =>
    exact (h.setState found (by rw [state]; exact fun _ fits => fits)).1
  | declare found state =>
    exact (h.setState found (by rw [state]; exact fun _ fits => fits)).1
  | @writeUnbacked _ _ _ _ _ _ cell found state =>
    have behind : (stage.createCell cell).2.WellFormed := h.of_mocks_eq rfl
    exact (behind.setState found (by rw [state]; exact fun _ fits => fits)).1
  | @attach _ _ cellId _ _ _ _ _ cell found state =>
    have behind : (stage.putCell cellId cell).WellFormed := h.of_mocks_eq rfl
    exact (behind.setState found (by rw [state]; exact fun _ fits => fits)).1
  | reset hmock => exact h.putMock hmock rfl (h.of_mock hmock).reset

/-- An operation that was run is over when it has begun, or lets a function run to its value. -/
theorem Stage.run_cases {depth : Nat} {operation : Operation} {stage after : Stage}
    {answer : Answer} (h : stage.run depth operation = some (answer, after)) :
    stage.begin operation = (.finished answer, after) ∨
      ∃ deeper script between value, depth = deeper + 1 ∧
        stage.begin operation = (.running script, between) ∧
        script.run (Stage.run deeper) between = some (value, after) ∧
        answer = .ok (.value value) := by
  unfold Stage.run at h
  split at h
  · next reply between finished =>
    obtain ⟨rfl, rfl⟩ := Prod.mk.inj (Option.some.inj h)
    exact .inl finished
  · cases h
  · next script between deeper running =>
    obtain ⟨⟨value, last⟩, ran, same⟩ := Option.map_eq_some_iff.1 h
    obtain ⟨rfl, rfl⟩ := Prod.mk.inj same
    exact .inr ⟨deeper, script, between, value, rfl, running, ran, rfl⟩

/-- A step of a session: an operation, and how far its beginning came. -/
structure Step where
  /-- The operation. -/
  operation : Operation
  /-- Its answer, or what still has to run. -/
  progress : Stage.Progress

/-- The steps of a session, the latest at the head, and the stage they lead to. -/
inductive Session : List Step → Stage → Prop
  | start : Session [] .empty
  | step {steps : List Step} {stage : Stage} (operation : Operation) : Session steps stage →
      Session (⟨operation, (stage.begin operation).1⟩ :: steps) (stage.begin operation).2

/-- The steps and the stage that operations lead to, the latest operation at the head. -/
def performed : List Operation → List Step × Stage
  | [] => ([], .empty)
  | operation :: before =>
    let (steps, stage) := performed before
    let (progress, after) := stage.begin operation
    (⟨operation, progress⟩ :: steps, after)

namespace Session

variable {steps : List Step} {stage after : Stage}

theorem of_performed (operations : List Operation) :
    Session (performed operations).1 (performed operations).2 := by
  induction operations with
  | nil => exact .start
  | cons operation before ih => exact ih.step operation

/-- Operations may be begun in any order, and what comes of them is settled. -/
theorem iff_performed :
    Session steps stage ↔ ∃ operations, performed operations = (steps, stage) := by
  constructor
  · intro session
    induction session with
    | start => exact ⟨[], rfl⟩
    | step operation _ ih =>
      obtain ⟨operations, before⟩ := ih
      refine ⟨operation :: operations, ?_⟩
      rw [performed, before]
  · rintro ⟨operations, same⟩
    have session := Session.of_performed operations
    rwa [same] at session

theorem wellFormed (session : Session steps stage) : stage.WellFormed := by
  induction session with
  | start => exact .empty
  | @step _ stage operation _ ih => exact (stage.begin_effect operation).wellFormed ih

/-- If operations continue a session by steps, so does a script that performs them. -/
theorem script {perform : Operation → Stage → Option (Answer × Stage)}
    (continues : ∀ {steps stage after operation answer}, Session steps stage →
      perform operation stage = some (answer, after) → ∃ more, Session (more ++ steps) after) :
    ∀ (script : Script) {steps : List Step} {stage after : Stage} {value : Value},
      Session steps stage → script.run perform stage = some (value, after) →
        ∃ more, Session (more ++ steps) after
  | .settle _, steps, stage, after, _, session, h => by
    obtain ⟨_, rfl⟩ := Prod.mk.inj (Option.some.inj h)
    exact ⟨[], session⟩
  | .perform operation next, steps, stage, after, _, session, h => by
    obtain ⟨⟨answer, between⟩, first, rest⟩ := Option.bind_eq_some_iff.1 h
    obtain ⟨more, session⟩ := continues session first
    obtain ⟨last, session⟩ := Session.script continues (next answer) session rest
    exact ⟨last ++ more, by rwa [List.append_assoc]⟩

/-- Running an operation to its end is its beginning followed by the steps of the functions that
    run for it. -/
theorem run {operation : Operation} {answer : Answer} (depth : Nat) (session : Session steps stage)
    (h : stage.run depth operation = some (answer, after)) :
    ∃ nested, Session (nested ++ ⟨operation, (stage.begin operation).1⟩ :: steps) after := by
  induction depth generalizing operation answer stage after steps with
  | zero =>
    rcases Stage.run_cases h with finished | ⟨_, _, _, _, deep, _⟩
    · have begun := session.step operation
      rw [finished] at begun ⊢
      exact ⟨[], begun⟩
    · cases deep
  | succ depth ih =>
    have begun := session.step operation
    rcases Stage.run_cases h with finished | ⟨_, script, between, value, deep, running, ran, _⟩
    · rw [finished] at begun ⊢
      exact ⟨[], begun⟩
    · obtain rfl := Nat.succ.inj deep
      rw [running] at begun ⊢
      refine Session.script (fun session h => ?_) script begun ran
      obtain ⟨nested, session⟩ := ih session h
      exact ⟨nested ++ [_], by rwa [List.append_assoc]⟩

end Session

/-- A session with a mock that is called twice between two rules: once without a rule, and once
    for the first of two outcomes. -/
def Sample.dialogue : List Operation :=
  [.call ⟨0⟩ "think" (.ofList [.str "justice"]),
    .declare ⟨0⟩ "think" .anyCall [.value (.str "hm"), .value (.str "aha")],
    .call ⟨0⟩ "think" (.ofList [.str "virtue"]),
    .createMock ⟨0, philosopherSurface⟩ (.named none)]

end Understudy
