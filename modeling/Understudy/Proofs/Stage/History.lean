import Understudy.Proofs.Stage.Session

/-!
# What happened to a member

Seen from one member, a session is a history: rules were declared on it, it was called, it was
read, its mock was reset. What was refused did not happen, and what happened to other members is
no part of it. The history of a member is told by what was asked and answered alone, without a
look at the stage.

* `Stage.Effect.moves`: an operation changes the state of a member only as its history tells, apart
  from what is written to a field or attached to a property.
-/

namespace Understudy

/-- What may happen to a member and leave a trace in its rules or records. -/
inductive Happening where
  /-- A rule was declared. -/
  | declared (matcher : Matcher) (outcomes : List Outcome)
  /-- It was called, and the call was accepted. -/
  | called (arguments : Arguments)
  /-- It was read. -/
  | read
  /-- Its mock was reset. -/
  | forgotten

/-- All that happened to a member, the latest at the head. -/
abbrev History := List Happening

/-- Whether the stage did not refuse the operation. An error of the test is no refusal. -/
def Stage.Progress.accepted : Stage.Progress → Bool
  | .finished (.error fault) => fault.isRaised
  | .finished (.ok _) | .running _ => true

/-- What happened to the member in the step, if anything. -/
def Step.happening? (id : MockId) (name : String) (step : Step) : Option Happening :=
  match step.operation with
  | .call target member arguments =>
    if target = id ∧ member = name ∧ step.progress.accepted then some (.called arguments) else none
  | .get target member =>
    if target = id ∧ member = name ∧ step.progress.accepted then some .read else none
  | .declare target member pattern outcomes =>
    if target = id ∧ member = name ∧ step.progress.accepted then
      some (.declared pattern.matcher outcomes)
    else none
  | .reset target => if target = id ∧ step.progress.accepted then some .forgotten else none
  | _ => none

/-- The history of the member of the given name on the mock of the given id. -/
def historyOf (id : MockId) (name : String) (steps : List Step) : History :=
  steps.filterMap (·.happening? id name)

theorem historyOf_cons (id : MockId) (name : String) (step : Step) (steps : List Step) :
    historyOf id name (step :: steps) =
      (step.happening? id name).toList ++ historyOf id name steps := by
  rw [historyOf, List.filterMap_cons]
  cases step.happening? id name <;> rfl

theorem historyOf_append (id : MockId) (name : String) (more steps : List Step) :
    historyOf id name (more ++ steps) = historyOf id name more ++ historyOf id name steps :=
  List.filterMap_append

/-- The rules behind a call. -/
def Rules.after (arguments : Arguments) (rules : Rules) : Rules :=
  ((rules.draw arguments).map (·.2)).getD rules

theorem MockMember.draw_snd (m : MockMember) (rules : Rules) (arguments : Arguments) :
    (m.draw rules arguments).2 = rules.after arguments := by
  unfold draw Rules.after
  cases rules.draw arguments <;> rfl

/-- How the state of a member moves while something happens to it, or nothing that its history
    tells. -/
inductive MemberState.Moves : Option MemberState → Option Happening → Option MemberState → Prop
  | stays {state : Option MemberState} : Moves state none state
  | made {kind : MemberKind} : Moves none none (some (.fresh kind))
  | called {records : List Record} {rules : Rules} {record : Record} {arguments : Arguments} :
      record.arguments = arguments →
      Moves (some (.callable records rules)) (some (.called arguments))
        (some (.callable (records ++ [record]) (rules.after arguments)))
  | declared {records : List Record} {rules : Rules} {matcher : Matcher} {outcomes : List Outcome}
      {queue : OutcomeQueue} : OutcomeQueue.ofList? outcomes = some queue →
      Moves (some (.callable records rules)) (some (.declared matcher outcomes))
        (some (.callable records (⟨matcher, queue⟩ :: rules)))
  | readField {value : Option Value} :
      Moves (some (.field value)) (some .read) (some (.field value))
  | readProperty {cell : Option CellId} {records : List Record} {record : Record} :
      record.arguments = .empty →
      Moves (some (.property cell records)) (some .read)
        (some (.property cell (records ++ [record])))
  | written {old new : Option Value} : Moves (some (.field old)) none (some (.field new))
  | attached {old new : Option CellId} {records : List Record} :
      Moves (some (.property old records)) none (some (.property new records))
  | forgotten {state : Option MemberState} :
      Moves state (some .forgotten) (state.map (·.reset))

namespace Stage

variable {stage : Stage} {id target : MockId} {name member : String} {mock : Mock} {m : MockMember}
  {state : MemberState}

/-- A new state of a member is found where it was put, and all else is as it was. -/
theorem stateOf?_setState (h : stage.WellFormed) (found : stage.At target member mock m) :
    (stage.putMock (mock.setState member state)).stateOf? id name =
      if target = id ∧ member = name then some state else stage.stateOf? id name := by
  rw [h.stateOf?_putMock found.1 (mock.setState member state) rfl, Mock.stateOf?_setState found.2]
  by_cases sameMock : id = target
  · subst sameMock
    rw [stateOf?_of_mock found.1]
    simp [eq_comm]
  · simp [sameMock, Ne.symm sameMock]

/-- So it is if the next number moved on as well. -/
theorem stateOf?_advance (h : stage.WellFormed) (found : stage.At target member mock m) :
    (stage.putMock (mock.setState member state).advance).stateOf? id name =
      if target = id ∧ member = name then some state else stage.stateOf? id name := by
  rw [← stateOf?_setState h found, h.stateOf?_putMock found.1 (mock.setState member state) rfl,
    h.stateOf?_putMock found.1 (mock.setState member state).advance rfl]
  rfl

theorem stateOf?_reset (h : stage.WellFormed) (hmock : stage.mock target = .ok mock) :
    (stage.putMock mock.reset).stateOf? id name =
      if target = id then (stage.stateOf? id name).map (·.reset)
      else stage.stateOf? id name := by
  rw [h.stateOf?_putMock hmock mock.reset rfl, Mock.stateOf?_reset]
  by_cases same : target = id
  · subst same
    rw [if_pos rfl, if_pos rfl, stateOf?_of_mock hmock]
  · rw [if_neg same, if_neg (Ne.symm same)]

/-- A change of the state of one member moves no other. -/
theorem moves_of_change (happening : Option Happening) (found : stage.At target member mock m)
    (here : MemberState.Moves (some m.state) happening (some state))
    {after : Option MemberState} {told : Option Happening}
    (tells : told = if target = id ∧ member = name then happening else none)
    (put : after = if target = id ∧ member = name then some state else stage.stateOf? id name) :
    MemberState.Moves (stage.stateOf? id name) told after := by
  rw [tells, put]
  by_cases same : target = id ∧ member = name
  · obtain ⟨rfl, rfl⟩ := same
    rw [stateOf?_of_at found]
    simpa using here
  · rw [if_neg same, if_neg same]
    exact .stays

theorem accepted_progress (outcome : Outcome) (arguments : Arguments) :
    (outcome.progress arguments).accepted = true := by
  cases outcome <;> rfl

/-- An operation that is refused leaves no trace in any history. -/
theorem happening?_refused {operation : Operation} {fault : Fault}
    (engine : fault.isRaised = false) :
    Step.happening? id name ⟨operation, .finished (.error fault)⟩ = none := by
  cases operation <;> simp [Step.happening?, Progress.accepted, engine]

/-- A call that is accepted is one of a callable member, and passes the checks. -/
theorem Effect.at_of_accepted {arguments : Arguments} {progress : Progress} {after : Stage}
    (effect : Effect stage (.call id name arguments) progress after)
    (accepted : progress.accepted = true) :
    ∃ mock m records rules, stage.At id name mock m ∧ m.state = .callable records rules ∧
      m.spec.mismatch? mock.settings.coercion arguments = none := by
  cases effect with
  | refused engine =>
    rw [Progress.accepted, engine] at accepted
    cases accepted
  | call found state fits => exact ⟨_, _, _, _, found, state, fits⟩

/-- The calls of a callable member that are accepted are those that pass the checks. -/
theorem accepted_call_iff (h : stage.WellFormed) (found : stage.At id name mock m)
    (callable : m.spec.kind.isCallable = true) (arguments : Arguments) :
    (stage.begin (.call id name arguments)).1.accepted = true ↔
      m.spec.mismatch? mock.settings.coercion arguments = none := by
  constructor
  · intro accepted
    obtain ⟨mock', m', _, _, found', _, fits⟩ :=
      (stage.begin_effect (.call id name arguments)).at_of_accepted accepted
    obtain ⟨rfl, rfl⟩ := found.unique found'
    exact fits
  · intro fits
    obtain ⟨records, rules, state⟩ := h.exists_rules found callable
    rw [begin_call_of_fits found state fits]
    exact accepted_progress _ _

/-- Only calls let scripts run. -/
theorem Effect.exists_call {operation : Operation} {progress : Progress} {after : Stage}
    {script : Script} (effect : Effect stage operation progress after)
    (running : progress = .running script) :
    ∃ id name arguments, operation = .call id name arguments := by
  cases effect with
  | call => exact ⟨_, _, _, rfl⟩
  | refused | createMock | createCell | readField | readProperty | writeField | writeBacked
  | writeUnbacked | declare | attach | write | peek | records | reset => cases running

/-- A call that lets a script run draws a function, and the script is what that makes of the
    arguments. -/
theorem begin_of_running {arguments : Arguments} {script : Script}
    (drawn : (stage.begin (.call id name arguments)).1 = .running script) :
    ∃ mock m records rules f, stage.At id name mock m ∧ m.state = .callable records rules ∧
      (m.draw rules arguments).1 = .function f ∧ script = f arguments ∧
      (stage.begin (.call id name arguments)).2 = stage.putMock (mock.setState name
        (.callable (records ++ [mock.recordOf arguments]) (rules.after arguments))).advance := by
  obtain ⟨mock, m, records, rules, found, state, fits⟩ :=
    (stage.begin_effect (.call id name arguments)).at_of_accepted (by rw [drawn]; rfl)
  rw [begin_call_of_fits found state fits] at drawn ⊢
  cases outcome : (m.draw rules arguments).1 with
  | value | failure =>
    rw [outcome] at drawn
    cases drawn
  | function f =>
    rw [outcome] at drawn
    refine ⟨mock, m, records, rules, f, found, state, outcome, ?_, ?_⟩
    · exact (Progress.running.inj drawn).symm
    · rw [MockMember.draw_snd]

/-- A call that is answered at once draws the value that it answers. -/
theorem begin_of_answered {arguments : Arguments} {reply : Reply}
    (drawn : (stage.begin (.call id name arguments)).1 = .finished (.ok reply)) :
    ∃ mock m records rules value, stage.At id name mock m ∧ m.state = .callable records rules ∧
      (m.draw rules arguments).1 = .value value ∧ reply = .value value := by
  obtain ⟨mock, m, records, rules, found, state, fits⟩ :=
    (stage.begin_effect (.call id name arguments)).at_of_accepted (by rw [drawn]; rfl)
  rw [begin_call_of_fits found state fits] at drawn
  cases outcome : (m.draw rules arguments).1 with
  | value value =>
    rw [outcome] at drawn
    refine ⟨mock, m, records, rules, value, found, state, outcome, ?_⟩
    exact (Except.ok.inj (Progress.finished.inj drawn)).symm
  | failure | function =>
    rw [outcome] at drawn
    cases drawn

/-- Only the call of a mock that exists is replied to, and the reply is a value. -/
theorem mock_of_replied {arguments : Arguments} {depth : Nat} {reply : Reply} {after : Stage}
    (ran : stage.run depth (.call id name arguments) = some (.ok reply, after)) :
    ∃ mock value, stage.mock id = .ok mock ∧ reply = .value value := by
  rcases run_cases ran with finished | ⟨_, script, between, value, -, running, -, replied⟩
  · have answered : (stage.begin (.call id name arguments)).1 = .finished (.ok reply) := by
      rw [finished]
    obtain ⟨mock, m, _, _, value, found, -, -, rfl⟩ := begin_of_answered answered
    exact ⟨mock, value, found.1, rfl⟩
  · have drawn : (stage.begin (.call id name arguments)).1 = .running script := by rw [running]
    obtain ⟨mock, m, _, _, f, found, -⟩ := begin_of_running drawn
    exact ⟨mock, value, found.1, Except.ok.inj replied⟩

/-- The readings that are accepted are those that give a value. -/
theorem Effect.accepted_get_iff {progress : Progress} {after : Stage}
    (effect : Effect stage (.get id name) progress after) :
    progress.accepted = true ↔ ∃ value, progress = .finished (.ok (.value value)) := by
  cases effect with
  | refused engine => simp [Progress.accepted, engine]
  | readField => exact ⟨fun _ => ⟨_, rfl⟩, fun _ => rfl⟩
  | readProperty => exact ⟨fun _ => ⟨_, rfl⟩, fun _ => rfl⟩

/-- An operation moves the state of every member as its history tells. -/
theorem Effect.moves {operation : Operation} {progress : Progress} {after : Stage}
    (effect : Effect stage operation progress after) (h : stage.WellFormed) (id : MockId)
    (name : String) :
    MemberState.Moves (stage.stateOf? id name) (Step.happening? id name ⟨operation, progress⟩)
      (after.stateOf? id name) := by
  cases effect with
  | refused engine =>
    rw [happening?_refused engine]
    exact .stays
  | createCell | write | peek | records => exact .stays
  | @createMock surface settings =>
    rcases stage.stateOf?_createMock surface settings id name with same | ⟨absent, kind, fresh⟩
    · exact same ▸ .stays
    · exact absent ▸ fresh ▸ .made
  | @call target member arguments _ _ _ _ found state =>
    refine moves_of_change (some (.called arguments)) found ?_ ?_ (stateOf?_advance h found)
    · rw [state, MockMember.draw_snd]
      exact .called rfl
    · simp [Step.happening?, accepted_progress]
  | @readField _ _ _ _ value found state =>
    -- Reading a field is told of it although it leaves no trace, so no state is put anywhere.
    have here : MemberState.Moves (some (.field (some value))) (some .read)
        (some (.field (some value))) := .readField
    rw [← state] at here
    refine moves_of_change (some .read) found here ?_ ?_
    · simp [Step.happening?, Progress.accepted]
    · split
      · next same =>
        obtain ⟨rfl, rfl⟩ := same
        exact stateOf?_of_at found
      · rfl
  | readProperty found state =>
    refine moves_of_change (some .read) found ?_ ?_ (stateOf?_advance h found)
    · rw [state]
      exact .readProperty rfl
    · simp [Step.happening?, Progress.accepted]
  | writeField found state =>
    refine moves_of_change none found ?_ ?_ (stateOf?_setState h found)
    · rw [state]
      exact .written
    · simp [Step.happening?]
  | writeBacked => exact .stays
  | @writeUnbacked _ _ _ _ _ _ cell found state =>
    -- Stages with the same mocks have the same states of members.
    have behind : (stage.createCell cell).2.WellFormed := h.of_mocks_eq rfl
    refine moves_of_change none found ?_ ?_ (stateOf?_setState behind found)
    · rw [state]
      exact .attached
    · simp [Step.happening?]
  | @declare _ _ pattern outcomes _ _ _ _ _ found state _ _ queued =>
    refine moves_of_change (some (.declared pattern.matcher outcomes)) found ?_ ?_
      (stateOf?_setState h found)
    · rw [state]
      exact .declared queued
    · simp [Step.happening?, Progress.accepted]
  | @attach _ _ cellId _ _ _ _ _ cell found state =>
    have behind : (stage.putCell cellId cell).WellFormed := h.of_mocks_eq rfl
    refine moves_of_change none found ?_ ?_ (stateOf?_setState behind found)
    · rw [state]
      exact .attached
    · simp [Step.happening?]
  | @reset target mock hmock =>
    rw [stateOf?_reset h hmock]
    by_cases same : target = id
    · subst same
      simpa [Step.happening?, Progress.accepted] using MemberState.Moves.forgotten
    · simpa [Step.happening?, same] using MemberState.Moves.stays

end Stage

/-- What holds before anything happened, and is kept by every move, holds of the histories and
    states of all members on every stage of a session. -/
theorem Session.of_moves {P : History → Option MemberState → Prop} (start : P [] none)
    (move : ∀ {history before happening after}, MemberState.Moves before happening after →
      P history before → P (happening.toList ++ history) after)
    {steps : List Step} {stage : Stage} (session : Session steps stage) (id : MockId)
    (name : String) : P (historyOf id name steps) (stage.stateOf? id name) := by
  induction session with
  | start => exact start
  | step operation session ih =>
    rw [historyOf_cons]
    exact move ((Stage.begin_effect _ operation).moves session.wellFormed id name) ih

end Understudy
