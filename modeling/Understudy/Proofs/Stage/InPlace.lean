import Understudy.Proofs.Stage.History
import Understudy.Stage.InPlace

/-!
# In place, and with the old stage kept

An operation that is carried out in place comes to the same as one that is worked out beside the
old stage. On a refusal that is a matter of order: every check has to stand before the first
change. The reading of a property is the exception, as its cell is looked up behind the record;
that cell is always there, as no stage of a session has a property without its cell.

* `Session.backed`: a property of a stage of a session is backed by a cell of that stage.
* `Session.inPlace_eq`: on every stage of a session both ways of carrying out an operation agree.
-/

namespace Understudy

namespace Mock

variable {mock : Mock} {name : String} {m : MockMember}

theorem setState_setState (mock : Mock) (name : String) (first second : MemberState) :
    (mock.setState name first).setState name second = mock.setState name second := by
  rw [setState, setState, setState, List.map_map]
  congr 1
  refine List.map_congr_left fun m _ => ?_
  by_cases named : m.spec.name = name <;> simp [named]

/-- The member is found with its new state. -/
theorem member_setState (hm : mock.member name = .ok m) (state : MemberState) :
    (mock.setState name state).member name = .ok { m with state } := by
  rw [member_eq_ok_iff] at hm ⊢
  rw [setState, find?_map_state _ _ (by intro m; split <;> rfl), hm, Option.map_some]
  simp [name_of_member (member_eq_ok_iff.2 hm)]

end Mock

namespace Stage

theorem putCell_self {stage : Stage} {id : CellId} {cell : Cell} (h : stage.cell id = .ok cell) :
    stage.putCell id cell = stage := by
  obtain ⟨bound, here⟩ := List.getElem?_eq_some_iff.1 (cell_eq_ok_iff.1 h)
  rw [putCell, ← here, List.set_getElem_self]

theorem putMock_putMock (stage : Stage) (first second : Mock) (same : first.id = second.id) :
    (stage.putMock first).putMock second = stage.putMock second := by
  simp [putMock, same]

end Stage

namespace Action

variable {α β : Type} {stage : Stage} {id : MockId} {name : String} {mock : Mock}
  {m : MockMember} {fault : Fault}

/-! ## Single actions -/

theorem bind_apply (action : Action α) (next : α → Action β) (stage : Stage) :
    (action >>= next) stage = match action stage with
      | (.ok a, after) => next a after
      | (.error fault, after) => (.error fault, after) := by
  simp only [Bind.bind, ExceptT.bind, ExceptT.mk, StateT.bind, ExceptT.bindCont]
  rcases action stage with ⟨_ | _, _⟩ <;> rfl

theorem pure_apply (a : α) (stage : Stage) : (pure a : Action α) stage = (.ok a, stage) := rfl

theorem look_apply (f : Stage → Except Fault α) (stage : Stage) :
    look f stage = (f stage, stage) := rfl

theorem change_apply (f : Stage → Stage) (stage : Stage) : change f stage = (.ok (), f stage) := rfl

theorem refuse_none (stage : Stage) : refuse none stage = (.ok (), stage) := rfl

/-- Checks one after the other fail with the first fault, and change nothing. -/
theorem forM_refuse (fault? : α → Option Fault) (items : List α) (stage : Stage) :
    (items.forM fun item => refuse (fault? item)) stage =
      (match items.findSome? fault? with
        | some fault => .error fault
        | none => .ok (), stage) := by
  induction items with
  | nil => rfl
  | cons item items ih =>
    rw [List.forM, bind_apply, List.findSome?_cons]
    cases fault? item with
    | none => exact ih
    | some fault => rfl

theorem mock_of (hmock : stage.mock id = .ok mock) : Action.mock id stage = (.ok mock, stage) := by
  rw [Action.mock, look_apply, hmock]

theorem member_of (found : stage.At id name mock m) : member id name stage = (.ok m, stage) := by
  simp only [member, bind_apply, mock_of found.1, look_apply, found.2]

theorem put_of (hmock : stage.mock id = .ok mock) (state : MemberState) :
    put id name state stage = (.ok (), stage.putMock (mock.setState name state)) := by
  simp only [put, bind_apply, mock_of hmock, change_apply]

/-- A record is made at once, although its number is taken before. -/
theorem record_of (h : stage.WellFormed) (found : stage.At id name mock m)
    (arguments : Arguments) :
    record id name arguments stage = (.ok (), stage.putMock
      (mock.setState name (m.state.append (mock.recordOf arguments))).advance) := by
  have advanced : (stage.putMock mock.advance).At id name mock.advance m := by
    refine ⟨?_, found.2⟩
    rw [h.mock_putMock found.1 mock.advance rfl, if_pos rfl]
  simp only [record, takeSeq, bind_apply, mock_of found.1, change_apply, pure_apply,
    member_of advanced, put_of advanced.1]
  exact congrArg (Prod.mk _) (stage.putMock_putMock mock.advance
    (mock.advance.setState name (m.state.append (mock.recordOf arguments))) rfl)

/-- Behind a change the member is found with its new state. -/
theorem at_putMock (h : stage.WellFormed) (found : stage.At id name mock m)
    (state : MemberState) :
    (stage.putMock (mock.setState name state).advance).At id name
      (mock.setState name state).advance { m with state } := by
  refine ⟨?_, Mock.member_setState found.2 state⟩
  rw [h.mock_putMock found.1 (mock.setState name state).advance rfl, if_pos rfl]

/-- A call that was let through leaves the rules behind the draw. -/
theorem draw_of (found : stage.At id name mock m) {records : List Record}
    {rules : Rules} (state : m.state = .callable records rules) (arguments : Arguments) :
    draw id name arguments stage = (.ok (m.draw rules arguments).1, stage.putMock
      (mock.setState name (.callable records (m.draw rules arguments).2))) := by
  simp only [draw, bind_apply, mock_of found.1, member_of found, state, put_of found.1, pure_apply,
    MockMember.draw]

/-- The state of a member tells whether it is callable. -/
theorem callable_of (h : stage.WellFormed) (found : stage.At id name mock m) :
    callable id name stage = (match m.state with
      | .callable _ _ => .ok m
      | _ => .error (mock.wrongKind m .callable), stage) := by
  simp only [callable, bind_apply, mock_of found.1, member_of found]
  cases state : m.state with
  | callable records rules =>
    rw [show m.spec.kind.isCallable = true from h.fits found state]
    rfl
  | field value =>
    rw [show m.spec.kind = .field from h.fits found state]
    rfl
  | property cell records =>
    rw [show m.spec.kind = .property from h.fits found state]
    rfl

end Action

/-! ## Properties and their cells -/

namespace Stage

variable {stage : Stage} {id : MockId} {name : String} {mock : Mock} {m : MockMember}
  {operation : Operation}

/-- Whether the state of a member refers to a cell of the stage only. -/
def Backs (stage : Stage) : Option MemberState → Prop
  | some (.property (some cellId) _) => cellId.index < stage.cells.length
  | _ => True

/-- Whether every property that has a cell has one of the stage. -/
def Backed (stage : Stage) : Prop :=
  ∀ (id : MockId) (name : String), stage.Backs (stage.stateOf? id name)

theorem Backed.of_at (backed : stage.Backed) (found : stage.At id name mock m)
    {state : MemberState} (here : m.state = state) : stage.Backs (some state) := by
  rw [← here, ← stateOf?_of_at found]
  exact backed id name

/-- A stage with more cells backs what was backed. -/
theorem Backs.mono {after : Stage} (more : stage.cells.length ≤ after.cells.length)
    {state : Option MemberState} (h : stage.Backs state) : after.Backs state := by
  rcases state with _ | _ | _ | ⟨_ | cellId, _⟩
  · trivial
  · trivial
  · trivial
  · trivial
  · exact Nat.lt_of_lt_of_le h more

theorem Backs.reset {state : Option MemberState} (h : stage.Backs state) :
    stage.Backs (state.map (·.reset)) := by
  rcases state with _ | _ | _ | ⟨_ | cellId, _⟩
  · trivial
  · trivial
  · trivial
  · trivial
  · exact h

/-- A new state of a member has to be backed itself. -/
theorem Backed.setState (h : stage.WellFormed) (backed : stage.Backed)
    (found : stage.At id name mock m) {state : MemberState} (here : stage.Backs (some state)) :
    (stage.putMock (mock.setState name state)).Backed ∧
      (stage.putMock (mock.setState name state).advance).Backed := by
  constructor
  · intro other member
    change stage.Backs _
    rw [stateOf?_setState h found]
    split
    · exact here
    · exact backed other member
  · intro other member
    change stage.Backs _
    rw [stateOf?_advance h found]
    split
    · exact here
    · exact backed other member

/-- What an operation keeps. -/
theorem Effect.backed {progress : Progress} {after : Stage}
    (effect : Effect stage operation progress after) (h : stage.WellFormed)
    (backed : stage.Backed) : after.Backed := by
  cases effect with
  | refused | readField | peek | records => exact backed
  | @createMock surface settings =>
    intro id name
    change stage.Backs ((stage.createMock surface settings).2.stateOf? id name)
    rcases stage.stateOf?_createMock surface settings id name with same | ⟨_, kind, fresh⟩
    · exact same ▸ backed id name
    · rw [fresh]
      cases kind <;> trivial
  | createCell => exact fun id name => (backed id name).mono (by simp)
  | write | writeBacked => exact fun id name => (backed id name).mono (by simp [putCell])
  | call found =>
    refine (backed.setState h found ?_).2
    trivial
  | readProperty found state =>
    have here := backed.of_at found state
    refine (backed.setState h found ?_).2
    exact here
  | writeField found =>
    refine (backed.setState h found ?_).1
    trivial
  | declare found =>
    refine (backed.setState h found ?_).1
    trivial
  | @writeUnbacked _ _ _ _ _ _ cell found =>
    have behind : (stage.createCell cell).2.WellFormed := h.of_mocks_eq rfl
    -- The cell is there before the property gets it.
    have more : (stage.createCell cell).2.Backed :=
      fun id name => (backed id name).mono (by simp [Stage.createCell])
    refine (more.setState behind found ?_).1
    simp [Backs, Stage.createCell]
  | @attach _ _ cellId _ _ _ _ _ cell found _ hcell =>
    have behind : (stage.putCell cellId cell).WellFormed := h.of_mocks_eq rfl
    have same : (stage.putCell cellId cell).Backed :=
      fun id name => (backed id name).mono (by simp [putCell])
    refine (same.setState behind found ?_).1
    simpa [Backs, putCell] using (List.getElem?_eq_some_iff.1 (cell_eq_ok_iff.1 hcell)).1
  | reset hmock =>
    intro id name
    change stage.Backs _
    rw [stateOf?_reset h hmock]
    split
    · exact (backed id name).reset
    · exact backed id name

end Stage

/-- Every stage of a session backs its properties. -/
theorem Session.backed {steps : List Step} {stage : Stage} (session : Session steps stage) :
    stage.Backed := by
  induction session with
  | start => exact fun _ _ => trivial
  | step operation session ih => exact (Stage.begin_effect _ operation).backed session.wellFormed ih

/-! ## Operations -/

namespace Stage

variable {stage : Stage} {id : MockId} {name : String} {mock : Mock} {m : MockMember}

theorem inPlace_of_unknown {operation : Operation} {fault : Fault}
    (target : operation.target? = some (id, name)) (hmock : stage.mock id = .error fault) :
    stage.inPlace operation = (.finished (.error fault), stage) := by
  have failed : Action.mock id stage = (.error fault, stage) := by
    rw [Action.mock, Action.look_apply, hmock]
  cases operation <;>
    simp only [Operation.target?, reduceCtorEq, Option.some.injEq, Prod.mk.injEq] at target <;>
    obtain ⟨rfl, rfl⟩ := target <;>
    simp only [inPlace, Action.settle, Action.call, Action.callable, Action.get, Action.set,
      Action.declare, Action.attach, Action.ask, Action.bind_apply, failed]

theorem inPlace_of_missing {operation : Operation} {fault : Fault}
    (target : operation.target? = some (id, name)) (hmock : stage.mock id = .ok mock)
    (hm : mock.member name = .error fault) :
    stage.inPlace operation = (.finished (.error fault), stage) := by
  have failed : Action.member id name stage = (.error fault, stage) := by
    simp only [Action.member, Action.bind_apply, Action.mock_of hmock, Action.look_apply, hm]
  cases operation <;>
    simp only [Operation.target?, reduceCtorEq, Option.some.injEq, Prod.mk.injEq] at target <;>
    obtain ⟨rfl, rfl⟩ := target <;>
    simp only [inPlace, Action.settle, Action.call, Action.callable, Action.get, Action.set,
      Action.declare, Action.attach, Action.ask, Action.bind_apply, Action.mock_of hmock, failed]

/-- Both ways refuse an operation on what is not there. -/
theorem inPlace_eq_of_at {operation : Operation} (target : operation.target? = some (id, name))
    (present : ∀ mock m, stage.At id name mock m →
      stage.inPlace operation = stage.begin operation) :
    stage.inPlace operation = stage.begin operation := by
  rcases hmock : stage.mock id with fault | mock
  · rw [inPlace_of_unknown target hmock, begin_of_unknown target hmock]
  · rcases hm : mock.member name with fault | m
    · rw [inPlace_of_missing target hmock hm, begin_of_missing target hmock hm]
    · exact present mock m ⟨hmock, hm⟩

theorem inPlace_call (h : stage.WellFormed) (arguments : Arguments) :
    stage.inPlace (.call id name arguments) = stage.begin (.call id name arguments) := by
  refine inPlace_eq_of_at rfl fun mock m found => ?_
  simp only [inPlace, Action.settle, Action.call, Action.bind_apply, Action.callable_of h found]
  cases state : m.state with
  | callable records rules =>
    simp only [Action.mock_of found.1]
    rcases fits : m.spec.mismatch? mock.settings.coercion arguments with _ | mismatch
    · rw [begin_call_of_fits found state fits, Option.map_none, Action.refuse_none]
      -- In place the mock is changed three times: its next number, the records of the member, and
      -- its rules. The outcome is drawn from what the first two changes left, which is the same
      -- as what was there before, and the last change covers the ones before it.
      have recorded := Action.at_putMock h found (m.state.append (mock.recordOf arguments))
      have here : m.state.append (mock.recordOf arguments) =
          .callable (records ++ [mock.recordOf arguments]) rules := by rw [state]; rfl
      simp only [Action.record_of h found, Action.draw_of recorded here]
      refine congrArg (Prod.mk _) ?_
      rw [putMock_putMock]
      · exact congrArg (fun last => stage.putMock last.advance) (mock.setState_setState name _ _)
      · rfl
    · rw [begin_call_of_mismatch found state fits]
      rfl
  | field _ | property _ _ =>
    simp only [begin, beginCall, Mock.acceptCall, found.1, found.2, state, ok_bind, error_bind]

theorem inPlace_get (h : stage.WellFormed) (backed : stage.Backed) :
    stage.inPlace (.get id name) = stage.begin (.get id name) := by
  refine inPlace_eq_of_at rfl fun mock m found => ?_
  simp only [inPlace, Action.settle, Action.get, Action.bind_apply, Action.mock_of found.1,
    Action.member_of found, begin, get, found.1, found.2, ok_bind]
  cases state : m.state with
  | callable records rules => rfl
  | field value => cases value <;> rfl
  | property cellId records =>
    rcases cellId with _ | cellId
    · rfl
    · -- The reading is recorded before the cell is looked up, so it matters that there is one:
      -- else a record would stay behind of a reading that failed.
      have there : cellId.index < stage.cells.length := backed.of_at found state
      have hcell : stage.cell cellId = .ok stage.cells[cellId.index] :=
        cell_eq_ok_iff.2 (List.getElem?_eq_getElem there)
      simp only [Action.bind_apply, Action.record_of h found, state, Action.cell,
        Action.look_apply, putMock_cell, hcell, ok_bind]
      rfl

theorem inPlace_write (cellId : CellId) (value : Value) :
    stage.inPlace (.write cellId value) = stage.begin (.write cellId value) := by
  simp only [inPlace, Action.settle, Action.write, Action.cell, Action.bind_apply,
    Action.look_apply, begin, write]
  rcases stage.cell cellId with fault | cell
  · rfl
  · simp only [ok_bind, Action.forM_refuse, Cell.write]
    cases cell.bindings.findSome? (·.fault? value) <;> rfl

theorem inPlace_set (value : Value) :
    stage.inPlace (.set id name value) = stage.begin (.set id name value) := by
  refine inPlace_eq_of_at rfl fun mock m found => ?_
  simp only [inPlace, Action.settle, Action.set, Action.bind_apply, Action.mock_of found.1,
    Action.member_of found, begin, set, found.1, found.2, ok_bind]
  cases state : m.state with
  | callable records rules => rfl
  | field old =>
    simp only [Action.bind_apply]
    rcases mock.fieldFault? m value with _ | fault
    · simp only [Action.refuse_none, Action.put_of found.1]
      rfl
    · rfl
  | property cellId records =>
    rcases cellId with _ | cellId
    · simp only [Action.bind_apply, Action.boundCell, Cell.ofValue, Cell.bind]
      rcases (mock.bindingOf m).fault? value with _ | fault
      · -- A new cell leaves the mocks, so the member is still there when it gets the cell.
        have there : (stage.createCell ⟨value, [mock.bindingOf m]⟩).2.mock id = .ok mock := found.1
        simp only [Action.refuse_none, Action.look_apply, Action.change_apply, Action.pure_apply,
          Action.put_of there]
        rfl
      · rfl
    · exact inPlace_write cellId value

theorem inPlace_declare (h : stage.WellFormed) (pattern : Pattern) (outcomes : List Outcome) :
    stage.inPlace (.declare id name pattern outcomes) =
      stage.begin (.declare id name pattern outcomes) := by
  refine inPlace_eq_of_at rfl fun mock m found => ?_
  simp only [inPlace, Action.settle, Action.declare, Action.bind_apply, Action.callable_of h found,
    begin, declare, Mock.declare, found.1, found.2, ok_bind]
  cases state : m.state with
  | callable records rules =>
    simp only [Action.mock_of found.1, Action.look_apply, Action.forM_refuse]
    rcases mock.matcherOf name pattern with fault | matcher
    · rfl
    · simp only [ok_bind]
      rcases outcomes.findSome? (mock.outcomeFault? m) with _ | fault
      · rcases OutcomeQueue.ofList? outcomes with _ | queue
        · rfl
        · simp only [Action.addRule, Action.bind_apply, Action.mock_of found.1,
            Action.member_of found, state, Action.put_of found.1]
          rfl
      · rfl
  | field _ => rfl
  | property _ _ => rfl

theorem inPlace_attach (cellId : CellId) :
    stage.inPlace (.attach id name cellId) = stage.begin (.attach id name cellId) := by
  refine inPlace_eq_of_at rfl fun mock m found => ?_
  simp only [inPlace, Action.settle, Action.attach, Action.bind_apply, Action.mock_of found.1,
    Action.member_of found, begin, attach, found.1, found.2, ok_bind]
  cases state : m.state with
  | callable records rules => rfl
  | field value => rfl
  | property old records =>
    simp only [Action.bind_apply, Action.bind, Action.cell, Action.look_apply, Cell.bind]
    rcases hcell : stage.cell cellId with fault | cell
    · rfl
    · simp only [ok_bind]
      rcases (mock.bindingOf m).fault? cell.value with _ | fault
      · simp only [Action.refuse_none, Action.change_apply]
        cases cell.bindings.any (·.member == (mock.bindingOf m).member) with
        | true =>
          -- The cell is held to the property already, and is put where it was.
          simp only [if_true, ok_bind, putCell_self hcell, Action.put_of found.1]
          rfl
        | false =>
          have there : (stage.putCell cellId
              { cell with bindings := cell.bindings ++ [mock.bindingOf m] }).mock id = .ok mock :=
            found.1
          simp only [Bool.false_eq_true, if_false, ok_bind, Action.put_of there]
          rfl
      · rfl

/-- On a stage whose properties are backed an operation that is carried out in place does what its
    beginning does. -/
theorem inPlace_eq_begin (h : stage.WellFormed) (backed : stage.Backed) (operation : Operation) :
    stage.inPlace operation = stage.begin operation := by
  cases operation with
  | createMock surface settings => rfl
  | createCell value => rfl
  | call id name arguments => exact inPlace_call h arguments
  | get id name => exact inPlace_get h backed
  | set id name value => exact inPlace_set value
  | declare id name pattern outcomes => exact inPlace_declare h pattern outcomes
  | attach id name cellId => exact inPlace_attach cellId
  | write cellId value => exact inPlace_write cellId value
  | peek cellId =>
    simp only [inPlace, Action.settle, Action.cell, Action.look_apply, begin]
    cases stage.cell cellId <;> rfl
  | records id name =>
    refine inPlace_eq_of_at rfl fun mock m found => ?_
    simp only [inPlace, Action.settle, Action.ask, Action.bind_apply, Action.mock_of found.1,
      Action.member_of found, begin, records, found.1, found.2, ok_bind]
    rfl
  | reset id =>
    simp only [inPlace, Action.settle, Action.reset, Action.bind_apply, Action.mock,
      Action.look_apply, begin]
    cases stage.mock id <;> rfl

end Stage

theorem Session.inPlace_eq {steps : List Step} {stage : Stage} (session : Session steps stage)
    (operation : Operation) : stage.inPlace operation = stage.begin operation :=
  Stage.inPlace_eq_begin session.wellFormed session.backed operation

end Understudy
