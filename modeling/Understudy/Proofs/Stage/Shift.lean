import Understudy.Proofs.Stage.Numbering

/-!
# Shifted numbers

The numbers of the records of a mock may all be moved up by a constant, and the number of its next
record with them: nothing that an operation does depends on numbers. So what comes of operations
on a stage with shifted numbers is what comes of them on the stage itself, but for the numbers of
the records that are told.

* `Stage.begin_shift`: one operation on a stage with shifted numbers.
* `Stage.perform_shift`: any number of operations, one after the other.
-/

namespace Understudy

/-- The record under a number that is larger by a constant. -/
def Record.shift (gap : UInt64) (record : Record) : Record :=
  { record with seq := record.seq + gap }

/-- The state with larger numbers of records. -/
def MemberState.shift (gap : UInt64) : MemberState → MemberState
  | .callable records rules => .callable (records.map (·.shift gap)) rules
  | .field value => .field value
  | .property cell records => .property cell (records.map (·.shift gap))

/-- The member with larger numbers of records. -/
def MockMember.shift (gap : UInt64) (m : MockMember) : MockMember :=
  { m with state := m.state.shift gap }

/-- By how much the numbers of each mock are shifted. -/
abbrev Gaps := MockId → UInt64

/-- The mock with larger numbers of records. -/
def Mock.shift (gaps : Gaps) (mock : Mock) : Mock :=
  { mock with
    members := mock.members.map (·.shift (gaps mock.id))
    nextSeq := mock.nextSeq + gaps mock.id }

/-- The stage with larger numbers of records. -/
def Stage.shift (gaps : Gaps) (stage : Stage) : Stage :=
  { stage with mocks := stage.mocks.map (·.shift gaps) }

/-- The reply with larger numbers, if it tells records. -/
def Reply.shift (gap : UInt64) : Reply → Reply
  | .records member told => .records member (told.map (·.shift gap))
  | reply => reply

/-- By how much the numbers in the answer to the operation are shifted. Only records have numbers,
    and they are asked of one mock. -/
def Operation.gap (gaps : Gaps) : Operation → UInt64
  | .records id _ => gaps id
  | _ => 0

/-- The progress with larger numbers in the answer. -/
def Stage.Progress.shift (gap : UInt64) : Stage.Progress → Stage.Progress
  | .finished answer => .finished (answer.map (·.shift gap))
  | .running script => .running script

/-- The step with larger numbers in its answer. -/
def Step.shift (gaps : Gaps) (step : Step) : Step :=
  { step with progress := step.progress.shift (step.operation.gap gaps) }

/-! ## No shift at all -/

theorem Record.shift_zero (record : Record) : record.shift 0 = record := by
  rw [shift, UInt64.add_zero]

theorem Record.map_shift_zero (records : List Record) : records.map (·.shift 0) = records := by
  simp only [shift_zero, List.map_id']

theorem MemberState.shift_zero (state : MemberState) : state.shift 0 = state := by
  cases state <;> simp only [shift, Record.map_shift_zero]

theorem Mock.shift_zero {gaps : Gaps} {mock : Mock} (h : gaps mock.id = 0) :
    mock.shift gaps = mock := by
  simp only [shift, h, UInt64.add_zero, MockMember.shift, MemberState.shift_zero, List.map_id']

theorem Reply.shift_zero (reply : Reply) : reply.shift 0 = reply := by
  cases reply <;> simp only [shift, Record.map_shift_zero]

theorem Stage.Progress.shift_zero (progress : Stage.Progress) : progress.shift 0 = progress := by
  rcases progress with (fault | reply) | script
  · rfl
  · exact congrArg (fun reply => finished (.ok reply)) (Reply.shift_zero reply)
  · rfl

/-! ## Members -/

theorem MemberState.records_shift (gap : UInt64) (state : MemberState) :
    (state.shift gap).records = state.records.map (·.shift gap) := by
  cases state <;> rfl

theorem MemberState.reset_shift (gap : UInt64) (state : MemberState) :
    (state.shift gap).reset = state.reset.shift gap := by
  cases state <;> rfl

@[simp] theorem MockMember.shift_spec (gap : UInt64) (m : MockMember) :
    (m.shift gap).spec = m.spec := rfl

@[simp] theorem MockMember.shift_state (gap : UInt64) (m : MockMember) :
    (m.shift gap).state = m.state.shift gap := rfl

/-! ## Mocks -/

namespace Mock

variable {gaps : Gaps} {mock : Mock} {name : String}

@[simp] theorem shift_id : (mock.shift gaps).id = mock.id := rfl
@[simp] theorem shift_settings : (mock.shift gaps).settings = mock.settings := rfl

@[simp] theorem shift_memberLabel : (mock.shift gaps).memberLabel name = mock.memberLabel name :=
  rfl

theorem shift_member :
    (mock.shift gaps).member name = (mock.member name).map (·.shift (gaps mock.id)) := by
  have found := find?_map_state name (·.shift (gaps mock.id)) (fun _ => rfl) mock.members
  rw [member, member, shift, found]
  cases mock.members.find? (·.spec.name == name) <;> rfl

theorem shift_setState (state : MemberState) :
    (mock.shift gaps).setState name (state.shift (gaps mock.id)) =
      (mock.setState name state).shift gaps := by
  simp only [setState, shift, List.map_map]
  congr 1
  refine List.map_congr_left fun m _ => ?_
  simp only [Function.comp_apply, MockMember.shift]
  split <;> rfl

theorem shift_advance : (mock.shift gaps).advance = mock.advance.shift gaps := by
  have next : mock.nextSeq + gaps mock.id + 1 = mock.nextSeq + 1 + gaps mock.id := by
    rw [UInt64.add_assoc, UInt64.add_comm (gaps mock.id), UInt64.add_assoc]
  simp only [advance, shift, next]

theorem shift_reset : (mock.shift gaps).reset = mock.reset.shift gaps := by
  simp only [reset, shift, List.map_map]
  congr 1
  refine List.map_congr_left fun m _ => ?_
  simp only [Function.comp_apply, MockMember.shift, MemberState.reset_shift]

/-- The state behind a record, with larger numbers. -/
theorem shift_records (records : List Record) (arguments : Arguments) :
    records.map (·.shift (gaps mock.id)) ++ [(mock.shift gaps).recordOf arguments] =
      (records ++ [mock.recordOf arguments]).map (·.shift (gaps mock.id)) := by
  rw [List.map_append]
  rfl

theorem shift_acceptCall (arguments : Arguments) :
    (mock.shift gaps).acceptCall name arguments =
      (mock.acceptCall name arguments).map fun result => (result.1, result.2.shift gaps) := by
  simp only [acceptCall, shift_member]
  rcases mock.member name with fault | m
  · rfl
  · simp only [Except.map, Stage.ok_bind, MockMember.shift_spec, MockMember.shift_state]
    cases m.state with
    | callable records rules =>
      simp only [MemberState.shift, shift_settings, shift_memberLabel, shift_records]
      cases m.spec.mismatch? mock.settings.coercion arguments with
      | some mismatch => rfl
      | none =>
        simp only
        rw [← shift_advance, ← shift_setState]
        rfl
    | field value => rfl
    | property cell records => rfl

theorem shift_matcherOf (pattern : Pattern) :
    (mock.shift gaps).matcherOf name pattern = mock.matcherOf name pattern := by
  cases pattern <;> rfl

theorem shift_outcomeFault? (gap : UInt64) (m : MockMember) :
    (mock.shift gaps).outcomeFault? (m.shift gap) = mock.outcomeFault? m := by
  funext outcome
  cases outcome <;> rfl

theorem shift_fieldFault? (gap : UInt64) (m : MockMember) :
    (mock.shift gaps).fieldFault? (m.shift gap) = mock.fieldFault? m := rfl

theorem shift_bindingOf (gap : UInt64) (m : MockMember) :
    (mock.shift gaps).bindingOf (m.shift gap) = mock.bindingOf m := rfl

theorem shift_declare (pattern : Pattern) (outcomes : List Outcome) :
    (mock.shift gaps).declare name pattern outcomes =
      (mock.declare name pattern outcomes).map (·.shift gaps) := by
  simp only [declare, shift_member]
  rcases mock.member name with fault | m
  · rfl
  · simp only [Except.map, Stage.ok_bind, shift_outcomeFault?, shift_matcherOf, shift_memberLabel,
      MockMember.shift_state]
    cases m.state with
    | callable records rules =>
      simp only [MemberState.shift]
      rcases mock.matcherOf name pattern with fault | matcher
      · rfl
      · simp only [Stage.ok_bind]
        rcases outcomes.findSome? (mock.outcomeFault? m) with _ | fault
        · rcases OutcomeQueue.ofList? outcomes with _ | queue
          · rfl
          · simp only
            rw [← shift_setState]
            rfl
        · rfl
    | field value => rfl
    | property cell records => rfl

end Mock

/-! ## Stages -/

namespace Stage

variable {gaps : Gaps} {stage : Stage} {id : MockId} {name : String} {mock : Mock} {m : MockMember}

theorem shift_mock : (stage.shift gaps).mock id = (stage.mock id).map (·.shift gaps) := by
  rw [Stage.mock, Stage.mock, shift, List.getElem?_map]
  cases stage.mocks[id.index]? <;> rfl

@[simp] theorem shift_cell (id : CellId) : (stage.shift gaps).cell id = stage.cell id := rfl

theorem shift_putMock (mock : Mock) :
    (stage.shift gaps).putMock (mock.shift gaps) = (stage.putMock mock).shift gaps := by
  simp only [putMock, shift, Mock.shift_id, List.map_set]

theorem shift_createMock (surface : Shared Surface) (settings : Settings)
    (new : gaps ⟨stage.mocks.length⟩ = 0) :
    (stage.shift gaps).createMock surface settings =
      ((stage.createMock surface settings).1,
        (stage.createMock surface settings).2.shift gaps) := by
  have unshifted : (Mock.create ⟨stage.mocks.length⟩ surface settings).shift gaps =
      Mock.create ⟨stage.mocks.length⟩ surface settings := by
    simp only [Mock.shift, Mock.create, new, UInt64.add_zero, List.map_map]
    congr 1
    refine List.map_congr_left fun spec _ => ?_
    simp only [Function.comp_apply, MockMember.shift]
    cases spec.kind <;> rfl
  simp only [createMock, shift, List.length_map, List.map_append, List.map_cons, List.map_nil,
    unshifted]

theorem shift_beginCall (arguments : Arguments) :
    (stage.shift gaps).beginCall id name arguments =
      (stage.beginCall id name arguments).map fun result => (result.1, result.2.shift gaps) := by
  simp only [beginCall, shift_mock]
  rcases stage.mock id with fault | mock
  · rfl
  · simp only [Except.map, ok_bind, Mock.shift_acceptCall]
    rcases mock.acceptCall name arguments with fault | ⟨outcome, after⟩
    · rfl
    · simp only [ok_bind, shift_putMock]

theorem shift_get :
    (stage.shift gaps).get id name =
      (stage.get id name).map fun result => (result.1, result.2.shift gaps) := by
  simp only [get, shift_mock]
  rcases stage.mock id with fault | mock
  · rfl
  · simp only [Except.map, ok_bind, Mock.shift_member]
    rcases mock.member name with fault | m
    · rfl
    · simp only [ok_bind, MockMember.shift_state]
      cases m.state with
      | callable records rules => rfl
      | field value => cases value <;> rfl
      | property cellId records =>
        rcases cellId with _ | cellId
        · rfl
        · simp only [MemberState.shift, shift_cell, Mock.shift_records]
          rcases stage.cell cellId with fault | cell
          · rfl
          · simp only [ok_bind]
            rw [← shift_putMock, ← Mock.shift_advance, ← Mock.shift_setState]
            rfl

theorem shift_write (id : CellId) (value : Value) :
    (stage.shift gaps).write id value = (stage.write id value).map (·.shift gaps) := by
  simp only [write, shift_cell]
  rcases stage.cell id with fault | cell
  · rfl
  · simp only [ok_bind]
    rcases cell.write value with fault | after <;> rfl

theorem shift_set (value : Value) :
    (stage.shift gaps).set id name value = (stage.set id name value).map (·.shift gaps) := by
  simp only [set, shift_mock]
  rcases stage.mock id with fault | mock
  · rfl
  · simp only [Except.map, ok_bind, Mock.shift_member]
    rcases mock.member name with fault | m
    · rfl
    · simp only [ok_bind, MockMember.shift_state]
      cases m.state with
      | callable records rules => rfl
      | field old =>
        simp only [MemberState.shift, Mock.shift_fieldFault?]
        rcases mock.fieldFault? m value with _ | fault
        · simp only
          rw [← shift_putMock, ← Mock.shift_setState]
          rfl
        · rfl
      | property cellId records =>
        rcases cellId with _ | cellId
        · simp only [MemberState.shift, Mock.shift_bindingOf]
          rcases (Cell.ofValue value).bind (mock.bindingOf m) with fault | cell
          · rfl
          · simp only [ok_bind]
            rw [← shift_putMock, ← Mock.shift_setState]
            rfl
        -- A property that has a cell writes to that.
        · exact shift_write cellId value

theorem shift_declare (pattern : Pattern) (outcomes : List Outcome) :
    (stage.shift gaps).declare id name pattern outcomes =
      (stage.declare id name pattern outcomes).map (·.shift gaps) := by
  simp only [declare, shift_mock]
  rcases stage.mock id with fault | mock
  · rfl
  · simp only [Except.map, ok_bind, Mock.shift_declare]
    rcases mock.declare name pattern outcomes with fault | after
    · rfl
    · simp only [ok_bind, shift_putMock]

theorem shift_attach (cellId : CellId) :
    (stage.shift gaps).attach id name cellId =
      (stage.attach id name cellId).map (·.shift gaps) := by
  simp only [attach, shift_mock]
  rcases stage.mock id with fault | mock
  · rfl
  · simp only [Except.map, ok_bind, Mock.shift_member]
    rcases mock.member name with fault | m
    · rfl
    · simp only [ok_bind, MockMember.shift_state]
      cases m.state with
      | callable records rules => rfl
      | field old => rfl
      | property old records =>
        simp only [MemberState.shift, Mock.shift_bindingOf, shift_cell]
        rcases stage.cell cellId with fault | cell
        · rfl
        · simp only [ok_bind]
          rcases cell.bind (mock.bindingOf m) with fault | after
          · rfl
          · simp only [ok_bind]
            rw [← shift_putMock, ← Mock.shift_setState]
            rfl

theorem shift_records (h : stage.WellFormed) :
    (stage.shift gaps).records id name =
      (stage.records id name).map fun told => (told.1, told.2.map (·.shift (gaps id))) := by
  simp only [records, shift_mock]
  rcases hmock : stage.mock id with fault | mock
  · rfl
  · simp only [Except.map, ok_bind, Mock.shift_member]
    rcases mock.member name with fault | m
    · rfl
    · simp only [ok_bind, MockMember.shift_state, MemberState.records_shift, Mock.shift_memberLabel,
        h.id_eq hmock]

theorem shift_rehearse (arguments : Arguments) :
    (stage.shift gaps).rehearse id name arguments = stage.rehearse id name arguments := by
  simp only [rehearse, shift_mock]
  rcases stage.mock id with fault | mock
  · rfl
  · simp only [Except.map, ok_bind, Mock.shift_member]
    rcases mock.member name with fault | m <;> rfl

/-! ## Steps -/

/-- An operation that answers no records is the same step on the shifted stage. -/
theorem begin_settled {operation : Operation} {result shifted : Except Fault (Reply × Stage)}
    (here : stage.begin operation = stage.settled result)
    (there : (stage.shift gaps).begin operation = (stage.shift gaps).settled shifted)
    (same : shifted = result.map fun done => (done.1, done.2.shift gaps))
    (plain : operation.gap gaps = 0) :
    (stage.shift gaps).begin operation =
      ((stage.begin operation).1.shift (operation.gap gaps),
        (stage.begin operation).2.shift gaps) := by
  rw [here, there, same, plain, Progress.shift_zero]
  rcases result with fault | ⟨reply, after⟩ <;> rfl

/-- An operation on the shifted stage is the same step but for the numbers. A mock that is made by
    it is not shifted. -/
theorem begin_shift (h : stage.WellFormed) (new : gaps ⟨stage.mocks.length⟩ = 0)
    (operation : Operation) :
    (stage.shift gaps).begin operation =
      ((stage.begin operation).1.shift (operation.gap gaps),
        (stage.begin operation).2.shift gaps) := by
  cases operation with
  | createMock surface settings =>
    simp only [begin, shift_createMock surface settings new]
    rfl
  | createCell value => rfl
  | call id name arguments =>
    simp only [begin, shift_beginCall, Operation.gap, Progress.shift_zero]
    rcases stage.beginCall id name arguments with fault | ⟨outcome, after⟩ <;> rfl
  | get id name =>
    refine begin_settled rfl rfl ?_ rfl
    rw [shift_get]
    rcases stage.get id name with fault | done <;> rfl
  | set id name value =>
    refine begin_settled rfl rfl ?_ rfl
    rw [shift_set]
    rcases stage.set id name value with fault | after <;> rfl
  | declare id name pattern outcomes =>
    refine begin_settled rfl rfl ?_ rfl
    rw [shift_declare]
    rcases stage.declare id name pattern outcomes with fault | after <;> rfl
  | attach id name cellId =>
    refine begin_settled rfl rfl ?_ rfl
    rw [shift_attach]
    rcases stage.attach id name cellId with fault | after <;> rfl
  | write id value =>
    refine begin_settled rfl rfl ?_ rfl
    rw [shift_write]
    rcases stage.write id value with fault | after <;> rfl
  | peek id =>
    refine begin_settled rfl rfl ?_ rfl
    rw [shift_cell]
    rcases stage.cell id with fault | cell <;> rfl
  | records id name =>
    simp only [begin, shift_records h]
    rcases stage.records id name with fault | told <;> rfl
  | reset id =>
    refine begin_settled rfl rfl ?_ rfl
    rw [shift_mock]
    rcases stage.mock id with fault | mock
    · rfl
    · simp only [Except.map, Mock.shift_reset, shift_putMock]

/-- No operation takes a mock away. -/
theorem Effect.length_le {operation : Operation} {progress : Progress} {after : Stage}
    (effect : Effect stage operation progress after) :
    stage.mocks.length ≤ after.mocks.length := by
  rcases effect.mocks with ⟨_, _, _, mocks⟩ | same
  · rw [mocks, List.length_append]
    exact Nat.le_add_right _ _
  · exact Nat.le_of_eq same.symm

/-- What is known of a stage for a shift: mocks that are still to be made are not shifted. -/
structure Shiftable (stage : Stage) (gaps : Gaps) : Prop where
  wellFormed : stage.WellFormed
  later : ∀ id : MockId, stage.mocks.length ≤ id.index → gaps id = 0

theorem Shiftable.begin (h : stage.Shiftable gaps) (operation : Operation) :
    (stage.begin operation).2.Shiftable gaps := by
  have effect := stage.begin_effect operation
  exact ⟨effect.wellFormed h.wellFormed, fun id bound =>
    h.later id (Nat.le_trans effect.length_le bound)⟩

/-- The steps that operations are on a stage, one after the other, and the stage they lead to. -/
def perform (stage : Stage) : List Operation → List Step × Stage
  | [] => ([], stage)
  | operation :: later =>
    let (progress, after) := stage.begin operation
    let (steps, last) := after.perform later
    (⟨operation, progress⟩ :: steps, last)

theorem Shiftable.perform (h : stage.Shiftable gaps) (operations : List Operation) :
    (stage.perform operations).2.Shiftable gaps := by
  induction operations generalizing stage with
  | nil => exact h
  | cons operation later ih => exact ih (h.begin operation)

/-- Operations on the shifted stage are the same steps but for the numbers. -/
theorem perform_shift (operations : List Operation) (h : stage.Shiftable gaps) :
    (stage.shift gaps).perform operations =
      ((stage.perform operations).1.map (·.shift gaps),
        (stage.perform operations).2.shift gaps) := by
  induction operations generalizing stage with
  | nil => rfl
  | cons operation later ih =>
    have first := begin_shift h.wellFormed (h.later _ (Nat.le_refl _)) operation
    simp only [perform, first, ih (h.begin operation), List.map_cons, Step.shift]

end Stage

end Understudy
