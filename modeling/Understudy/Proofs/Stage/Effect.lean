import Understudy.Proofs.Stage.Lookup

/-!
# What an operation does

All that the beginning of an operation can do to a stage: it is refused and nothing happens, it
tells something and nothing happens, or one mock, one cell or both change in the way that is
written down here, under the conditions that were checked. Whatever is proved of all operations is
proved from these cases.

* `begin_effect`: the beginning of every operation is one of them.
-/

namespace Understudy

/-- Whether a fault is an error of the test, and not one that the stage found. -/
def Fault.isRaised : Fault → Bool
  | .raised _ => true
  | _ => false

/-- Which calls a declared rule accepts. -/
def Pattern.matcher : Pattern → Matcher
  | .anyCall => .any
  | .rehearsed token => .exact token.arguments
  | .satisfying p => .satisfying p

/-- The member that an operation is about, if it is about one. -/
def Operation.target? : Operation → Option (MockId × String)
  | .call id name _ | .get id name | .set id name _ | .declare id name _ _ | .attach id name _
  | .records id name => some (id, name)
  | .createMock _ _ | .createCell _ | .write _ _ | .peek _ | .reset _ => none

/-- The outcome of a call of the member, with the rules that it leaves behind. -/
def MockMember.draw (m : MockMember) (rules : Rules) (arguments : Arguments) : Outcome × Rules :=
  (rules.draw arguments).getD (.value (Ty.placeholder m.spec.result), rules)

namespace Mock

theorem matcher_of_matcherOf {mock : Mock} {name : String} {pattern : Pattern} {matcher : Matcher}
    (h : mock.matcherOf name pattern = .ok matcher) : matcher = pattern.matcher := by
  cases pattern with
  | anyCall => exact (Except.ok.inj h).symm
  | satisfying p => exact (Except.ok.inj h).symm
  | rehearsed token =>
    rw [matcherOf] at h
    split at h
    · exact (Except.ok.inj h).symm
    · cases h

end Mock

namespace Stage

/-- What the beginning of an operation may do. -/
inductive Effect (stage : Stage) : Operation → Progress → Stage → Prop where
  /-- The stage refuses the operation. -/
  | refused {operation : Operation} {fault : Fault} : fault.isRaised = false →
      Effect stage operation (.finished (.error fault)) stage
  | createMock {surface : Shared Surface} {settings : Settings} :
      Effect stage (.createMock surface settings) (.finished (.ok (.mock ⟨stage.mocks.length⟩)))
        { stage with mocks := stage.mocks ++
            [Mock.create ⟨stage.mocks.length⟩ surface settings] }
  | createCell {value : Value} :
      Effect stage (.createCell value) (.finished (.ok (.cell ⟨stage.cells.length⟩)))
        { stage with cells := stage.cells ++ [.ofValue value] }
  /-- A call that passes the checks is recorded, and its outcome drawn. -/
  | call {id : MockId} {name : String} {arguments : Arguments} {mock : Mock} {m : MockMember}
      {records : List Record} {rules : Rules} :
      stage.At id name mock m → m.state = .callable records rules →
      m.spec.mismatch? mock.settings.coercion arguments = none →
      Effect stage (.call id name arguments)
        ((m.draw rules arguments).1.progress arguments)
        (stage.putMock (mock.setState name (.callable (records ++ [mock.recordOf arguments])
          (m.draw rules arguments).2)).advance)
  | readField {id : MockId} {name : String} {mock : Mock} {m : MockMember} {value : Value} :
      stage.At id name mock m → m.state = .field (some value) →
      Effect stage (.get id name) (.finished (.ok (.value value))) stage
  /-- The reading of a property is recorded. -/
  | readProperty {id : MockId} {name : String} {mock : Mock} {m : MockMember} {cellId : CellId}
      {records : List Record} {cell : Cell} :
      stage.At id name mock m → m.state = .property (some cellId) records →
      stage.cell cellId = .ok cell →
      Effect stage (.get id name) (.finished (.ok (.value cell.value)))
        (stage.putMock (mock.setState name
          (.property (some cellId) (records ++ [mock.recordOf .empty]))).advance)
  | writeField {id : MockId} {name : String} {value : Value} {mock : Mock} {m : MockMember}
      {old : Option Value} :
      stage.At id name mock m → m.state = .field old → mock.fieldFault? m value = none →
      Effect stage (.set id name value) (.finished (.ok .done))
        (stage.putMock (mock.setState name (.field (some value))))
  /-- A property that is backed is written through its cell. -/
  | writeBacked {id : MockId} {name : String} {value : Value} {mock : Mock} {m : MockMember}
      {cellId : CellId} {records : List Record} {cell after : Cell} :
      stage.At id name mock m → m.state = .property (some cellId) records →
      stage.cell cellId = .ok cell → cell.write value = .ok after →
      Effect stage (.set id name value) (.finished (.ok .done)) (stage.putCell cellId after)
  /-- A property that is not backed gets a cell of its own. -/
  | writeUnbacked {id : MockId} {name : String} {value : Value} {mock : Mock} {m : MockMember}
      {records : List Record} {cell : Cell} :
      stage.At id name mock m → m.state = .property none records →
      (Cell.ofValue value).bind (mock.bindingOf m) = .ok cell →
      Effect stage (.set id name value) (.finished (.ok .done))
        ((stage.createCell cell).2.putMock
          (mock.setState name (.property (some ⟨stage.cells.length⟩) records)))
  | declare {id : MockId} {name : String} {pattern : Pattern} {outcomes : List Outcome}
      {mock : Mock} {m : MockMember} {records : List Record} {rules : Rules}
      {queue : OutcomeQueue} :
      stage.At id name mock m → m.state = .callable records rules →
      mock.matcherOf name pattern = .ok pattern.matcher →
      outcomes.findSome? (mock.outcomeFault? m) = none →
      OutcomeQueue.ofList? outcomes = some queue →
      Effect stage (.declare id name pattern outcomes) (.finished (.ok .done))
        (stage.putMock (mock.setState name (.callable records (⟨pattern.matcher, queue⟩ :: rules))))
  | attach {id : MockId} {name : String} {cellId : CellId} {mock : Mock} {m : MockMember}
      {old : Option CellId} {records : List Record} {cell after : Cell} :
      stage.At id name mock m → m.state = .property old records →
      stage.cell cellId = .ok cell → cell.bind (mock.bindingOf m) = .ok after →
      Effect stage (.attach id name cellId) (.finished (.ok .done))
        ((stage.putCell cellId after).putMock
          (mock.setState name (.property (some cellId) records)))
  | write {cellId : CellId} {value : Value} {cell after : Cell} :
      stage.cell cellId = .ok cell → cell.write value = .ok after →
      Effect stage (.write cellId value) (.finished (.ok .done)) (stage.putCell cellId after)
  | peek {cellId : CellId} {cell : Cell} : stage.cell cellId = .ok cell →
      Effect stage (.peek cellId) (.finished (.ok (.value cell.value))) stage
  | records {id : MockId} {name : String} {mock : Mock} {m : MockMember} :
      stage.At id name mock m →
      Effect stage (.records id name)
        (.finished (.ok (.records (mock.memberLabel name) m.state.records))) stage
  | reset {id : MockId} {mock : Mock} : stage.mock id = .ok mock →
      Effect stage (.reset id) (.finished (.ok .done)) (stage.putMock mock.reset)

end Stage

/-! ## Refusals -/

theorem Fault.isRaised_of_ofResult? {coercion : Coercion} {label : String} {declared : Option Ty}
    {value : Value} {fault : Fault} (h : ofResult? coercion label declared value = some fault) :
    fault.isRaised = false := by
  obtain ⟨_, _, rfl⟩ := Option.map_eq_some_iff.1 h
  rfl

theorem Cell.isRaised_of_write {cell : Cell} {value : Value} {fault : Fault}
    (h : cell.write value = .error fault) : fault.isRaised = false := by
  unfold Cell.write at h
  split at h
  · next refusal found =>
    obtain ⟨_, _, refused⟩ := List.exists_of_findSome?_eq_some found
    obtain rfl := Except.error.inj h
    exact Fault.isRaised_of_ofResult? refused
  · cases h

theorem Cell.isRaised_of_bind {cell : Cell} {binding : CellBinding} {fault : Fault}
    (h : cell.bind binding = .error fault) : fault.isRaised = false := by
  unfold Cell.bind at h
  split at h
  · next refusal refused =>
    obtain rfl := Except.error.inj h
    exact Fault.isRaised_of_ofResult? refused
  · split at h <;> cases h

namespace Mock

variable {mock : Mock} {name : String} {m : MockMember} {fault : Fault}

theorem isRaised_of_member (h : mock.member name = .error fault) : fault.isRaised = false := by
  unfold member at h
  split at h <;> cases h
  rfl

theorem isRaised_of_matcherOf {pattern : Pattern} (h : mock.matcherOf name pattern = .error fault) :
    fault.isRaised = false := by
  cases pattern with
  | anyCall => cases h
  | satisfying p => cases h
  | rehearsed token =>
    rw [matcherOf] at h
    split at h
    · cases h
    · obtain rfl := Except.error.inj h
      rfl

theorem isRaised_of_outcomeFault? {outcome : Outcome}
    (h : mock.outcomeFault? m outcome = some fault) : fault.isRaised = false := by
  cases outcome with
  | value v => exact Fault.isRaised_of_ofResult? h
  | failure error => cases h
  | function f => cases h

theorem isRaised_of_fieldFault? {value : Value} (h : mock.fieldFault? m value = some fault) :
    fault.isRaised = false := by
  obtain ⟨_, _, rfl⟩ := Option.map_eq_some_iff.1 h
  rfl

end Mock

namespace Stage

variable {stage : Stage} {id : MockId} {name : String}

theorem isRaised_of_mock {fault : Fault} (h : stage.mock id = .error fault) :
    fault.isRaised = false := by
  unfold Stage.mock at h
  split at h <;> cases h
  rfl

theorem isRaised_of_cell {id : CellId} {fault : Fault} (h : stage.cell id = .error fault) :
    fault.isRaised = false := by
  unfold Stage.cell at h
  split at h <;> cases h
  rfl

/-! ## One operation after the other -/

theorem ok_bind {α β : Type} (a : α) (f : α → Except Fault β) : (Except.ok a >>= f) = f a := rfl

theorem error_bind {α β : Type} (fault : Fault) (f : α → Except Fault β) :
    (Except.error fault >>= f) = .error fault := rfl

theorem settled_error (fault : Fault) :
    stage.settled (.error fault) = (.finished (.error fault), stage) := rfl

/-- The beginning of the operation, whatever it is, is one of the cases. -/
abbrev HasEffect (stage : Stage) (operation : Operation) : Prop :=
  Effect stage operation (stage.begin operation).1 (stage.begin operation).2

theorem hasEffect_of_refused {operation : Operation} {fault : Fault}
    (h : stage.begin operation = (.finished (.error fault), stage))
    (engine : fault.isRaised = false) : stage.HasEffect operation := by
  rw [HasEffect, h]
  exact .refused engine

theorem hasEffect_of_eq {operation : Operation} {progress : Progress} {after : Stage}
    (h : stage.begin operation = (progress, after))
    (effect : Effect stage operation progress after) :
    stage.HasEffect operation := by
  rw [HasEffect, h]
  exact effect

theorem begin_of_unknown {operation : Operation} {fault : Fault}
    (target : operation.target? = some (id, name)) (hmock : stage.mock id = .error fault) :
    stage.begin operation = (.finished (.error fault), stage) := by
  cases operation <;>
    simp only [Operation.target?, reduceCtorEq, Option.some.injEq, Prod.mk.injEq] at target <;>
    obtain ⟨rfl, rfl⟩ := target <;>
    simp only [begin, beginCall, get, set, declare, attach, records, hmock, error_bind,
      Except.map, settled_error]

theorem begin_of_missing {operation : Operation} {mock : Mock} {fault : Fault}
    (target : operation.target? = some (id, name)) (hmock : stage.mock id = .ok mock)
    (hm : mock.member name = .error fault) :
    stage.begin operation = (.finished (.error fault), stage) := by
  cases operation <;>
    simp only [Operation.target?, reduceCtorEq, Option.some.injEq, Prod.mk.injEq] at target <;>
    obtain ⟨rfl, rfl⟩ := target <;>
    simp only [begin, beginCall, Mock.acceptCall, get, set, declare, Mock.declare, attach, records,
      hmock, hm, ok_bind, error_bind, Except.map, settled_error]

/-- An operation on a member is refused if there is no such mock or no such member. -/
theorem hasEffect_of_at {operation : Operation} (target : operation.target? = some (id, name))
    (present : ∀ mock m, stage.At id name mock m → stage.HasEffect operation) :
    stage.HasEffect operation := by
  rcases hmock : stage.mock id with fault | mock
  · exact hasEffect_of_refused (begin_of_unknown target hmock) (isRaised_of_mock hmock)
  · rcases hm : mock.member name with fault | m
    · exact hasEffect_of_refused (begin_of_missing target hmock hm) (Mock.isRaised_of_member hm)
    · exact present mock m ⟨hmock, hm⟩

/-- A call whose arguments do not fit is refused. -/
theorem begin_call_of_mismatch {mock : Mock} {m : MockMember} {arguments : Arguments}
    {records : List Record} {rules : Rules} {mismatch : Mismatch} (found : stage.At id name mock m)
    (state : m.state = .callable records rules)
    (fault : m.spec.mismatch? mock.settings.coercion arguments = some mismatch) :
    stage.begin (.call id name arguments) =
      (.finished (.error (.argumentType (mock.memberLabel name) mismatch)), stage) := by
  simp only [begin, beginCall, Mock.acceptCall, found.1, found.2, state, fault, ok_bind, error_bind]

/-- A call whose arguments fit is recorded, and its outcome drawn. -/
theorem begin_call_of_fits {mock : Mock} {m : MockMember} {arguments : Arguments}
    {records : List Record} {rules : Rules} (found : stage.At id name mock m)
    (state : m.state = .callable records rules)
    (fits : m.spec.mismatch? mock.settings.coercion arguments = none) :
    stage.begin (.call id name arguments) =
      ((m.draw rules arguments).1.progress arguments,
        stage.putMock (mock.setState name (.callable (records ++ [mock.recordOf arguments])
          (m.draw rules arguments).2)).advance) := by
  simp only [begin, beginCall, Mock.acceptCall, found.1, found.2, state, fits, ok_bind,
    MockMember.draw]

theorem hasEffect_call (arguments : Arguments) : stage.HasEffect (.call id name arguments) := by
  refine hasEffect_of_at rfl fun mock m found => ?_
  by_cases callable : ∃ records rules, m.state = .callable records rules
  · obtain ⟨records, rules, state⟩ := callable
    -- What is drawn does not matter here: the outcome is part of the effect.
    rcases fits : m.spec.mismatch? mock.settings.coercion arguments with _ | mismatch
    · exact hasEffect_of_eq (begin_call_of_fits found state fits) (.call found state fits)
    · exact hasEffect_of_refused (begin_call_of_mismatch found state fits) rfl
  · have refusal : stage.begin (.call id name arguments) =
        (.finished (.error (mock.wrongKind m .callable)), stage) := by
      simp only [begin, beginCall, Mock.acceptCall, found.1, found.2, ok_bind]
      cases state : m.state with
      | callable records rules => exact absurd ⟨records, rules, state⟩ callable
      | field _ => rfl
      | property _ _ => rfl
    exact hasEffect_of_refused refusal rfl

theorem hasEffect_get : stage.HasEffect (.get id name) := by
  refine hasEffect_of_at rfl fun mock m found => ?_
  simp only [HasEffect, begin, get, found.1, found.2, ok_bind]
  cases state : m.state with
  | callable _ _ => exact .refused rfl
  | field value =>
    rcases value with _ | value
    · exact .refused rfl
    · exact .readField found state
  | property cellId records =>
    rcases cellId with _ | cellId
    · exact .refused rfl
    · simp only
      rcases hcell : stage.cell cellId with fault | cell
      · exact .refused (isRaised_of_cell hcell)
      · exact .readProperty found state hcell

theorem hasEffect_set (value : Value) : stage.HasEffect (.set id name value) := by
  refine hasEffect_of_at rfl fun mock m found => ?_
  simp only [HasEffect, begin, set, found.1, found.2, ok_bind]
  cases state : m.state with
  | callable _ _ => exact .refused rfl
  | field old =>
    rcases fits : mock.fieldFault? m value with _ | fault
    · exact .writeField found state fits
    · exact .refused (Mock.isRaised_of_fieldFault? fits)
  | property cellId records =>
    rcases cellId with _ | cellId
    · -- The property gets a cell of its own, which is checked before it is made.
      rcases bound : (Cell.ofValue value).bind (mock.bindingOf m) with fault | cell
      · exact .refused (Cell.isRaised_of_bind bound)
      · exact .writeUnbacked found state bound
    · simp only [Stage.write]
      rcases hcell : stage.cell cellId with fault | cell
      · exact .refused (isRaised_of_cell hcell)
      · simp only [ok_bind]
        rcases written : cell.write value with fault | after
        · exact .refused (Cell.isRaised_of_write written)
        · exact .writeBacked found state hcell written

theorem hasEffect_declare (pattern : Pattern) (outcomes : List Outcome) :
    stage.HasEffect (.declare id name pattern outcomes) := by
  refine hasEffect_of_at rfl fun mock m found => ?_
  simp only [HasEffect, begin, declare, Mock.declare, found.1, found.2, ok_bind]
  cases state : m.state with
  | field _ => exact .refused rfl
  | property _ _ => exact .refused rfl
  | callable records rules =>
    simp only
    rcases meant : mock.matcherOf name pattern with fault | matcher
    · exact .refused (Mock.isRaised_of_matcherOf meant)
    · obtain rfl := Mock.matcher_of_matcherOf meant
      simp only [ok_bind]
      -- The values are checked before it is asked whether there are outcomes at all.
      rcases typed : outcomes.findSome? (mock.outcomeFault? m) with _ | fault
      · rcases queued : OutcomeQueue.ofList? outcomes with _ | queue
        · exact .refused rfl
        · exact .declare found state meant typed queued
      · obtain ⟨outcome, _, refused⟩ := List.exists_of_findSome?_eq_some typed
        exact .refused (Mock.isRaised_of_outcomeFault? refused)

theorem hasEffect_attach (cellId : CellId) : stage.HasEffect (.attach id name cellId) := by
  refine hasEffect_of_at rfl fun mock m found => ?_
  simp only [HasEffect, begin, attach, found.1, found.2, ok_bind]
  cases state : m.state with
  | callable _ _ => exact .refused rfl
  | field _ => exact .refused rfl
  | property old records =>
    simp only
    rcases hcell : stage.cell cellId with fault | cell
    · exact .refused (isRaised_of_cell hcell)
    · simp only [ok_bind]
      rcases bound : cell.bind (mock.bindingOf m) with fault | after
      · exact .refused (Cell.isRaised_of_bind bound)
      · exact .attach found state hcell bound

theorem hasEffect_write (cellId : CellId) (value : Value) :
    stage.HasEffect (.write cellId value) := by
  simp only [HasEffect, begin, write]
  rcases hcell : stage.cell cellId with fault | cell
  · exact .refused (isRaised_of_cell hcell)
  · simp only [ok_bind]
    rcases written : cell.write value with fault | after
    · exact .refused (Cell.isRaised_of_write written)
    · exact .write hcell written

theorem hasEffect_peek (cellId : CellId) : stage.HasEffect (.peek cellId) := by
  simp only [HasEffect, begin]
  rcases hcell : stage.cell cellId with fault | cell
  · exact .refused (isRaised_of_cell hcell)
  · exact .peek hcell

theorem hasEffect_records : stage.HasEffect (.records id name) := by
  refine hasEffect_of_at rfl fun mock m found => ?_
  simp only [HasEffect, begin, records, found.1, found.2, ok_bind]
  exact .records found

theorem hasEffect_reset : stage.HasEffect (.reset id) := by
  simp only [HasEffect, begin]
  rcases hmock : stage.mock id with fault | mock
  · exact .refused (isRaised_of_mock hmock)
  · exact .reset hmock

/-- The beginning of an operation does one of the things that are written down. -/
theorem begin_effect (stage : Stage) (operation : Operation) :
    Effect stage operation (stage.begin operation).1 (stage.begin operation).2 := by
  cases operation with
  | createMock surface settings => exact .createMock
  | createCell value => exact .createCell
  | call id name arguments => exact hasEffect_call arguments
  | get id name => exact hasEffect_get
  | set id name value => exact hasEffect_set value
  | declare id name pattern outcomes => exact hasEffect_declare pattern outcomes
  | attach id name cellId => exact hasEffect_attach cellId
  | write cellId value => exact hasEffect_write cellId value
  | peek cellId => exact hasEffect_peek cellId
  | records id name => exact hasEffect_records
  | reset id => exact hasEffect_reset

end Stage

end Understudy
