import Understudy.Call.Log
import Understudy.Stage.Basic

/-!
# Operations in place

`Stage.begin` works out what an operation makes of the stage, and keeps the stage as it was if the
operation is refused. A stage that many hold at once is not worked out anew: it is changed in
place, one thing after the other, and what was done before a refusal stays done. Here operations
are carried out in that way.

* `Stage.inPlace`: an operation in small actions, in the order in which they are taken.
-/

namespace Understudy

/-- The state with one record more. Fields have no records. -/
def MemberState.append (record : Record) : MemberState → MemberState
  | .callable records rules => .callable (records ++ [record]) rules
  | .field value => .field value
  | .property cell records => .property cell (records ++ [record])

/-- What is done to a stage. Where it fails, what was done before is not taken back. -/
abbrev Action := ExceptT Fault (StateM Stage)

namespace Action

/-- Looks at the stage. -/
def look {α : Type} (f : Stage → Except Fault α) : Action α := fun stage => (f stage, stage)

/-- Changes the stage. -/
def change (f : Stage → Stage) : Action Unit := fun stage => (.ok (), f stage)

/-- Fails if there is a fault. -/
def refuse (fault : Option Fault) : Action Unit :=
  look fun _ => match fault with
    | some fault => .error fault
    | none => .ok ()

/-- Looks up a mock. -/
def mock (id : MockId) : Action Mock := look (·.mock id)

/-- Looks up a cell. -/
def cell (id : CellId) : Action Cell := look (·.cell id)

/-- Looks up a member of a mock. -/
def member (id : MockId) (name : String) : Action MockMember := do
  let mock ← mock id
  look fun _ => mock.member name

/-- Replaces the state of a member. -/
def put (id : MockId) (name : String) (state : MemberState) : Action Unit := do
  let mock ← mock id
  change (·.putMock (mock.setState name state))

/-- Takes the next number of a mock. -/
def takeSeq (id : MockId) : Action UInt64 := do
  let mock ← mock id
  change (·.putMock mock.advance)
  return mock.nextSeq

/-- Makes a record of a member, under the next number. -/
def record (id : MockId) (name : String) (arguments : Arguments) : Action Unit := do
  let seq ← takeSeq id
  let m ← member id name
  put id name (m.state.append ⟨arguments, seq⟩)

/-- Draws the outcome of a call. -/
def draw (id : MockId) (name : String) (arguments : Arguments) : Action Outcome := do
  let mock ← mock id
  let m ← member id name
  match m.state with
  | .callable records rules =>
    let (outcome, rules) := (rules.draw arguments).getD
      (.value (Ty.placeholder m.spec.result), rules)
    put id name (.callable records rules)
    return outcome
  | _ => look fun _ => .error (mock.wrongKind m .callable)

/-- Looks up a callable member. -/
def callable (id : MockId) (name : String) : Action MockMember := do
  let mock ← mock id
  let m ← member id name
  refuse (if m.spec.kind.isCallable then none else some (mock.wrongKind m .callable))
  return m

/-- Makes a call. -/
def call (id : MockId) (name : String) (arguments : Arguments) : Action Outcome := do
  let m ← callable id name
  let mock ← mock id
  refuse ((m.spec.mismatch? mock.settings.coercion arguments).map
    (.argumentType (mock.memberLabel name)))
  record id name arguments
  draw id name arguments

/-- Reads a field or property. -/
def get (id : MockId) (name : String) : Action Value := do
  let mock ← mock id
  let m ← member id name
  match m.state with
  | .field (some value) => return value
  | .field none => look fun _ => .error (.unsetField (mock.memberLabel name))
  | .property none _ => look fun _ => .error (.propertyNotStubbed (mock.memberLabel name))
  | .property (some cellId) _ =>
    record id name .empty
    let cell ← cell cellId
    return cell.value
  | .callable _ _ => look fun _ => .error (mock.wrongKind m .readable)

/-- Writes a cell, behind a check of every property that it is attached to. -/
def write (id : CellId) (value : Value) : Action Unit := do
  let cell ← cell id
  cell.bindings.forM fun binding => refuse (binding.fault? value)
  change (·.putCell id { cell with value })

/-- Holds a cell to one more property. -/
def bind (id : CellId) (binding : CellBinding) : Action Unit := do
  let cell ← cell id
  refuse (binding.fault? cell.value)
  change fun stage =>
    if cell.bindings.any (·.member == binding.member) then stage
    else stage.putCell id { cell with bindings := cell.bindings ++ [binding] }

/-- Makes a cell that is held to a property. -/
def boundCell (binding : CellBinding) (value : Value) : Action CellId := do
  refuse (binding.fault? value)
  let id ← look fun stage => .ok ⟨stage.cells.length⟩
  change fun stage => (stage.createCell ⟨value, [binding]⟩).2
  return id

/-- Writes a field or property. -/
def set (id : MockId) (name : String) (value : Value) : Action Unit := do
  let mock ← mock id
  let m ← member id name
  match m.state with
  | .field _ =>
    refuse (mock.fieldFault? m value)
    put id name (.field (some value))
  | .property (some cellId) _ => write cellId value
  | .property none records =>
    let cellId ← boundCell (mock.bindingOf m) value
    put id name (.property (some cellId) records)
  | .callable _ _ => look fun _ => .error (mock.wrongKind m .readable)

/-- Adds a rule to a member. -/
def addRule (id : MockId) (name : String) (rule : Rule) : Action Unit := do
  let mock ← mock id
  let m ← member id name
  match m.state with
  | .callable records rules => put id name (.callable records (rule :: rules))
  | _ => look fun _ => .error (mock.wrongKind m .callable)

/-- Declares a rule, behind a check of its outcomes one by one. -/
def declare (id : MockId) (name : String) (pattern : Pattern) (outcomes : List Outcome) :
    Action Unit := do
  let m ← callable id name
  let mock ← mock id
  let matcher ← look fun _ => mock.matcherOf name pattern
  outcomes.forM fun outcome => refuse (mock.outcomeFault? m outcome)
  match OutcomeQueue.ofList? outcomes with
  | none => look fun _ => .error (.emptyOutcomes (mock.memberLabel name))
  | some queue => addRule id name ⟨matcher, queue⟩

/-- Attaches a cell to a property. The cell is held to the property before that has it. -/
def attach (id : MockId) (name : String) (cellId : CellId) : Action Unit := do
  let mock ← mock id
  let m ← member id name
  match m.state with
  | .property _ records =>
    bind cellId (mock.bindingOf m)
    put id name (.property (some cellId) records)
  | _ => look fun _ => .error (mock.wrongKind m .property)

/-- Resets a mock. -/
def reset (id : MockId) : Action Unit := do
  let mock ← mock id
  change (·.putMock mock.reset)

/-- Asks for the records of a member. -/
def ask {α : Type} (id : MockId) (name : String) (question : CallLog → Except Fault α) :
    Action α := do
  let mock ← mock id
  let m ← member id name
  look fun _ => question ⟨mock.memberLabel name, m.state.records⟩

/-- How far an operation has come when the action for it was taken. -/
def settle {α : Type} (answer : α → Stage.Progress) (action : Action α) (stage : Stage) :
    Stage.Progress × Stage :=
  match action stage with
  | (.ok a, after) => (answer a, after)
  | (.error fault, after) => (.finished (.error fault), after)

end Action

/-- Does all of an operation save running a function, in place. -/
def Stage.inPlace (stage : Stage) : Operation → Progress × Stage
  | .createMock surface settings =>
    let (id, stage) := stage.createMock surface settings
    (.finished (.ok (.mock id)), stage)
  | .createCell value =>
    let (id, stage) := stage.createCell (.ofValue value)
    (.finished (.ok (.cell id)), stage)
  | .call id name arguments =>
    (Action.call id name arguments).settle (Outcome.progress arguments) stage
  | .get id name => (Action.get id name).settle (.finished <| .ok <| .value ·) stage
  | .set id name value => (Action.set id name value).settle (fun _ => .finished (.ok .done)) stage
  | .declare id name pattern outcomes =>
    (Action.declare id name pattern outcomes).settle (fun _ => .finished (.ok .done)) stage
  | .attach id name cellId =>
    (Action.attach id name cellId).settle (fun _ => .finished (.ok .done)) stage
  | .write id value => (Action.write id value).settle (fun _ => .finished (.ok .done)) stage
  | .peek id => (Action.cell id).settle (.finished <| .ok <| .value ·.value) stage
  | .records id name =>
    (Action.ask id name fun log => .ok (Reply.records log.member log.records)).settle
      (.finished <| .ok ·) stage
  | .reset id => (Action.reset id).settle (fun _ => .finished (.ok .done)) stage

end Understudy
