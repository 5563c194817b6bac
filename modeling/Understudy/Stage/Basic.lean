import Understudy.Mock

/-!
# The stage

A stage holds all mocks and cells of a session. Every operation on it is begun by `Stage.begin`,
which does all of it save running a function that a rule names: what the call of such a rule does
to the stage is done when the function begins to run.
-/

namespace Understudy

/-- The mocks and cells of a session, in the order in which they were made. -/
structure Stage where
  /-- The mocks. -/
  mocks : List Mock
  /-- The cells. -/
  cells : List Cell

namespace Stage

/-- The stage before anything happened. -/
def empty : Stage := ⟨[], []⟩

instance : Inhabited Stage := ⟨empty⟩

/-- The mock of the given id. -/
def mock (stage : Stage) (id : MockId) : Except Fault Mock :=
  match stage.mocks[id.index]? with
  | some mock => .ok mock
  | none => .error .unknownMock

/-- The cell of the given id. -/
def cell (stage : Stage) (id : CellId) : Except Fault Cell :=
  match stage.cells[id.index]? with
  | some cell => .ok cell
  | none => .error .unknownCell

/-- The stage with a mock in place of the one of its id. -/
def putMock (stage : Stage) (mock : Mock) : Stage :=
  { stage with mocks := stage.mocks.set mock.id.index mock }

/-- The stage with a cell in place of the one of the id. -/
def putCell (stage : Stage) (id : CellId) (cell : Cell) : Stage :=
  { stage with cells := stage.cells.set id.index cell }

/-- Makes a mock. -/
def createMock (stage : Stage) (surface : Shared Surface) (settings : Settings) :
    MockId × Stage :=
  let id : MockId := ⟨stage.mocks.length⟩
  (id, { stage with mocks := stage.mocks ++ [Mock.create id surface settings] })

/-- Makes a cell. -/
def createCell (stage : Stage) (cell : Cell) : CellId × Stage :=
  (⟨stage.cells.length⟩, { stage with cells := stage.cells ++ [cell] })

/-- Begins a call: it is checked, recorded and its outcome drawn. -/
def beginCall (stage : Stage) (id : MockId) (member : String) (arguments : Arguments) :
    Except Fault (Outcome × Stage) := do
  let mock ← stage.mock id
  let (outcome, mock) ← mock.acceptCall member arguments
  .ok (outcome, stage.putMock mock)

/-- Reads a field, or a property; reading a property is recorded as a call without arguments. -/
def get (stage : Stage) (id : MockId) (member : String) : Except Fault (Value × Stage) := do
  let mock ← stage.mock id
  let m ← mock.member member
  match m.state with
  | .field (some value) => .ok (value, stage)
  | .field none => .error (.unsetField (mock.memberLabel member))
  | .property none _ => .error (.propertyNotStubbed (mock.memberLabel member))
  | .property (some cellId) records =>
    let cell ← stage.cell cellId
    let state := .property (some cellId) (records ++ [mock.recordOf .empty])
    .ok (cell.value, stage.putMock (mock.setState member state).advance)
  | .callable _ _ => .error (mock.wrongKind m .readable)

/-- Writes a cell. -/
def write (stage : Stage) (id : CellId) (value : Value) : Except Fault Stage := do
  let cell ← stage.cell id
  let cell ← cell.write value
  .ok (stage.putCell id cell)

/-- Writes a field, or the cell of a property. A property without a cell gets one of its own. -/
def set (stage : Stage) (id : MockId) (member : String) (value : Value) :
    Except Fault Stage := do
  let mock ← stage.mock id
  let m ← mock.member member
  match m.state with
  | .field _ =>
    match mock.fieldFault? m value with
    | some fault => .error fault
    | none => .ok (stage.putMock (mock.setState member (.field (some value))))
  | .property (some cellId) _ => stage.write cellId value
  | .property none records =>
    let cell ← (Cell.ofValue value).bind (mock.bindingOf m)
    let (cellId, stage) := stage.createCell cell
    .ok (stage.putMock (mock.setState member (.property (some cellId) records)))
  | .callable _ _ => .error (mock.wrongKind m .readable)

/-- Declares a rule. -/
def declare (stage : Stage) (id : MockId) (member : String) (pattern : Pattern)
    (outcomes : List Outcome) : Except Fault Stage := do
  let mock ← stage.mock id
  let mock ← mock.declare member pattern outcomes
  .ok (stage.putMock mock)

/-- Backs a property by a cell, in place of the one it had. -/
def attach (stage : Stage) (id : MockId) (member : String) (cellId : CellId) :
    Except Fault Stage := do
  let mock ← stage.mock id
  let m ← mock.member member
  match m.state with
  | .property _ records =>
    let cell ← stage.cell cellId
    let cell ← cell.bind (mock.bindingOf m)
    .ok ((stage.putCell cellId cell).putMock
      (mock.setState member (.property (some cellId) records)))
  | _ => .error (mock.wrongKind m .property)

/-- The label and the records of a member. -/
def records (stage : Stage) (id : MockId) (member : String) :
    Except Fault (String × List Record) := do
  let mock ← stage.mock id
  let m ← mock.member member
  .ok (mock.memberLabel member, m.state.records)

/-- The rehearsal of a call of a member. Nothing is checked or recorded. -/
def rehearse (stage : Stage) (id : MockId) (member : String) (arguments : Arguments) :
    Except Fault Token := do
  let mock ← stage.mock id
  let _ ← mock.member member
  .ok ⟨id, mock.memberLabel member, arguments⟩

/-- How far an operation has come. -/
inductive Progress where
  /-- It is over. -/
  | finished (answer : Answer)
  /-- A function still has to run, whose value is the answer. -/
  | running (script : Script)

end Stage

/-- How a call goes on whose outcome was drawn. -/
def Outcome.progress (arguments : Arguments) : Outcome → Stage.Progress
  | .value v => .finished (.ok (.value v))
  | .failure error => .finished (.error (.raised error))
  | .function f => .running (f arguments)

namespace Stage

/-- The progress and the stage of an operation that is over. A refused operation leaves the stage
    as it was. -/
def settled (stage : Stage) : Except Fault (Reply × Stage) → Progress × Stage
  | .ok (reply, stage) => (.finished (.ok reply), stage)
  | .error fault => (.finished (.error fault), stage)

/-- Does all of an operation save running a function. -/
def begin (stage : Stage) : Operation → Progress × Stage
  | .createMock surface settings =>
    let (id, stage) := stage.createMock surface settings
    (.finished (.ok (.mock id)), stage)
  | .createCell value =>
    let (id, stage) := stage.createCell (.ofValue value)
    (.finished (.ok (.cell id)), stage)
  | .call id member arguments =>
    match stage.beginCall id member arguments with
    | .error fault => (.finished (.error fault), stage)
    | .ok (outcome, stage) => (outcome.progress arguments, stage)
  | .get id member =>
    stage.settled ((stage.get id member).map fun (value, stage) => (.value value, stage))
  | .set id member value => stage.settled ((stage.set id member value).map (.done, ·))
  | .declare id member pattern outcomes =>
    stage.settled ((stage.declare id member pattern outcomes).map (.done, ·))
  | .attach id member cellId => stage.settled ((stage.attach id member cellId).map (.done, ·))
  | .write id value => stage.settled ((stage.write id value).map (.done, ·))
  | .peek id => stage.settled ((stage.cell id).map fun cell => (.value cell.value, stage))
  | .records id member =>
    stage.settled ((stage.records id member).map fun (label, records) =>
      (.records label records, stage))
  | .reset id =>
    stage.settled ((stage.mock id).map fun mock => (.done, stage.putMock mock.reset))

end Stage

end Understudy
