import Understudy.Cell
import Understudy.Rule
import Understudy.Ty.Placeholder

/-!
# Mocks

A mock has one state for every member of its surface. Callable members have rules and records,
fields have a value once one was written, and properties have records and the cell that backs
them. All records of a mock are numbered in one sequence.

* `Mock.acceptCall` is what a call does to a mock: it is checked, recorded, and its outcome drawn
  from the rules, in this order.
-/

namespace Understudy

/-- The state of a member. -/
inductive MemberState where
  | callable (records : List Record) (rules : Rules)
  | field (value : Option Value)
  | property (cell : Option CellId) (records : List Record)

namespace MemberState

/-- The state of a member that nothing has happened to. -/
def fresh : MemberKind → MemberState
  | .method | .callable => .callable [] []
  | .field => .field none
  | .property => .property none []

/-- The records of the member. Fields have none. -/
def records : MemberState → List Record
  | .callable records _ | .property _ records => records
  | .field _ => []

/-- The state without rules and records; what is written or attached is kept. -/
def reset : MemberState → MemberState
  | .callable _ _ => .callable [] []
  | .field value => .field value
  | .property cell _ => .property cell []

end MemberState

/-- A member of a mock. -/
structure MockMember where
  /-- What is declared of it. -/
  spec : Member
  /-- Its state. -/
  state : MemberState

/-- A mock of a type. -/
structure Mock where
  /-- Which mock it is. -/
  id : MockId
  /-- The name of its type, with its own name or number. -/
  label : String
  /-- What it was made of. -/
  surface : Shared Surface
  /-- Its settings. -/
  settings : Settings
  /-- Its members in the order of their declaration. -/
  members : List MockMember
  /-- The number of its next record. -/
  nextSeq : UInt64

namespace Mock

/-- A new mock. Mocks are numbered from one. -/
def create (id : MockId) (surface : Shared Surface) (settings : Settings) : Mock where
  id := id
  label := surface.value.name ++ "#" ++ settings.name.getD (toString (id.index + 1))
  surface := surface
  settings := settings
  members := surface.value.members.map fun spec => ⟨spec, .fresh spec.kind⟩
  nextSeq := 0

/-- The label of the member of the given name. -/
def memberLabel (mock : Mock) (member : String) : String :=
  mock.label ++ "." ++ member

/-- The member of the given name. -/
def member (mock : Mock) (name : String) : Except Fault MockMember :=
  match mock.members.find? (·.spec.name == name) with
  | some found => .ok found
  | none => .error (.memberNotFound mock.label name mock.surface.value.name)

/-- The refusal of an operation that needs a member of another kind. -/
def wrongKind (mock : Mock) (m : MockMember) (expected : Expectation) : Fault :=
  .wrongMemberKind (mock.memberLabel m.spec.name) m.spec.kind expected

/-- The mock with another state of the member. -/
def setState (mock : Mock) (name : String) (state : MemberState) : Mock :=
  { mock with
    members := mock.members.map fun m => if m.spec.name == name then { m with state } else m }

/-- The record of a call that is made now. -/
def recordOf (mock : Mock) (arguments : Arguments) : Record := ⟨arguments, mock.nextSeq⟩

/-- The mock after a record was made. -/
def advance (mock : Mock) : Mock := { mock with nextSeq := mock.nextSeq + 1 }

/-- Makes a call: checks it, records it and draws its outcome. Where no rule accepts the call the
    outcome is the placeholder for the declared type. -/
def acceptCall (mock : Mock) (name : String) (arguments : Arguments) :
    Except Fault (Outcome × Mock) := do
  let m ← mock.member name
  match m.state with
  | .callable records rules =>
    match m.spec.mismatch? mock.settings.coercion arguments with
    | some mismatch => .error (.argumentType (mock.memberLabel name) mismatch)
    | none =>
      let (outcome, rules) := (rules.draw arguments).getD
        (.value (Ty.placeholder m.spec.result), rules)
      .ok (outcome,
        (mock.setState name (.callable (records ++ [mock.recordOf arguments]) rules)).advance)
  | _ => .error (mock.wrongKind m .callable)

/-- Which calls a rule on the member accepts that is declared with the pattern. A rehearsal has to
    be one of this very member. -/
def matcherOf (mock : Mock) (name : String) : Pattern → Except Fault Matcher
  | .anyCall => .ok .any
  | .satisfying p => .ok (.satisfying p)
  | .rehearsed token =>
    if token.mock = mock.id ∧ token.member = mock.memberLabel name then
      .ok (.exact token.arguments)
    else .error (.rehearsalMismatch (mock.memberLabel name) token.member)

/-- The complaint about an outcome whose value is not of the declared type. -/
def outcomeFault? (mock : Mock) (m : MockMember) : Outcome → Option Fault
  | .value value =>
    Fault.ofResult? mock.settings.coercion (mock.memberLabel m.spec.name) m.spec.result value
  | _ => none

/-- Declares a rule on a member. -/
def declare (mock : Mock) (name : String) (pattern : Pattern) (outcomes : List Outcome) :
    Except Fault Mock := do
  let m ← mock.member name
  match m.state with
  | .callable records rules =>
    let matcher ← mock.matcherOf name pattern
    match outcomes.findSome? (mock.outcomeFault? m), OutcomeQueue.ofList? outcomes with
    | some fault, _ => .error fault
    | none, none => .error (.emptyOutcomes (mock.memberLabel name))
    | none, some queue =>
      .ok (mock.setState name (.callable records (⟨matcher, queue⟩ :: rules)))
  | _ => .error (mock.wrongKind m .callable)

/-- The complaint about a value written to a field. -/
def fieldFault? (mock : Mock) (m : MockMember) (value : Value) : Option Fault :=
  (Ty.refusing? mock.settings.coercion m.spec.result value).map fun ty =>
    .argumentType (mock.memberLabel m.spec.name) (.wrongType m.spec.name ty value)

/-- What a cell that backs the property is held to. -/
def bindingOf (mock : Mock) (m : MockMember) : CellBinding :=
  ⟨mock.memberLabel m.spec.name, m.spec.result, mock.settings.coercion⟩

/-- Forgets the rules and records of all members. -/
def reset (mock : Mock) : Mock :=
  { mock with members := mock.members.map fun m => { m with state := m.state.reset } }

/-- The mock in messages. -/
def display (mock : Mock) : String := "Mock[" ++ mock.label ++ "]"

end Mock

end Understudy
