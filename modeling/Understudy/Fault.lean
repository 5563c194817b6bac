import Understudy.Call.Binding
import Understudy.Failure

/-!
# What can go wrong on a stage

Every operation on a mock may be refused. All faults but one are found by the mock itself; the one
left over is an error of the test, handed back as it was given.
-/

namespace Understudy

/-- What kind of member an operation needs. -/
inductive Expectation where
  | callable
  | readable
  | property
deriving DecidableEq

namespace Expectation

/-- The wording of an expectation. -/
def name : Expectation → String
  | .callable => "a method or callable"
  | .readable => "a property or field"
  | .property => "a property"

end Expectation

/-- Why an operation is refused. Members are given by their labels. -/
inductive Fault where
  /-- The type has no such member. -/
  | memberNotFound (mock member typeName : String)
  /-- The operation needs a member of another kind. -/
  | wrongMemberKind (member : String) (kind : MemberKind) (expected : Expectation)
  /-- The arguments, or the value written to a field, do not fit. -/
  | argumentType (member : String) (mismatch : Mismatch)
  /-- A result, or the value of a property, is not of the declared type. -/
  | returnType (member : String) (expected : Ty) (value : Value)
  /-- A field is read before it is written. -/
  | unsetField (member : String)
  /-- A property is read that no cell backs. -/
  | propertyNotStubbed (member : String)
  /-- A rule has no outcome. -/
  | emptyOutcomes (member : String)
  /-- A rule is given the rehearsal of another member. -/
  | rehearsalMismatch (expected actual : String)
  /-- There is no call to tell about. -/
  | noCallsRecorded (member : String)
  /-- There are not so many calls. -/
  | indexOutOfRange (member : String) (index count : Nat)
  /-- There are calls where none was expected. -/
  | unexpectedCalls (member : String) (count : Nat)
  /-- An error of the test. -/
  | raised (error : Raised)
  /-- The mock is not on this stage. -/
  | unknownMock
  /-- The cell is not on this stage. -/
  | unknownCell

namespace Fault

/-- The wording of a fault. An error of the test has its own. -/
def message : Fault → String
  | .memberNotFound mock member typeName =>
    "[MEMBER_NOT_FOUND] " ++ mock ++ "." ++ member ++ " does not exist on the mocked type " ++
      typeName
  | .wrongMemberKind member kind expected =>
    "[WRONG_MEMBER_KIND] " ++ member ++ " is a " ++ kind.name ++ "; expected " ++ expected.name
  | .argumentType member mismatch => "[ARGUMENT_TYPE] " ++ member ++ ": " ++ mismatch.message
  | .returnType member expected value =>
    "[RETURN_TYPE] cannot use " ++ value.display ++ " (" ++ value.typeName ++
      ") as the result of " ++ member ++ "; the declared result type is " ++ expected.display
  | .unsetField member => "[UNSET_FIELD] " ++ member ++ " was read before a value was set"
  | .propertyNotStubbed member =>
    "[PROPERTY_NOT_STUBBED] " ++ member ++ " needs a PropertyCell before use"
  | .emptyOutcomes member =>
    "[EMPTY_OUTCOMES] a stub for " ++ member ++ " needs at least one outcome"
  | .rehearsalMismatch expected actual =>
    "[REHEARSAL_MISMATCH] when(" ++ expected ++ ").called_with(..) was given a rehearsal of " ++
      actual
  | .noCallsRecorded member => "[NO_CALLS_RECORDED] " ++ member ++ " was not called"
  | .indexOutOfRange member index count =>
    "[INDEX_OUT_OF_RANGE] " ++ member ++ " was not called " ++ toString (index + 1) ++
      " time(s); the actual number of calls was " ++ toString count
  | .unexpectedCalls member count =>
    "[UNEXPECTED_CALLS] expected " ++ member ++ " not to be called, but it was called " ++
      toString count ++ " time(s)"
  | .raised error => error.error.display
  | .unknownMock => "[UNKNOWN_MOCK] the mock is not on this stage"
  | .unknownCell => "[UNKNOWN_CELL] the cell is not on this stage"

/-- The complaint about a value that is to be the result of the member of the given label and is
    not of the declared type. -/
def ofResult? (coercion : Coercion) (member : String) (declared : Option Ty) (value : Value) :
    Option Fault :=
  (Ty.refusing? coercion declared value).map fun ty => .returnType member ty value

end Fault

end Understudy
