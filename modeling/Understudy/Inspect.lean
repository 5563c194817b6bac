import Understudy.Mock
import Understudy.Text.Quoted

/-!
# Inspected forms

The texts in which mocks, members, rules in the making and outcomes show themselves to whoever
looks at them while a test is written. A structure shows its name and its fields in braces; what
has no text of its own is shown by two dots.
-/

namespace Understudy

/-- A structure with its fields. -/
def inspectFields (name : String) (fields : List (String × String)) : String :=
  name ++ " \x7b " ++ commaSeparated (fields.map fun field => field.1 ++ ": " ++ field.2) ++ " \x7d"

/-- The inspected form of an outcome. -/
def Outcome.inspect : Outcome → String
  | .value v => "Value(" ++ v.inspect ++ ")"
  | .failure error => "Error(" ++ error.error.inspect ++ ")"
  | .function _ => "Custom(..)"

/-- The inspected form of a matcher. -/
def Matcher.inspect : Matcher → String
  | .any => "any_call"
  | .exact arguments => "called_with" ++ arguments.display
  | .satisfying _ => "call_matching(..)"

namespace Mock

/-- The inspected form of a mock. -/
def inspect (mock : Mock) : String :=
  "MockInstance \x7b label: " ++ quoted mock.label ++ ", type_name: " ++
    quoted mock.surface.value.name ++ ", .. \x7d"

/-- The inspected form of one of the members. -/
def inspectMember (mock : Mock) (m : Member) : String :=
  inspectFields "Member"
    [("label", quoted (mock.memberLabel m.name)), ("kind", m.kind.inspect)]

/-- The inspected form of a rule of which only the member is known. -/
def inspectRule (mock : Mock) (m : Member) : String :=
  inspectFields "RuleBuilder" [("member", mock.inspectMember m)]

/-- The inspected form of a rule whose outcomes are not declared yet. A rehearsal of another member
    shows as the fault that it will lead to. -/
def inspectPattern (mock : Mock) (m : Member) (pattern : Pattern) : String :=
  let matcher := match mock.matcherOf m.name pattern with
    | .ok matcher => "Ok(" ++ matcher.inspect ++ ")"
    | .error (.rehearsalMismatch expected actual) =>
      "Err(" ++ inspectFields "RehearsalMismatch"
        [("expected", quoted expected), ("actual", quoted actual)] ++ ")"
    | .error _ => "Err(..)"
  inspectFields "StubBuilder" [("member", mock.inspectMember m), ("matcher", matcher)]

/-- The inspected form of a view of the records of a member. -/
def inspectView (mock : Mock) (m : Member) : String :=
  inspectFields "VerificationView" [("member", mock.inspectMember m)]

/-- The inspected form of what attaches cells to a mock. -/
def inspectStubber (mock : Mock) : String :=
  inspectFields "PropertyStubber" [("mock", mock.inspect)]

end Mock

end Understudy
