import Understudy.Surface.Param

/-!
# Members

A member of a described type. Methods and callables take arguments; properties and fields hold a
value. `Member.signature` writes a member the way it is declared.
-/

namespace Understudy

/-- What a member is. -/
inductive MemberKind where
  /-- Takes arguments and has a result. -/
  | method
  /-- A part of the data that is itself invoked. -/
  | callable
  /-- Computed when it is read; every read is recorded. -/
  | property
  /-- Plain data. -/
  | field
deriving DecidableEq, Inhabited

namespace MemberKind

/-- Whether members of the kind are invoked with arguments. -/
def isCallable : MemberKind → Bool
  | .method | .callable => true
  | _ => false

/-- The name of the kind. -/
def name : MemberKind → String
  | .method => "method"
  | .callable => "callable"
  | .property => "property"
  | .field => "field"

/-- The names of the kinds. -/
def names : List (String × MemberKind) :=
  [("method", .method), ("callable", .callable), ("property", .property), ("field", .field)]

theorem lookup_name (kind : MemberKind) : names.lookup kind.name = some kind := by
  cases kind <;> decide +kernel

/-- The kind as the inspected form of a member shows it. -/
def inspect : MemberKind → String
  | .method => "Method"
  | .callable => "Callable"
  | .property => "Property"
  | .field => "Field"

end MemberKind

/-- A member of a described type. -/
structure Member where
  /-- Its name. -/
  name : String
  /-- What it is. -/
  kind : MemberKind
  /-- The parameters in order. -/
  params : List Param
  /-- The declared type of the result, or of the value it holds. -/
  result : Option Ty
deriving Inhabited

namespace Member

/-- The member as it is declared: name, parameters and result. -/
def signature (m : Member) : String :=
  let result := match m.result with
    | some ty => " -> " ++ ty.display
    | none => ""
  m.name ++ "(" ++ commaSeparated (m.params.map Param.display) ++ ")" ++ result

/-- Equality of members. -/
def same (m n : Member) : Bool :=
  m.name == n.name && m.kind == n.kind && sameInOrder Param.same m.params n.params &&
    m.result == n.result

end Member

end Understudy
