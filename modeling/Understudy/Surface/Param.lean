import Understudy.Ty.Basic
import Understudy.Value.Display
import Understudy.Value.Equality

/-!
# Parameters

A parameter of a callable member: its name, what it accepts, the value it takes when the caller
leaves it out, and how it is given.
-/

namespace Understudy

/-- How a parameter is given its argument. -/
inductive ParamKind where
  /-- By position or by name. -/
  | positional
  /-- By name only. -/
  | keyword
  /-- Takes the positional arguments that are left over. -/
  | restPositional
  /-- Takes the named arguments that are left over. -/
  | restKeyword
deriving DecidableEq, Inhabited

namespace ParamKind

/-- The place of the kind in a signature. -/
def rank : ParamKind → Nat
  | .positional => 0
  | .restPositional => 1
  | .keyword => 2
  | .restKeyword => 3

/-- Whether parameters of the kind take what is left over. -/
def isRest : ParamKind → Bool
  | .restPositional | .restKeyword => true
  | _ => false

/-- The names of the kinds. -/
def names : List (String × ParamKind) :=
  [("positional_or_keyword", .positional), ("keyword_only", .keyword),
    ("var_positional", .restPositional), ("var_keyword", .restKeyword)]

/-- The name of the kind. -/
def name : ParamKind → String
  | .positional => "positional_or_keyword"
  | .keyword => "keyword_only"
  | .restPositional => "var_positional"
  | .restKeyword => "var_keyword"

theorem lookup_name (kind : ParamKind) : names.lookup kind.name = some kind := by
  cases kind <;> decide +kernel

end ParamKind

/-- A declared parameter. -/
structure Param where
  /-- Its name. -/
  name : String
  /-- What it accepts; without a declared type, everything. -/
  ty : Option Ty
  /-- The value it takes when the caller leaves it out. -/
  default : Option Value
  /-- How it is given. -/
  kind : ParamKind
deriving Inhabited

namespace Param

/-- Whether the caller may leave the parameter out because it has a default. -/
def hasDefault (p : Param) : Bool := p.default.isSome

/-- Whether the parameter takes what is left over. -/
def isRest (p : Param) : Bool := p.kind.isRest

/-- The parameter as it stands in a signature. -/
def display (p : Param) : String :=
  let stars := match p.kind with
    | .restPositional => "*"
    | .restKeyword => "**"
    | _ => ""
  let ty := match p.ty with
    | some ty => ": " ++ ty.display
    | none => ""
  let default := match p.default with
    | some value => " = " ++ value.display
    | none => ""
  stars ++ p.name ++ ty ++ default

/-- Equality of parameters; defaults are compared as values. -/
def same (p q : Param) : Bool :=
  p.name == q.name && p.ty == q.ty && p.kind == q.kind &&
    match p.default, q.default with
    | none, none => true
    | some v, some w => v.same w
    | _, _ => false

end Param

end Understudy
