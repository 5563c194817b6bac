import Understudy.Call.Arguments
import Understudy.Surface.Member
import Understudy.Ty.Acceptance

/-!
# Binding arguments to parameters

Arguments by position go to the positional parameters in order, those by name to the parameter of
the name. What is left over goes to the parameters that take it, if there are any. A parameter
that gets nothing needs a default. Whether every argument finds its place is settled before any
value is held against its declared type; defaults are held against theirs as well.

* `Member.mismatch?` tells the first thing that is wrong with a call.
-/

namespace Understudy

/-- Why arguments do not fit a signature. -/
inductive Mismatch where
  /-- A value is not of the declared type. -/
  | wrongType (param : String) (expected : Ty) (value : Value)
  /-- More arguments by position than parameters that take them. -/
  | tooManyPositional (max given : Nat)
  /-- A parameter without default gets nothing. -/
  | missing (param : String)
  /-- No parameter has the name of an argument. -/
  | unexpectedName (name : String)
  /-- A parameter is given both by position and by name. -/
  | multipleValues (param : String)

namespace Mismatch

/-- The wording of a mismatch. -/
def message : Mismatch → String
  | .wrongType param expected value =>
    "parameter '" ++ param ++ "' expects " ++ expected.display ++ ", got " ++ value.display ++
      " (" ++ value.typeName ++ ")"
  | .tooManyPositional max given =>
    "takes " ++ toString max ++ " positional argument(s) but " ++ toString given ++ " were given"
  | .missing param => "missing a required argument: '" ++ param ++ "'"
  | .unexpectedName name => "got an unexpected keyword argument '" ++ name ++ "'"
  | .multipleValues param => "got multiple values for argument '" ++ param ++ "'"

end Mismatch

namespace Binding

/-- A parameter with the argument it got, if any. -/
abbrev Slot := Param × Option Value

/-- Hands the arguments to the positional parameters in order, and tells what is left over. -/
def byPosition : List Param → List Value → List Slot × List Value
  | [], values => ([], values)
  | p :: params, values =>
    match p.kind, values with
    | .positional, value :: values =>
      let (slots, rest) := byPosition params values
      ((p, some value) :: slots, rest)
    | _, _ =>
      let (slots, rest) := byPosition params values
      ((p, none) :: slots, rest)

/-- Hands an argument to the first parameter that has its name and does not take what is left
    over. The result is absent if there is none. -/
def byName (name : String) (value : Value) : List Slot → Option (Except Mismatch (List Slot))
  | [] => none
  | slot :: slots =>
    if slot.1.name = name ∧ !slot.1.isRest then
      some (if slot.2.isSome then .error (.multipleValues name)
        else .ok ((slot.1, some value) :: slots))
    else (byName name value slots).map fun result => result.map (slot :: ·)

/-- Hands out the arguments by name one after the other; `takesRest` says whether some parameter
    takes those without a parameter of their own. -/
def byNames (takesRest : Bool) (slots : List Slot) (extra : List (String × Value)) :
    List (String × Value) → Except Mismatch (List Slot × List (String × Value))
  | [] => .ok (slots, extra)
  | (name, value) :: rest =>
    match byName name value slots with
    | some (.error e) => .error e
    | some (.ok slots) => byNames takesRest slots extra rest
    | none =>
      if takesRest then byNames takesRest slots (extra ++ [(name, value)]) rest
      else .error (.unexpectedName name)

/-- Whether a parameter has neither an argument nor a default. -/
def isMissing (slot : Slot) : Bool :=
  !slot.1.isRest && slot.2.isNone && !slot.1.hasDefault

/-- The values that are held against the declared type of a parameter, each with the name that a
    complaint gives. -/
def checked (surplus : List Value) (extra : List (String × Value)) (slot : Slot) :
    List (String × Value) :=
  match slot.1.kind with
  | .restPositional => surplus.map (slot.1.name, ·)
  | .restKeyword => extra
  | _ =>
    match slot.2, slot.1.default with
    | some value, _ => [(slot.1.name, value)]
    | none, some value => [(slot.1.name, value)]
    | none, none => []

/-- The complaint about a value that the declared type does not accept. -/
def typeMismatch? (coercion : Coercion) (ty : Option Ty) (entry : String × Value) :
    Option Mismatch :=
  (Ty.refusing? coercion ty entry.2).map fun ty => .wrongType entry.1 ty entry.2

end Binding

namespace Member

/-- How many parameters take an argument by position. -/
def positionalCount (m : Member) : Nat :=
  m.params.countP (·.kind == .positional)

/-- Whether some parameter is of the given kind. -/
def hasParam (m : Member) (kind : ParamKind) : Bool :=
  m.params.any (·.kind == kind)

/-- The first thing that is wrong with a call of the member. -/
def mismatch? (m : Member) (coercion : Coercion) (arguments : Arguments) : Option Mismatch :=
  let (slots, surplus) := Binding.byPosition m.params arguments.positional
  if !surplus.isEmpty && !m.hasParam .restPositional then
    some (.tooManyPositional m.positionalCount arguments.positional.length)
  else
    match Binding.byNames (m.hasParam .restKeyword) slots [] arguments.named.entries with
    | .error e => some e
    | .ok (slots, extra) =>
      match slots.find? Binding.isMissing with
      | some slot => some (.missing slot.1.name)
      | none =>
        slots.findSome? fun slot =>
          (Binding.checked surplus extra slot).findSome?
            (Binding.typeMismatch? coercion slot.1.ty)

end Member

end Understudy
