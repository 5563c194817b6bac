import Understudy.Text.DottedName
import Understudy.Ty.Basic
import Understudy.Value.Basic

/-!
# Which values a type accepts

Containers are checked element by element, a union accepts what one of its alternatives accepts,
and named types go by the last part of their names. Numbers may be given in the other kind where
nothing is lost, if the coercion allows it: an integer for a floating-point number, and a
floating-point number for an integer if it denotes one of 64 bits. Truth values are no numbers.

* `Ty.refusing?_eq_none_iff`: no type refuses a value exactly if what is declared accepts it.
-/

namespace Understudy

/-- How numbers are held against declared numeric types. -/
inductive Coercion where
  /-- A number of the other kind is accepted if it denotes one of the declared kind. -/
  | lossless
  /-- Only numbers of the declared kind are accepted. -/
  | strict
deriving DecidableEq, Inhabited

namespace Ty

mutual

/-- Whether the type accepts the value. -/
def accepts (coercion : Coercion) : Ty → Value → Bool
  | .any, _ => true
  | .nil, .nil => true
  | .bool, .bool _ => true
  | .int, .int _ => true
  | .int, .float x => coercion = .lossless && x.toInt64?.isSome
  | .float, .float _ => true
  | .float, .int _ => coercion = .lossless
  | .str, .str _ => true
  | .list item, .list items => items.all (accepts coercion item)
  | .set item, .set items => items.all (accepts coercion item)
  | .tuple shape, .tuple items => shape.isEmpty || acceptsShape coercion shape items
  | .map key value, .map entries =>
    entries.all fun entry => accepts coercion key entry.1 && accepts coercion value entry.2
  | .union alternatives, value => anyAccepts coercion alternatives value
  | .named expected, .object typeName _ => lastPart expected.toList == lastPart typeName.toList
  | _, _ => false

/-- Whether there are as many values as types and every type accepts its value. -/
def acceptsShape (coercion : Coercion) : List Ty → List Value → Bool
  | [], [] => true
  | ty :: types, value :: values => accepts coercion ty value && acceptsShape coercion types values
  | _, _ => false

/-- Whether one of the types accepts the value. -/
def anyAccepts (coercion : Coercion) : List Ty → Value → Bool
  | [], _ => false
  | ty :: types, value => accepts coercion ty value || anyAccepts coercion types value

end

/-- Whether a declared type accepts the value; where none is declared, every value is accepted. -/
def acceptsDeclared (coercion : Coercion) : Option Ty → Value → Bool
  | some ty, value => accepts coercion ty value
  | none, _ => true

/-- The declared type that refuses the value, if one does. -/
def refusing? (coercion : Coercion) (declared : Option Ty) (value : Value) : Option Ty :=
  declared.filter fun ty => !accepts coercion ty value

theorem refusing?_eq_none_iff {coercion : Coercion} {declared : Option Ty} {value : Value} :
    refusing? coercion declared value = none ↔
      acceptsDeclared coercion declared value = true := by
  cases declared <;> simp [refusing?, acceptsDeclared]

end Ty

end Understudy
