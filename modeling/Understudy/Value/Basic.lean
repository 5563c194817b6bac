import Understudy.Number.Binary64

/-!
# Values

What travels between a mock and its callers: arguments, results, and the contents of fields and
properties. There is exactly one shape of value for every kind of declared type, so checks of
types and the choice of defaults need no failure case.
-/

namespace Understudy

/-- A value of the mocked program. -/
inductive Value where
  /-- The marker for "no value". -/
  | nil
  | bool (b : Bool)
  | int (n : Int64)
  | float (x : Binary64)
  | str (text : String)
  /-- An ordered sequence. -/
  | list (items : List Value)
  /-- A record of values by position. -/
  | tuple (items : List Value)
  /-- A collection whose order does not matter. -/
  | set (items : List Value)
  /-- Keys with their values; the order of the entries does not matter. -/
  | map (entries : List (Value × Value))
  /-- An instance of a named type; its fields are in ascending order of their names. -/
  | object (typeName : String) (fields : List (String × Value))
deriving Inhabited

namespace Value

/-- The name of the value's own type, as messages give it. -/
def typeName : Value → String
  | .nil => "NoneType"
  | .bool _ => "bool"
  | .int _ => "int"
  | .float _ => "float"
  | .str _ => "str"
  | .list _ => "list"
  | .tuple _ => "tuple"
  | .set _ => "set"
  | .map _ => "dict"
  | .object name _ => name

/-- Whether the value is the marker for "no value". -/
def isNil : Value → Bool
  | .nil => true
  | _ => false

/-- The truth value, if it is one. -/
def bool? : Value → Option Bool
  | .bool b => some b
  | _ => none

/-- The integer, if it is one. -/
def int? : Value → Option Int64
  | .int n => some n
  | _ => none

/-- The floating-point number, if it is one. -/
def float? : Value → Option Binary64
  | .float x => some x
  | _ => none

/-- The text, if it is one. -/
def str? : Value → Option String
  | .str text => some text
  | _ => none

/-- The elements of a list, a tuple or a set. -/
def items? : Value → Option (List Value)
  | .list items | .tuple items | .set items => some items
  | _ => none

/-- The field of the given name, if the value is an object that has it. -/
def field? : Value → String → Option Value
  | .object _ fields, name => fields.lookup name
  | _, _ => none

end Value

end Understudy
