import Understudy.Value.Basic
import Understudy.Number.DecimalText
import Understudy.Text.Quoted

/-!
# The text of values

A value has two written forms. `Value.display` is the one of messages: brackets and braces as in
the annotations, a comma after the only element of a tuple, and objects with their fields.
`Value.inspect` names the kind of every part, so that values which look alike in messages can be
told apart.
-/

namespace Understudy

/-- The texts with a comma and a space between neighbours. -/
def commaSeparated (texts : List String) : String :=
  ", ".intercalate texts

namespace Value

mutual

/-- The text of a value in messages. -/
def display : Value → String
  | .nil => "None"
  | .bool b => if b then "true" else "false"
  | .int n => toString n.toInt
  | .float x => x.display
  | .str text => quoted text
  | .list items => "[" ++ commaSeparated (displayAll items) ++ "]"
  | .tuple items =>
    "(" ++ commaSeparated (displayAll items) ++ (if items.length = 1 then "," else "") ++ ")"
  | .set items =>
    if items.isEmpty then "set()" else "\x7b" ++ commaSeparated (displayAll items) ++ "\x7d"
  | .map entries => "\x7b" ++ commaSeparated (displayEntries entries) ++ "\x7d"
  | .object typeName fields =>
    if fields.isEmpty then typeName ++ " \x7b\x7d"
    else typeName ++ " \x7b " ++ commaSeparated (displayFields fields) ++ " \x7d"

/-- The texts of the elements. -/
def displayAll : List Value → List String
  | [] => []
  | item :: rest => display item :: displayAll rest

/-- The texts of the entries of a map. -/
def displayEntries : List (Value × Value) → List String
  | [] => []
  | (key, value) :: rest => (display key ++ ": " ++ display value) :: displayEntries rest

/-- The texts of the fields of an object. -/
def displayFields : List (String × Value) → List String
  | [] => []
  | (name, value) :: rest => (name ++ ": " ++ display value) :: displayFields rest

end

mutual

/-- The text of a value that names the kind of every part. -/
def inspect : Value → String
  | .nil => "None"
  | .bool b => "Bool(" ++ (if b then "true" else "false") ++ ")"
  | .int n => "Int(" ++ toString n.toInt ++ ")"
  | .float x => "Float(" ++ x.display ++ ")"
  | .str text => "Str(" ++ quoted text ++ ")"
  | .list items => "List([" ++ commaSeparated (inspectAll items) ++ "])"
  | .tuple items => "Tuple([" ++ commaSeparated (inspectAll items) ++ "])"
  | .set items => "Set([" ++ commaSeparated (inspectAll items) ++ "])"
  | .map entries => "Map([" ++ commaSeparated (inspectEntries entries) ++ "])"
  | .object typeName fields =>
    "Object \x7b type_name: " ++ quoted typeName ++ ", fields: \x7b" ++
      commaSeparated (inspectFields fields) ++ "\x7d \x7d"

/-- The texts of the elements. -/
def inspectAll : List Value → List String
  | [] => []
  | item :: rest => inspect item :: inspectAll rest

/-- The texts of the entries of a map, as pairs. -/
def inspectEntries : List (Value × Value) → List String
  | [] => []
  | (key, value) :: rest =>
    ("(" ++ inspect key ++ ", " ++ inspect value ++ ")") :: inspectEntries rest

/-- The texts of the fields of an object, under their quoted names. -/
def inspectFields : List (String × Value) → List String
  | [] => []
  | (name, value) :: rest => (quoted name ++ ": " ++ inspect value) :: inspectFields rest

end

end Value

end Understudy
