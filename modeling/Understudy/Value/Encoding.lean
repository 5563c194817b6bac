import Understudy.NameMap
import Understudy.Value.Basic
import Understudy.Json.Decode

/-!
# Values as documents

A value is written as an object with its kind and its content, `{"kind":"Int","value":7}`; the
marker for "no value" has no content. Such an object is read whichever of the two comes first, and
also as an array of the two. If the content comes first it is held until the kind is known; what
is held may give kinds in a few more ways.

* `Value.toJson` and `Value.ofJson?` are the two directions.
-/

namespace Understudy

namespace Value

/-- The kinds of values. -/
inductive Kind where
  | nil | bool | int | float | str | list | tuple | set | map | object
deriving DecidableEq

namespace Kind

/-- The name of a kind in documents. -/
def name : Kind → String
  | .nil => "None"
  | .bool => "Bool"
  | .int => "Int"
  | .float => "Float"
  | .str => "Str"
  | .list => "List"
  | .tuple => "Tuple"
  | .set => "Set"
  | .map => "Map"
  | .object => "Object"

/-- All kinds. -/
def all : List Kind := [.nil, .bool, .int, .float, .str, .list, .tuple, .set, .map, .object]

/-- The kind of the given name. -/
def ofName? (name : String) : Option Kind :=
  all.find? (·.name = name)

theorem ofName?_name (kind : Kind) : ofName? kind.name = some kind := by
  cases kind <;> decide +kernel

/-- The kind that is given by its name, or by its name as the only key of an object whose value
    is null. What was held may have an empty object there as well. -/
def ofJson? (held : Bool) (room : Nat) : Json → Option Kind
  | .string name => ofName? name
  | .object [(some name, .null)] => if room = 0 then none else ofName? name
  | .object [(some name, .object [])] => if held then ofName? name else none
  | _ => none

/-- The kind that the first item of an array gives by its name. In what was held it may also be
    given by its place among all kinds, counted from zero. -/
def ofItem? (held : Bool) : Json → Option Kind
  | .string name => ofName? name
  | .integer n => if held ∧ 0 ≤ n then all[n.toNat]? else none
  | _ => none

end Kind

/-- The object that a value of the kind with the given content is written as. -/
def tagged (kind : Kind) (content : Json) : Json :=
  .ofFields [("kind", .string kind.name), ("value", content)]

mutual

/-- The document of a value. -/
def toJson : Value → Json
  | .nil => .ofFields [("kind", .string Kind.nil.name)]
  | .bool b => tagged .bool (.bool b)
  | .int n => tagged .int (.integer n.toInt)
  | .float x => tagged .float (.ofBinary64 x)
  | .str text => tagged .str (.string text)
  | .list items => tagged .list (.array (itemsToJson items))
  | .tuple items => tagged .tuple (.array (itemsToJson items))
  | .set items => tagged .set (.array (itemsToJson items))
  | .map entries => tagged .map (.array (entriesToJson entries))
  | .object typeName fields =>
    tagged .object <| .ofFields
      [("type_name", .string typeName), ("fields", .object (fieldsToJson fields))]

/-- The documents of several values. -/
def itemsToJson : List Value → List Json
  | [] => []
  | item :: rest => toJson item :: itemsToJson rest

/-- The documents of the entries of a map, each an array of key and value. -/
def entriesToJson : List (Value × Value) → List Json
  | [] => []
  | (key, value) :: rest => .array [toJson key, toJson value] :: entriesToJson rest

/-- The documents of fields under their names. -/
def fieldsToJson : List (String × Value) → List (Option String × Json)
  | [] => []
  | (name, value) :: rest => (some name, toJson value) :: fieldsToJson rest

end

/-- The integer of 64 bits that a document holds. -/
def intOfJson? : Json → Option Int64
  | .integer n => int64? n
  | _ => none

/-- The floating-point number that a document holds; an integer is taken for one. -/
def floatOfJson? : Json → Option Binary64
  | .integer n => some (.ofInt n)
  | .real x => some x
  | _ => none

/-- Whether a part that nobody asks for may be passed over. What is held was looked at before. -/
def passable (held : Bool) (part : Json) : Bool :=
  held || part.ignorable

/-- Whether neither the kind nor the content of a value is among the entries. -/
def onlyPassable (held : Bool) : List (Option String × Json) → Bool
  | [] => true
  | (none, _) :: _ => false
  | (some key, part) :: rest =>
    key != "kind" && key != "value" && passable held part && onlyPassable held rest

/-- The kind that is found behind the content of a value. -/
def laterKind? (held : Bool) (room : Nat) : List (Option String × Json) → Option Kind
  | [] => none
  | (none, _) :: _ => none
  | (some key, part) :: rest =>
    if key = "kind" then
      if onlyPassable held rest then Kind.ofJson? held room part else none
    else if key ≠ "value" && passable held part then laterKind? held room rest
    else none

mutual

/-- The value that a document holds. `held` says that the document was held before it is decoded,
    and `room` how many arrays and objects may be open in it at once. -/
def ofJson? (held : Bool) (room : Nat) : Json → Option Value
  | .object entries =>
    match room with
    | 0 => none
    | room + 1 => taggedOfJson? held room entries
  | .array [kind, content] =>
    match room with
    | 0 => none
    | room + 1 => (Kind.ofItem? held kind).bind (contentOfJson? held room · content)
  | _ => none

/-- The value with the kind and the content among the entries. -/
def taggedOfJson? (held : Bool) (room : Nat) : List (Option String × Json) → Option Value
  | [] => none
  | (none, _) :: _ => none
  | (some key, part) :: rest =>
    if key = "kind" then
      (Kind.ofJson? held room part).bind (untaggedOfJson? held room · rest)
    else if key = "value" then
      if held || part.holdable room then
        (laterKind? held room rest).bind (contentOfJson? true room · part)
      else none
    else if passable held part then taggedOfJson? held room rest
    else none

/-- The value of the given kind with the content among the entries. -/
def untaggedOfJson? (held : Bool) (room : Nat) (kind : Kind) :
    List (Option String × Json) → Option Value
  | [] => if kind = .nil then some .nil else none
  | (none, _) :: _ => none
  | (some key, part) :: rest =>
    if key = "value" then
      if onlyPassable held rest then contentOfJson? held room kind part else none
    else if key ≠ "kind" && passable held part then untaggedOfJson? held room kind rest
    else none

/-- The value of the given kind with the given content. -/
def contentOfJson? (held : Bool) (room : Nat) (kind : Kind) : Json → Option Value
  | .array items =>
    match room, kind with
    | room + 1, .list => (itemsOfJson? held room items).map .list
    | room + 1, .tuple => (itemsOfJson? held room items).map .tuple
    | room + 1, .set => (itemsOfJson? held room items).map .set
    | room + 1, .map => (entriesOfJson? held room items).map .map
    | _, _ => none
  | .object entries =>
    match room, kind with
    | room + 1, .object => objectOfJson? held room none none entries
    | _, _ => none
  | scalar =>
    match kind, scalar with
    | .nil, .null => some .nil
    | .bool, .bool b => some (.bool b)
    | .int, number => (intOfJson? number).map .int
    | .float, number => (floatOfJson? number).map .float
    | .str, .string text => some (.str text)
    | _, _ => none

/-- The values that the items hold. -/
def itemsOfJson? (held : Bool) (room : Nat) : List Json → Option (List Value)
  | [] => some []
  | item :: rest => do
    let value ← ofJson? held room item
    let values ← itemsOfJson? held room rest
    some (value :: values)

/-- The entries of a map that the items hold, each an array of key and value. -/
def entriesOfJson? (held : Bool) (room : Nat) : List Json → Option (List (Value × Value))
  | [] => some []
  | .array [key, value] :: rest =>
    match room with
    | 0 => none
    | inner + 1 => do
      let key ← ofJson? held inner key
      let value ← ofJson? held inner value
      let entries ← entriesOfJson? held room rest
      some ((key, value) :: entries)
  | _ => none

/-- The object with the name of its type and its fields among the entries, unless they were found
    before. -/
def objectOfJson? (held : Bool) (room : Nat) (typeName : Option String)
    (fields : Option (List (String × Value))) : List (Option String × Json) → Option Value
  | [] => do some (.object (← typeName) (← fields))
  | (none, _) :: _ => none
  | (some key, part) :: rest =>
    if key = "type_name" then
      match typeName, part with
      | none, .string name => objectOfJson? held room (some name) fields rest
      | _, _ => none
    else if key = "fields" then
      match fields, room, part with
      | none, inner + 1, .object entries =>
        (fieldsOfJson? held inner [] entries).bind fun found =>
          objectOfJson? held room typeName (some found) rest
      | _, _, _ => none
    else if passable held part then objectOfJson? held room typeName fields rest
    else none

/-- The fields that the entries hold, added to those found before. -/
def fieldsOfJson? (held : Bool) (room : Nat) (sofar : List (String × Value)) :
    List (Option String × Json) → Option (List (String × Value))
  | [] => some sofar
  | (none, _) :: _ => none
  | (some name, part) :: rest =>
    (ofJson? held room part).bind fun value =>
      fieldsOfJson? held room (Entries.insert name value sofar) rest

end

/-- Decodes a value with so much room for arrays and objects. -/
def decode (room : Nat) (document : Json) : Except DecodeError Value :=
  match ofJson? false room document with
  | some value => .ok value
  | none => .error .malformed

/-- Decodes values under names, the last one of a name winning. -/
def decodeNamed (room : Nat) : Json → Except DecodeError (NameMap Value)
  | .object entries =>
    match room with
    | 0 => .error .malformed
    | room + 1 => entries.foldlM (fun sofar entry =>
        match entry.1 with
        | some name => (decode room entry.2).map (sofar.insert name)
        | none => .error .malformed) .empty
  | _ => .error .malformed

end Value

end Understudy
