import Understudy.Json.Writer
import Understudy.Surface.Basic
import Understudy.Value.Encoding

/-!
# Surfaces as documents

A surface is written as an object with the name of the type and its members. What a member or a
parameter does not have is left out, save the kind of a parameter, which is always written. When
a document is read, types may be annotated in any way, the kind of a parameter may be left out,
and the signatures are checked as those of any other surface.

* `Surface.toJson` and `Surface.ofText` are the two directions.
-/

namespace Understudy

namespace Param

/-- The document of a parameter. -/
def toJson (p : Param) : Json :=
  .ofFields <|
    [("name", .string p.name)] ++
    (match p.ty with
      | some ty => [("type", .string ty.display)]
      | none => []) ++
    (match p.default with
      | some value => [("default", value.toJson)]
      | none => []) ++
    [("kind", .string p.kind.name)]

/-- What is known of a parameter while its document is read. -/
structure Draft where
  /-- The name, once it is read. -/
  name : Option String
  /-- The declared type, once it is read. -/
  ty : Option (Option Ty)
  /-- The default, once it is read. -/
  default : Option (Option Value)
  /-- The kind, once it is read. -/
  kind : Option ParamKind

/-- Decodes an entry of the document of a parameter. -/
def decodeEntry (room : Nat) (draft : Draft) (key : String) (value : Json) :
    Option (Except DecodeError Draft) :=
  if key = "name" then
    Json.fill draft.name (Json.toText value) fun name => { draft with name := some name }
  else if key = "type" then
    Json.fill draft.ty (Json.toOption Json.toTy value) fun ty => { draft with ty := some ty }
  else if key = "default" then
    Json.fill draft.default (Json.toOption (Value.decode room) value) fun default =>
      { draft with default := some default }
  else if key = "kind" then
    Json.fill draft.kind (Json.toNamed ParamKind.names room value) fun kind =>
      { draft with kind := some kind }
  else none

/-- Decodes a parameter. -/
def decode (room : Nat) (document : Json) : Except DecodeError Param :=
  (Json.record ["name", "type", "default", "kind"] ⟨none, none, none, none⟩ decodeEntry room
    document).bind fun draft =>
    match draft.name with
    | some name =>
      .ok ⟨name, draft.ty.getD none, draft.default.getD none, draft.kind.getD .positional⟩
    | none => .error .malformed

end Param

namespace Member

/-- The document of a member. -/
def toJson (m : Member) : Json :=
  .ofFields <|
    [("name", .string m.name), ("kind", .string m.kind.name)] ++
    (if m.params.isEmpty then [] else [("params", .array (m.params.map Param.toJson))]) ++
    (match m.result with
      | some ty => [("returns", .string ty.display)]
      | none => [])

/-- What is known of a member while its document is read. -/
structure Draft where
  /-- The name, once it is read. -/
  name : Option String
  /-- The kind, once it is read. -/
  kind : Option MemberKind
  /-- The parameters, once they are read. -/
  params : Option (List Param)
  /-- The declared type of the result, once it is read. -/
  result : Option (Option Ty)

/-- Decodes an entry of the document of a member. -/
def decodeEntry (room : Nat) (draft : Draft) (key : String) (value : Json) :
    Option (Except DecodeError Draft) :=
  if key = "name" then
    Json.fill draft.name (Json.toText value) fun name => { draft with name := some name }
  else if key = "kind" then
    Json.fill draft.kind (Json.toNamed MemberKind.names room value) fun kind =>
      { draft with kind := some kind }
  else if key = "params" then
    Json.fill draft.params (Json.toList Param.decode room value) fun params =>
      { draft with params := some params }
  else if key = "returns" then
    Json.fill draft.result (Json.toOption Json.toTy value) fun result =>
      { draft with result := some result }
  else none

/-- Decodes a member. Its signature is taken as it is. -/
def decode (room : Nat) (document : Json) : Except DecodeError Member :=
  (Json.record ["name", "kind", "params", "returns"] ⟨none, none, none, none⟩ decodeEntry room
    document).bind fun draft =>
    match draft.name, draft.kind with
    | some name, some kind => .ok ⟨name, kind, draft.params.getD [], draft.result.getD none⟩
    | _, _ => .error .malformed

end Member

namespace Surface

/-- The document of a surface. -/
def toJson (surface : Surface) : Json :=
  .ofFields
    [("name", .string surface.name), ("members", .array (surface.members.map Member.toJson))]

/-- The document of a surface as text. -/
def toText (surface : Surface) : String :=
  surface.toJson.pretty 0

/-- What is known of a surface while its document is read. -/
structure Draft where
  /-- The name, once it is read. -/
  name : Option String
  /-- The members, once they are read. -/
  members : Option (List Member)

/-- Decodes an entry of the document of a surface. -/
def decodeEntry (room : Nat) (draft : Draft) (key : String) (value : Json) :
    Option (Except DecodeError Draft) :=
  if key = "name" then
    Json.fill draft.name (Json.toText value) fun name => { draft with name := some name }
  else if key = "members" then
    Json.fill draft.members (Json.toList Member.decode room value) fun members =>
      { draft with members := some members }
  else none

/-- Decodes the name and the members of a surface. -/
def decode (room : Nat) (document : Json) : Except DecodeError (String × List Member) :=
  (Json.record ["name", "members"] ⟨none, none⟩ decodeEntry room document).bind fun draft =>
    match draft.name, draft.members with
    | some name, some members => .ok (name, members)
    | _, _ => .error .malformed

/-- The surface that a decoded document describes. -/
def ofDecoded : Except DecodeError (String × List Member) → Except SchemaError Surface
  | .error error => .error (.document error)
  | .ok (name, members) => build name members

/-- The surface that a document describes. -/
def ofJson (document : Json) : Except SchemaError Surface :=
  ofDecoded (decode Json.maxDepth document)

/-- The surface that the document in a text describes. -/
def ofText (text : String) : Except SchemaError Surface :=
  ofDecoded (JsonText.decode text decode)

end Surface

end Understudy
