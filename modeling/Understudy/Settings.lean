import Understudy.Json.Writer
import Understudy.Json.Decode
import Understudy.Ty.Acceptance

/-!
# Settings of a mock

A mock may have a name of its own, which stands in its label, and a policy for numbers. Both may
be given in a document.
-/

namespace Understudy

namespace Coercion

/-- The names of the policies in documents. -/
def names : List (String × Coercion) := [("lossless", .lossless), ("strict", .strict)]

/-- The name of the policy in documents. -/
def name : Coercion → String
  | .lossless => "lossless"
  | .strict => "strict"

end Coercion

/-- The settings of a mock. -/
structure Settings where
  /-- The name in the label; a mock without one is numbered. -/
  name : Option String
  /-- How numbers are held against declared types. -/
  coercion : Coercion
deriving Inhabited

namespace Settings

/-- The settings of a mock with the given name, if any, and the usual policy. -/
def named (name : Option String) : Settings := ⟨name, .lossless⟩

/-- The document of the settings. -/
def toJson (settings : Settings) : Json :=
  .ofFields
    [("name", match settings.name with
        | some name => .string name
        | none => .null),
      ("coercion", .string settings.coercion.name)]

/-- What is known of the settings while their document is read. -/
structure Draft where
  /-- The name, once it is read. -/
  name : Option (Option String)
  /-- The policy, once it is read. -/
  coercion : Option Coercion

/-- Decodes an entry of the document of settings. -/
def decodeEntry (room : Nat) (draft : Draft) (key : String) (value : Json) :
    Option (Except DecodeError Draft) :=
  if key = "name" then
    Json.fill draft.name (Json.toOption Json.toText value) fun name =>
      { draft with name := some name }
  else if key = "coercion" then
    Json.fill draft.coercion (Json.toNamed Coercion.names room value) fun coercion =>
      { draft with coercion := some coercion }
  else none

/-- Decodes settings; what is missing takes its usual value. -/
def decode (room : Nat) (document : Json) : Except DecodeError Settings :=
  (Json.record ["name", "coercion"] ⟨none, none⟩ decodeEntry room document).map fun draft =>
    ⟨draft.name.getD none, draft.coercion.getD .lossless⟩

/-- The settings that the document in a text holds. -/
def ofText (text : String) : Except DecodeError Settings :=
  JsonText.decode text decode

end Settings

end Understudy
