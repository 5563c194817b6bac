import Understudy.Call.Arguments
import Understudy.Json.Writer
import Understudy.Number.Word
import Understudy.Value.Encoding

/-!
# Calls as documents

Arguments are written as an object with the list of those given by position and the object of those
given by name. Either may be left out when they are read. A record has both and its number.
-/

namespace Understudy

/-- What is known of a call while its document is read. -/
structure CallDraft where
  /-- The arguments by position, once they are read. -/
  positional : Option (List Value)
  /-- The arguments by name, once they are read. -/
  named : Option (NameMap Value)
  /-- The number of the record, once it is read. -/
  seq : Option UInt64

namespace CallDraft

/-- Nothing is known yet. -/
def start : CallDraft := ⟨none, none, none⟩

/-- The unsigned integer of 64 bits that a document holds. -/
def decodeSeq : Json → Except DecodeError UInt64
  | .integer n =>
    match uint64? n with
    | some seq => .ok seq
    | none => .error .malformed
  | _ => .error .malformed

/-- Decodes an entry of the document of arguments. -/
def decodeArguments (room : Nat) (draft : CallDraft) (key : String) (value : Json) :
    Option (Except DecodeError CallDraft) :=
  if key = "args" then
    Json.fill draft.positional (Json.toList Value.decode room value) fun positional =>
      { draft with positional := some positional }
  else if key = "kwargs" then
    Json.fill draft.named (Value.decodeNamed room value) fun named =>
      { draft with named := some named }
  else none

/-- Decodes an entry of the document of a record. -/
def decodeRecord (room : Nat) (draft : CallDraft) (key : String) (value : Json) :
    Option (Except DecodeError CallDraft) :=
  if key = "seq" then
    Json.fill draft.seq (decodeSeq value) fun seq => { draft with seq := some seq }
  else decodeArguments room draft key value

end CallDraft

namespace Arguments

/-- The fields of the document of arguments. -/
def toFields (arguments : Arguments) : List (String × Json) :=
  [("args", .array (Value.itemsToJson arguments.positional)),
    ("kwargs", .object (Value.fieldsToJson arguments.named.entries))]

/-- The document of arguments. -/
def toJson (arguments : Arguments) : Json := .ofFields arguments.toFields

/-- Decodes arguments; what is missing is empty. -/
def decode (room : Nat) (document : Json) : Except DecodeError Arguments :=
  (Json.record ["args", "kwargs"] .start CallDraft.decodeArguments room document).map fun draft =>
    ⟨draft.positional.getD [], draft.named.getD .empty⟩

/-- The arguments that the document in a text holds. -/
def ofText (text : String) : Except DecodeError Arguments :=
  JsonText.decode text decode

end Arguments

namespace Record

/-- The document of a record. -/
def toJson (record : Record) : Json :=
  .ofFields (record.arguments.toFields ++ [("seq", .integer record.seq.toNat)])

/-- Decodes a record, of which nothing may be missing. -/
def decode (room : Nat) (document : Json) : Except DecodeError Record :=
  (Json.record ["args", "kwargs", "seq"] .start CallDraft.decodeRecord room document).bind
    fun draft =>
      match draft.positional, draft.named, draft.seq with
      | some positional, some named, some seq => .ok ⟨⟨positional, named⟩, seq⟩
      | _, _, _ => .error .malformed

/-- The record that the document in a text holds. -/
def ofText (text : String) : Except DecodeError Record :=
  JsonText.decode text decode

end Record

end Understudy
