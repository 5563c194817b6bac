import Understudy.Json.Reader
import Understudy.Ty.Annotation

/-!
# Decoding documents

A decoder walks a document in the order of its text and stops at the first thing that is wrong.
No more than 127 arrays and objects may be open at once, save in parts that nobody asks for: these
may be of any depth and hold any value, but they have to be documents.

* `Json.record` reads entries whose keys are known beforehand. Such a record may also be written
  as the array of its values in order; other keys are passed over.
-/

namespace Understudy

/-- Why a document does not say what it should. -/
inductive DecodeError where
  /-- It is no document, or not one of the expected form. -/
  | malformed
  /-- A declared type in it cannot be read. -/
  | unreadableType (error : AnnotationError)
deriving DecidableEq

namespace Json

/-- How many arrays and objects may be open at once. -/
def maxDepth : Nat := 127

mutual

/-- Whether a part that nobody asks for is a document. -/
def ignorable : Json → Bool
  | .fault .syntaxError => false
  | .array items => ignorableItems items
  | .object entries => ignorableEntries entries
  | _ => true

/-- Whether all items are documents. -/
def ignorableItems : List Json → Bool
  | [] => true
  | item :: rest => ignorable item && ignorableItems rest

/-- Whether all entries hold documents. -/
def ignorableEntries : List (Option String × Json) → Bool
  | [] => true
  | (_, value) :: rest => ignorable value && ignorableEntries rest

end

mutual

/-- Whether a part can be held until it is known what it means: it has no fault at all, and opens
    no more arrays and objects at once than there is room for. -/
def holdable (room : Nat) : Json → Bool
  | .fault _ => false
  | .array items =>
    match room with
    | 0 => false
    | room + 1 => holdableItems room items
  | .object entries =>
    match room with
    | 0 => false
    | room + 1 => holdableEntries room entries
  | _ => true

/-- Whether all items can be held. -/
def holdableItems (room : Nat) : List Json → Bool
  | [] => true
  | item :: rest => holdable room item && holdableItems room rest

/-- Whether all entries can be held. -/
def holdableEntries (room : Nat) : List (Option String × Json) → Bool
  | [] => true
  | (key, value) :: rest => key.isSome && holdable room value && holdableEntries room rest

end

/-- The entries of an object, or the items of an array under the given names in order. An array
    with more items than names ends in an entry that no decoder accepts. -/
def entriesAs (names : List String) : Json → Option (List (Option String × Json))
  | .object entries => some entries
  | .array items => some (named names items)
  | _ => none
where
  /-- The items under the names. -/
  named : List String → List Json → List (Option String × Json)
    | _, [] => []
    | [], _ :: _ => [(none, .fault .syntaxError)]
    | name :: names, item :: items => (some name, item) :: named names items

/-- Decodes the entries of a record one after the other. The step is given the room inside the
    record, what is known so far, and a key with its value; it answers nothing for a key that it
    does not know, and the value is then passed over. -/
def record {σ : Type} (names : List String) (start : σ)
    (step : Nat → σ → String → Json → Option (Except DecodeError σ)) (room : Nat)
    (document : Json) : Except DecodeError σ :=
  match room, entriesAs names document with
  | room + 1, some entries => entries.foldlM (one room) start
  | _, _ => .error .malformed
where
  /-- Decodes one entry. -/
  one (room : Nat) (sofar : σ) : Option String × Json → Except DecodeError σ
    | (none, _) => .error .malformed
    | (some key, value) =>
      match step room sofar key value with
      | some result => result
      | none => if ignorable value then .ok sofar else .error .malformed

/-- Puts a decoded value into a place that has to be free: no key of a record may be repeated. -/
def fill {α σ : Type} (place : Option α) (decoded : Except DecodeError α) (put : α → σ) :
    Option (Except DecodeError σ) :=
  some (if place.isSome then .error .malformed else decoded.map put)

/-- A string. -/
def toText : Json → Except DecodeError String
  | .string text => .ok text
  | _ => .error .malformed

/-- A value that may be null. -/
def toOption {α : Type} (decode : Json → Except DecodeError α) :
    Json → Except DecodeError (Option α)
  | .null => .ok none
  | value => (decode value).map some

/-- A list of values, with the room that is left inside it. -/
def toList {α : Type} (decode : Nat → Json → Except DecodeError α) (room : Nat) :
    Json → Except DecodeError (List α)
  | .array items =>
    match room with
    | 0 => .error .malformed
    | room + 1 => items.mapM (decode room)
  | _ => .error .malformed

/-- The name of one of several choices. It may be given as the only key of an object, whose value
    is null. -/
def toChoice (room : Nat) : Json → Except DecodeError String
  | .string name => .ok name
  | .object [(some name, .null)] => if room = 0 then .error .malformed else .ok name
  | _ => .error .malformed

/-- One of several choices, by its name. -/
def toNamed {α : Type} (choices : List (String × α)) (room : Nat) (document : Json) :
    Except DecodeError α :=
  (toChoice room document).bind fun name =>
    match choices.lookup name with
    | some choice => .ok choice
    | none => .error .malformed

/-- A declared type, given by its annotation. -/
def toTy (document : Json) : Except DecodeError Ty :=
  (toText document).bind fun text => (Ty.ofAnnotation text).mapError .unreadableType

end Json

/-- Decodes what a text holds. Behind the document only blanks may stand. -/
def JsonText.decode {α : Type} (text : String)
    (decode : Nat → Json → Except DecodeError α) : Except DecodeError α :=
  let document := JsonText.read text
  (decode Json.maxDepth document.root).bind fun decoded =>
    if document.complete then .ok decoded else .error .malformed

end Understudy
