import Understudy.Number.Binary64

/-!
# Documents in the JSON format

A document as it is read from text. Reading never fails as a whole: where the text breaks the
rules of the format the tree has a fault in place of a value, and what stands before it is kept.
So whoever walks a tree in order meets whatever is wrong with the document in the order of the
text, be it the format or the meaning.

Integers are kept apart from other numbers, and only those of 64 bits count as integers.
-/

namespace Understudy

/-- What keeps a part of a document from being a value. -/
inductive JsonFault where
  /-- The text breaks the rules of the format here, and ends for the reader. -/
  | syntaxError
  /-- A string whose escapes do not spell characters. -/
  | unpairedSurrogate
  /-- A number beyond the greatest floating-point number. -/
  | numberTooLarge
deriving DecidableEq

/-- A document, or a part of one. -/
inductive Json where
  | null
  | bool (b : Bool)
  /-- An integer of 64 bits, signed or unsigned. -/
  | integer (n : Int)
  | real (x : Binary64)
  | string (text : String)
  | array (items : List Json)
  /-- Entries in order, with repetitions. A key whose escapes do not spell characters is absent. -/
  | object (entries : List (Option String × Json))
  | fault (f : JsonFault)
deriving Inhabited

namespace Json

/-- The object with the given entries. -/
def ofFields (fields : List (String × Json)) : Json :=
  .object (fields.map fun field => (some field.1, field.2))

/-- The number as a document has it; what is not finite has no number there. -/
def ofBinary64 (x : Binary64) : Json :=
  if x.isFinite then .real x else .null

end Json

end Understudy
