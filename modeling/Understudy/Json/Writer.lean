import Understudy.Json.Basic
import Understudy.Number.DecimalText

/-!
# Writing documents

A document is written either on one line without blanks or over several lines, where every item
and entry has a line of its own and two blanks for each level around it.
-/

namespace Understudy

namespace Json

/-- The written form of a character of a string. -/
def escape (c : Char) : List Char :=
  if c = '"' then ['\\', '"']
  else if c = '\\' then ['\\', '\\']
  else if c = '\x08' then ['\\', 'b']
  else if c = '\x0c' then ['\\', 'f']
  else if c = '\n' then ['\\', 'n']
  else if c = '\r' then ['\\', 'r']
  else if c = '\t' then ['\\', 't']
  else if c.toNat < 0x10 then "\\u000".toList ++ Nat.toDigits 16 c.toNat
  else if c.toNat < 0x20 then "\\u00".toList ++ Nat.toDigits 16 c.toNat
  else [c]

/-- A string in its quotes. -/
def writeString (text : String) : String :=
  String.ofList ('"' :: text.toList.flatMap escape ++ ['"'])

/-- A key in its quotes; one that spells no characters has none to write. -/
def writeKey (key : Option String) : String :=
  writeString (key.getD "")

/-- A document that is neither array nor object. A fault has no text and is written as null. -/
def writeScalar : Json → String
  | .bool b => if b then "true" else "false"
  | .integer n => toString n
  | .real x => if x.isFinite then DecimalStyle.document.finite x else "null"
  | .string text => writeString text
  | _ => "null"

mutual

/-- The text of a document on one line. -/
def compact : Json → String
  | .array items => "[" ++ ",".intercalate (compactItems items) ++ "]"
  | .object entries => "\x7b" ++ ",".intercalate (compactEntries entries) ++ "\x7d"
  | scalar => writeScalar scalar

/-- The texts of the items of an array. -/
def compactItems : List Json → List String
  | [] => []
  | item :: rest => compact item :: compactItems rest

/-- The texts of the entries of an object. -/
def compactEntries : List (Option String × Json) → List String
  | [] => []
  | (key, value) :: rest => (writeKey key ++ ":" ++ compact value) :: compactEntries rest

end

/-- The beginning of a line on the given level. -/
def lineBreak (level : Nat) : String :=
  String.ofList ('\n' :: List.replicate (2 * level) ' ')

/-- The parts between their brackets, each on a line of its own. -/
def bracketed (level : Nat) (opening closing : String) (parts : List String) : String :=
  if parts.isEmpty then opening ++ closing
  else opening ++ lineBreak (level + 1) ++ ("," ++ lineBreak (level + 1)).intercalate parts ++
    lineBreak level ++ closing

mutual

/-- The text of a document over several lines, inside as many levels as given. -/
def pretty (level : Nat) : Json → String
  | .array items => bracketed level "[" "]" (prettyItems (level + 1) items)
  | .object entries => bracketed level "\x7b" "\x7d" (prettyEntries (level + 1) entries)
  | scalar => writeScalar scalar

/-- The texts of the items of an array. -/
def prettyItems (level : Nat) : List Json → List String
  | [] => []
  | item :: rest => pretty level item :: prettyItems level rest

/-- The texts of the entries of an object. -/
def prettyEntries (level : Nat) : List (Option String × Json) → List String
  | [] => []
  | (key, value) :: rest =>
    (writeKey key ++ ": " ++ pretty level value) :: prettyEntries level rest

end

end Json

end Understudy
