import Understudy.Json.Numeral
import Understudy.Text.Remainder

/-!
# Reading documents

The reader follows the text from left to right and builds the tree of what it meets. Where the
rules of the format are broken it leaves a fault and stops; everything read before stays in the
tree.
-/

namespace Understudy

namespace Json

/-- The blanks of the format. -/
def isSpace (c : Char) : Bool :=
  c = ' ' || c = '\t' || c = '\n' || c = '\r'

/-- The first character that is no blank, with what remains behind it. -/
def nextToken (text : List Char) : Option (Char × Remainder text) :=
  nextBeyond isSpace text

/-- What remains behind a word that the text continues with. -/
def afterWord : (word text : List Char) → Option (Remainder text)
  | [w], c :: text => if w = c then some (.tail c text) else none
  | w :: word, c :: text =>
    if w = c then (afterWord word text).map (Remainder.tail c text).trans else none
  | _, _ => none

/-- A part of a string: a character, or a unit of 16 bits written by an escape. -/
inductive StringUnit where
  | char (c : Char)
  | unit (n : Nat)

/-- The characters that the parts of a string spell. A unit from the upper half of a pair has to
    stand right before one from the lower half, which stands nowhere else. -/
def spell? : List StringUnit → Option (List Char)
  | [] => some []
  | .char c :: rest => (spell? rest).map (c :: ·)
  | .unit high :: .unit low :: rest =>
    if 0xd800 ≤ high ∧ high < 0xdc00 then
      if 0xdc00 ≤ low ∧ low < 0xe000 then
        (spell? rest).map (Char.ofNat (0x10000 + (high - 0xd800) * 0x400 + (low - 0xdc00)) :: ·)
      else none
    else if 0xdc00 ≤ high ∧ high < 0xe000 then none
    else (spell? (.unit low :: rest)).map (Char.ofNat high :: ·)
  | .unit n :: rest =>
    if 0xd800 ≤ n ∧ n < 0xe000 then none else (spell? rest).map (Char.ofNat n :: ·)

/-- The value of a hexadecimal digit. -/
def hexDigit? (c : Char) : Option Nat :=
  if c.isDigit then some (c.toNat - '0'.toNat)
  else if 'a' ≤ c ∧ c ≤ 'f' then some (c.toNat - 'a'.toNat + 10)
  else if 'A' ≤ c ∧ c ≤ 'F' then some (c.toNat - 'A'.toNat + 10)
  else none

/-- The character that a letter behind a backslash stands for. -/
def escaped? : Char → Option Char
  | '"' => some '"'
  | '\\' => some '\\'
  | '/' => some '/'
  | 'b' => some '\x08'
  | 'f' => some '\x0c'
  | 'n' => some '\n'
  | 'r' => some '\r'
  | 't' => some '\t'
  | _ => none

/-- The parts of a string up to its closing quote, and what remains behind that; nothing if the
    string breaks the rules of the format. -/
def readString : (text : List Char) → Option (List StringUnit × Remainder text)
  | [] => none
  | '"' :: rest => some ([], .tail _ rest)
  | '\\' :: 'u' :: a :: b :: c :: d :: rest => do
    let a' ← hexDigit? a
    let b' ← hexDigit? b
    let c' ← hexDigit? c
    let d' ← hexDigit? d
    let (units, after) ← readString rest
    some (.unit (((a' * 16 + b') * 16 + c') * 16 + d') :: units,
      after.within ⟨['\\', 'u', a, b, c, d], rfl⟩)
  | '\\' :: letter :: rest => do
    let c ← escaped? letter
    let (units, after) ← readString rest
    some (.char c :: units, after.within ⟨['\\', letter], rfl⟩)
  | c :: rest =>
    if c.toNat < 0x20 ∨ c = '\\' then none
    else do
      let (units, after) ← readString rest
      some (.char c :: units, (Remainder.tail c rest).trans after)

/-- The document of a string with the given parts. -/
def ofUnits (units : List StringUnit) : Json :=
  match spell? units with
  | some chars => .string (String.ofList chars)
  | none => .fault .unpairedSurrogate

/-- The digits that the text begins with, and what remains behind them; there is at least one. -/
def readDigits (text : List Char) : Option (List Char × Remainder text) :=
  match text with
  | c :: rest =>
    if c.isDigit then
      some (c :: rest.takeWhile Char.isDigit, (Remainder.tail c rest).dropWhile Char.isDigit)
    else none
  | [] => none

/-- The exponent of ten that is written behind its mark. -/
def readExponent (text : List Char) : Option (Int × Remainder text) :=
  match nextChar text with
  | some ('-', sign) =>
    (readDigits sign.rest).map fun (digits, after) => (-(ofDigits digits : Int), sign.trans after)
  | some ('+', sign) =>
    (readDigits sign.rest).map fun (digits, after) => ((ofDigits digits : Int), sign.trans after)
  | _ => (readDigits text).map fun (digits, after) => ((ofDigits digits : Int), after)

/-- The digits of the fraction that stands behind a whole part, if a point does. -/
def readFraction {text : List Char} (after : Remainder text) :
    Option (Option (List Char) × Remainder text) :=
  match nextChar after.rest with
  | some ('.', point) =>
    (readDigits point.rest).map fun (digits, behind) =>
      (some digits, after.trans (point.trans behind))
  | _ => some (none, after)

/-- The power of ten that stands behind the digits, if its mark does. -/
def readPower {text : List Char} (after : Remainder text) :
    Option (Option Int × Remainder text) :=
  match nextChar after.rest with
  | some (mark, behindMark) =>
    if mark = 'e' ∨ mark = 'E' then
      (readExponent behindMark.rest).map fun (power, behind) =>
        (some power, after.trans (behindMark.trans behind))
    else some (none, after)
  | none => some (none, after)

/-- The numeral that the text begins with after its sign, and what remains behind it. No zero may
    stand before another digit, and a point or a mark of an exponent needs digits behind it. -/
def readUnsigned (negative : Bool) (text : List Char) : Option (Numeral × Remainder text) :=
  (readDigits text).bind fun (whole, after) =>
    if whole.head? = some '0' ∧ whole.length ≠ 1 then none
    else
      (readFraction after).bind fun (fraction, after) =>
        (readPower after).map fun (exponent, after) =>
          (⟨negative, whole, fraction, exponent⟩, after)

/-- A scalar that the text begins with, and what remains behind it. -/
def readScalar (text : List Char) : Option (Json × Remainder text) :=
  match nextChar text with
  | some ('n', after) => (afterWord ['u', 'l', 'l'] after.rest).map (.null, after.trans ·)
  | some ('t', after) => (afterWord ['r', 'u', 'e'] after.rest).map (.bool true, after.trans ·)
  | some ('f', after) =>
    (afterWord ['a', 'l', 's', 'e'] after.rest).map (.bool false, after.trans ·)
  | some ('-', sign) =>
    (readUnsigned true sign.rest).map fun (numeral, after) => (numeral.toJson, sign.trans after)
  | _ => (readUnsigned false text).map fun (numeral, after) => (numeral.toJson, after)

mutual

/-- Reads one value. Nothing remains behind a value that holds a syntax error. -/
def readValue (text : List Char) : Json × Option (Remainder text) :=
  match nextToken text with
  | some ('{', opening) =>
    match nextToken opening.rest with
    | some ('}', after) => (.object [], some (opening.trans after))
    | _ =>
      let (entries, after) := readEntries opening.rest
      (.object entries, after.map opening.trans)
  | some ('[', opening) =>
    match nextToken opening.rest with
    | some (']', after) => (.array [], some (opening.trans after))
    | _ =>
      let (items, after) := readItems opening.rest
      (.array items, after.map opening.trans)
  | some ('"', opening) =>
    match readString opening.rest with
    | some (units, after) => (ofUnits units, some (opening.trans after))
    | none => (.fault .syntaxError, none)
  | _ =>
    match readScalar (text.dropWhile isSpace) with
    | some (value, after) => (value, some (after.within (List.dropWhile_suffix _)))
    | none => (.fault .syntaxError, none)
termination_by (text.length, 0)
decreasing_by
  · exact .left _ _ opening.shorter
  · exact .left _ _ opening.shorter

/-- Reads one or more values with commas between them and the closing bracket. -/
def readItems (text : List Char) : List Json × Option (Remainder text) :=
  match readValue text with
  | (value, none) => ([value], none)
  | (value, some after) =>
    match nextToken after.rest with
    | some (']', behind) => ([value], some (after.trans behind))
    | some (',', comma) =>
      let (items, behind) := readItems comma.rest
      (value :: items, behind.map fun r => after.trans (comma.trans r))
    | _ => ([value, .fault .syntaxError], none)
termination_by (text.length, 1)
decreasing_by
  · exact .right _ (by decide)
  · exact .left _ _ (Nat.lt_trans comma.shorter after.shorter)

/-- Reads one or more entries with commas between them and the closing brace. -/
def readEntries (text : List Char) :
    List (Option String × Json) × Option (Remainder text) :=
  match nextToken text with
  | some ('"', opening) =>
    match readString opening.rest with
    | none => ([(none, .fault .syntaxError)], none)
    | some (units, quote) =>
      let key := (spell? units).map String.ofList
      match nextToken quote.rest with
      | some (':', colon) =>
        match readValue colon.rest with
        | (value, none) => ([(key, value)], none)
        | (value, some after) =>
          match nextToken after.rest with
          | some ('}', behind) =>
            ([(key, value)], some (opening.trans (quote.trans (colon.trans (after.trans behind)))))
          | some (',', comma) =>
            let (entries, behind) := readEntries comma.rest
            ((key, value) :: entries, behind.map fun r =>
              opening.trans (quote.trans (colon.trans (after.trans (comma.trans r)))))
          | _ => ([(key, value), (none, .fault .syntaxError)], none)
      | _ => ([(key, .fault .syntaxError)], none)
  | _ => ([(none, .fault .syntaxError)], none)
termination_by (text.length, 1)
decreasing_by
  · have := opening.shorter; have := quote.shorter; have := colon.shorter
    exact .left _ _ (by omega)
  · have := opening.shorter; have := quote.shorter; have := colon.shorter
    have := after.shorter; have := comma.shorter
    exact .left _ _ (by omega)

end

end Json

/-- What a text holds as a document. -/
structure JsonText where
  /-- The document, up to its first syntax error. -/
  root : Json
  /-- Whether nothing but blanks stands behind the document. -/
  complete : Bool

/-- The document that the text holds. -/
def JsonText.read (text : String) : JsonText :=
  match Json.readValue text.toList with
  | (root, some after) => ⟨root, (Json.nextToken after.rest).isNone⟩
  | (root, none) => ⟨root, false⟩

end Understudy
