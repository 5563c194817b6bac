import Understudy.Ty.Annotation

/-!
# Reading annotations with a cursor

An annotation can be read in place: the text stays whole, and a cursor tells how many bytes of it
were read. Nothing about the cursor is taken for granted. Every place that it moves to, and both
ends of every slice that is read, have to be places before, between or behind the characters of
the text, and every reader spends fuel on the readers that it calls.

* `Cursor.whole` reads a whole text.
* `Cursor.moveTo` moves the cursor.
-/

namespace Understudy

namespace Cursor

open Annotation (isNameChar)

/-- Why reading ends without a type. -/
inductive Stop where
  /-- The text is no annotation. -/
  | refused (error : AnnotationError)
  /-- The cursor would leave the text or stand inside a character, or a slice would begin or end
      at such a place. -/
  | outOfText
  | outOfFuel
deriving DecidableEq

/-! ## Places in a text -/

/-- The characters before the offset and those behind it. -/
def splitAt : (text : List Char) → (offset : Nat) → Except Stop (List Char × List Char)
  | text, 0 => .ok ([], text)
  | [], _ + 1 => .error .outOfText
  | c :: rest, offset + 1 =>
    if c.utf8Size ≤ offset + 1 then do
      let (front, back) ← splitAt rest (offset + 1 - c.utf8Size)
      return (c :: front, back)
    else
      .error .outOfText

/-- The text from the offset on. -/
def sliceFrom (text : List Char) (offset : Nat) : Except Stop (List Char) := do
  let (_, back) ← splitAt text offset
  return back

/-- The part of the text from the offset on that takes the given number of bytes. -/
def slice (text : List Char) (offset length : Nat) : Except Stop (List Char) := do
  let (part, _) ← splitAt (← sliceFrom text offset) length
  return part

/-- The cursor at the offset. -/
def moveTo (text : List Char) (offset : Nat) : Except Stop Nat := do
  let _ ← splitAt text offset
  return offset

/-- The text is refused at the cursor. -/
def refuse {α : Type} (text : List Char) (pos : Nat) (fault : AnnotationFault) : Except Stop α :=
  .error (.refused ⟨String.ofList text, pos, fault⟩)

/-- The offset of the first character of a kind. -/
def find (p : Char → Bool) : List Char → Option Nat
  | [] => none
  | c :: rest => if p c then some 0 else (find p rest).map (c.utf8Size + ·)

/-- The offset of the bracket that closes the given number of open ones. Brackets inside quotes do
    not count. -/
def findClosing (depth : Nat) (quote : Option Char) : List Char → Option Nat
  | [] => none
  | c :: rest =>
    let onward (depth : Nat) (quote : Option Char) : Option Nat :=
      (findClosing depth quote rest).map (c.utf8Size + ·)
    match quote with
    | some q => onward depth (if c = q then none else some q)
    | none =>
      if c = '\'' ∨ c = '"' then onward depth (some c)
      else if c = '[' then onward (depth + 1) none
      else if c = ']' then
        if depth - 1 = 0 then some 0 else onward (depth - 1) none
      else onward depth none

/-! ## Characters and names -/

/-- Skips blanks. -/
def skip (text : List Char) (pos : Nat) : Except Stop Nat := do
  let rest ← sliceFrom text pos
  moveTo text (pos + (byteLength rest - byteLength (skipBlanks rest)))

/-- The next character that is not blank. -/
def peek (text : List Char) (pos : Nat) : Except Stop (Option Char × Nat) := do
  let pos ← skip text pos
  let rest ← sliceFrom text pos
  return (rest.head?, pos)

/-- Reads the character if it is the next one. -/
def eat (text : List Char) (c : Char) (pos : Nat) : Except Stop (Bool × Nat) := do
  let (next, pos) ← peek text pos
  if next = some c then
    return (true, ← moveTo text (pos + c.utf8Size))
  else
    return (false, pos)

/-- Reads a name. -/
def name (text : List Char) (pos : Nat) : Except Stop (List Char × Nat) := do
  let start ← skip text pos
  let rest ← sliceFrom text start
  let length := (find (fun c => !isNameChar c) rest).getD (byteLength rest)
  if length = 0 then
    refuse text start .expectedTypeName
  else
    let pos ← moveTo text (start + length)
    return (← slice text start length, pos)

/-- Passes over arguments that are not types. -/
def skipArguments (text : List Char) (pos : Nat) : Except Stop Nat := do
  let (opens, pos) ← eat text '[' pos
  if opens then
    match findClosing 1 none (← sliceFrom text pos) with
    | some offset => moveTo text (pos + offset + 1)
    | none =>
      let pos ← moveTo text (byteLength text)
      refuse text pos .unterminatedArguments
  else
    return pos

/-- Reads dots. -/
def dots : (fuel : Nat) → (text : List Char) → (pos : Nat) → Except Stop Nat
  | 0, _, _ => .error .outOfFuel
  | fuel + 1, text, pos => do
    let (dot, pos) ← eat text '.' pos
    if dot then dots fuel text pos else return pos

/-! ## Types -/

mutual

/-- Reads a whole text. -/
def whole : (fuel : Nat) → (text : List Char) → Except Stop Ty
  | 0, _ => .error .outOfFuel
  | fuel + 1, text => do
    let (types, pos) ← alternatives fuel text 0
    let pos ← skip text pos
    if pos = byteLength text then
      return .unionOf types
    else
      refuse text pos .trailingInput

/-- Reads alternatives with bars between them. -/
def alternatives : (fuel : Nat) → (text : List Char) → (pos : Nat) →
    Except Stop (List Ty × Nat)
  | 0, _, _ => .error .outOfFuel
  | fuel + 1, text, pos => do
    let (ty, pos) ← alternative fuel text pos
    let (bar, pos) ← eat text '|' pos
    if bar then
      let (types, pos) ← alternatives fuel text pos
      return (ty :: types, pos)
    else
      return ([ty], pos)

/-- Reads one alternative. -/
def alternative : (fuel : Nat) → (text : List Char) → (pos : Nat) → Except Stop (Ty × Nat)
  | 0, _, _ => .error .outOfFuel
  | fuel + 1, text, pos => do
    let (next, pos) ← peek text pos
    match next.filter fun c => c = '"' ∨ c = '\'' with
    | some quote => quoted fuel text quote pos
    | none => applied fuel text pos

/-- Reads the contents of quotes. -/
def quoted : (fuel : Nat) → (text : List Char) → (quote : Char) → (pos : Nat) →
    Except Stop (Ty × Nat)
  | 0, _, _, _ => .error .outOfFuel
  | fuel + 1, text, quote, pos => do
    let start ← moveTo text (pos + quote.utf8Size)
    match find (· = quote) (← sliceFrom text start) with
    | none => refuse text start .unterminatedQuote
    | some length =>
      let pos ← moveTo text (start + length + quote.utf8Size)
      let ty ← whole fuel (← slice text start length)
      return (ty, pos)

/-- Reads a name and what it is applied to. -/
def applied : (fuel : Nat) → (text : List Char) → (pos : Nat) → Except Stop (Ty × Nat)
  | 0, _, _ => .error .outOfFuel
  | fuel + 1, text, pos => do
    let (word, pos) ← name text pos
    let head := Head.ofName word
    if head = .literal then
      return (.any, ← skipArguments text pos)
    else
      let (types, pos) ← arguments fuel text pos
      match head.apply word types with
      | .error fault => refuse text pos fault
      | .ok ty => return (ty, pos)

/-- Reads arguments in brackets if there are any, and keeps those that count. -/
def arguments : (fuel : Nat) → (text : List Char) → (pos : Nat) → Except Stop (List Ty × Nat)
  | 0, _, _ => .error .outOfFuel
  | fuel + 1, text, pos => do
    let (opens, pos) ← eat text '[' pos
    if opens then
      let (closes, pos) ← eat text ']' pos
      if closes then return ([], pos) else argumentList fuel text [] pos
    else
      return ([], pos)

/-- Reads arguments with commas between them and the closing bracket. -/
def argumentList : (fuel : Nat) → (text : List Char) → (sofar : List Ty) → (pos : Nat) →
    Except Stop (List Ty × Nat)
  | 0, _, _, _ => .error .outOfFuel
  | fuel + 1, text, sofar, pos => do
    let (sofar, pos) ← argument fuel text sofar pos
    let (closes, pos) ← eat text ']' pos
    if closes then
      return (sofar, pos)
    else
      let (comma, pos) ← eat text ',' pos
      if comma then
        argumentList fuel text sofar pos
      else
        refuse text pos .expectedCommaOrBracket

/-- Reads one argument behind those that count so far. -/
def argument : (fuel : Nat) → (text : List Char) → (sofar : List Ty) → (pos : Nat) →
    Except Stop (List Ty × Nat)
  | 0, _, _, _ => .error .outOfFuel
  | fuel + 1, text, sofar, pos => do
    let (next, pos) ← peek text pos
    if next = some '[' then
      let (_, pos) ← arguments fuel text pos
      return (sofar ++ [.any], pos)
    else
      let (dot, pos) ← eat text '.' pos
      if dot then
        return ([], ← dots fuel text pos)
      else
        let (types, pos) ← alternatives fuel text pos
        return (sofar ++ [.unionOf types], pos)

end

end Cursor

end Understudy
