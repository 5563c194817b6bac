import Understudy.Text.Alphanumeric
import Understudy.Text.Remainder
import Understudy.Text.Quoted
import Understudy.Ty.Head

/-!
# Reading annotations

An annotation is one or more alternatives with bars between them. An alternative is a quoted
annotation, or a name with optional arguments in brackets. An argument is an annotation, a
bracketed list (the parameters of a callable, which accept everything), or an ellipsis, which
makes all arguments before it count for nothing. Blanks may stand around every part.

* `Ty.ofAnnotation` is total: each part leaves a proper end of the text (`Remainder`), and the
  contents of quotes are shorter than the text around them.
-/

namespace Understudy

/-- How many bytes the text takes in UTF-8. -/
def byteLength : (text : List Char) → Nat
  | [] => 0
  | c :: rest => c.utf8Size + byteLength rest

/-- Why a text is no annotation, and where. -/
structure AnnotationError where
  /-- The annotation, or the contents of the quotes in it in which the fault lies. -/
  input : String
  /-- The bytes of the input before the fault. -/
  position : Nat
  /-- What is wrong. -/
  fault : AnnotationFault
deriving DecidableEq

namespace AnnotationError

/-- The fault in the text right before its given end. -/
def before (text rest : List Char) (fault : AnnotationFault) : AnnotationError :=
  ⟨String.ofList text, byteLength text - byteLength rest, fault⟩

/-- The wording of the error. -/
def message (error : AnnotationError) : String :=
  "[TYPE_SYNTAX] cannot parse annotation " ++ quoted error.input ++ " at offset " ++
    toString error.position ++ ": " ++ error.fault.message

end AnnotationError

namespace Annotation

/-- One argument in brackets. -/
inductive Argument where
  | type (ty : Ty)
  | ellipsis
deriving DecidableEq

/-- The types among the arguments that count: those behind the last ellipsis. -/
def countingTypes : List Argument → List Ty :=
  List.foldl (fun sofar argument => match argument with
    | .type ty => sofar ++ [ty]
    | .ellipsis => []) []

/-- The characters of names. -/
def isNameChar (c : Char) : Bool :=
  isAlphanumeric c || c = '_' || c = '.'

theorem lengths_of_dropWhile {p : Char → Bool} {text rest : List Char} {c : Char}
    (h : text.dropWhile p = c :: rest) :
    (text.takeWhile p).length < text.length ∧ rest.length < text.length := by
  have whole := congrArg List.length (List.takeWhile_append_dropWhile (p := p) (l := text))
  rw [h, List.length_append, List.length_cons] at whole
  omega

/-- The contents of quotes and what remains behind the closing one. -/
def splitAtQuote (quote : Char) (text : List Char) :
    Option ({contents : List Char // contents.length < text.length} × Remainder text) :=
  match h : text.dropWhile (· ≠ quote) with
  | [] => none
  | c :: rest =>
    some (⟨text.takeWhile (· ≠ quote), (lengths_of_dropWhile h).1⟩,
      ⟨rest, (List.suffix_cons c rest).trans (h ▸ List.dropWhile_suffix _),
        (lengths_of_dropWhile h).2⟩)

/-- What remains behind the bracket that closes as many open ones as given and one more. Brackets
    inside quotes do not count. -/
def skipBracketed (depth : Nat) (quote : Option Char) : (text : List Char) →
    Option (Remainder text)
  | [] => none
  | c :: rest =>
    let here := Remainder.tail c rest
    let onward (depth : Nat) (quote : Option Char) : Option (Remainder (c :: rest)) :=
      (skipBracketed depth quote rest).map here.trans
    match quote with
    | some q => onward depth (if c = q then none else some q)
    | none =>
      if c = '\'' ∨ c = '"' then onward depth (some c)
      else if c = '[' then onward (depth + 1) none
      else if c = ']' then
        match depth with
        | 0 => some here
        | depth + 1 => onward depth none
      else onward depth none

mutual

/-- Reads a whole text. -/
def readWhole (text : List Char) : Except AnnotationError Ty :=
  match readAlternatives text text with
  | .error e => .error e
  | .ok (types, after) =>
    match skipBlanks after.rest with
    | [] => .ok (.unionOf types)
    | rest => .error (.before text rest .trailingInput)
termination_by (text.length, 4)

/-- Reads alternatives with bars between them from the given end of the text. -/
def readAlternatives (text rest : List Char) :
    Except AnnotationError (List Ty × Remainder rest) :=
  match readAlternative text rest with
  | .error e => .error e
  | .ok (ty, after) =>
    match nextVisible after.rest with
    | some ('|', bar) =>
      match readAlternatives text bar.rest with
      | .error e => .error e
      | .ok (types, behind) => .ok (ty :: types, after.trans (bar.trans behind))
    | _ => .ok ([ty], after)
termination_by (rest.length, 3)
decreasing_by
  · exact .right _ (by decide)
  · exact .left _ _ (Nat.lt_trans bar.shorter after.shorter)

/-- Reads one alternative. -/
def readAlternative (text rest : List Char) : Except AnnotationError (Ty × Remainder rest) :=
  match nextVisible rest with
  | none => .error (.before text [] .expectedTypeName)
  | some (c, after) =>
    if c = '"' ∨ c = '\'' then
      match splitAtQuote c after.rest with
      | none => .error (.before text after.rest .unterminatedQuote)
      | some (contents, behind) =>
        match readWhole contents.1 with
        | .error e => .error e
        | .ok ty => .ok (ty, after.trans behind)
    else if isNameChar c then
      let name := c :: after.rest.takeWhile isNameChar
      let after := after.dropWhile isNameChar
      match Head.ofName name, nextVisible after.rest with
      | .literal, some ('[', opening) =>
        match skipBracketed 0 none opening.rest with
        | none => .error (.before text [] .unterminatedArguments)
        | some behind => .ok (.any, after.trans (opening.trans behind))
      | head, some ('[', opening) =>
        match readArguments text opening.rest with
        | .error e => .error e
        | .ok (arguments, behind) =>
          match head.apply name (countingTypes arguments) with
          | .error fault => .error (.before text behind.rest fault)
          | .ok ty => .ok (ty, after.trans (opening.trans behind))
      | head, _ =>
        match head.apply name [] with
        | .error fault => .error (.before text (skipBlanks after.rest) fault)
        | .ok ty => .ok (ty, after)
    else .error (.before text (c :: after.rest) .expectedTypeName)
termination_by (rest.length, 2)
decreasing_by
  · exact .left _ _ (Nat.lt_trans contents.2 after.shorter)
  · exact .left _ _ (Nat.lt_trans opening.shorter after.shorter)

/-- Reads arguments and the closing bracket behind them. -/
def readArguments (text rest : List Char) :
    Except AnnotationError (List Argument × Remainder rest) :=
  match nextVisible rest with
  | some (']', after) => .ok ([], after)
  | _ => readArgumentList text rest
termination_by (rest.length, 6)

/-- Reads one or more arguments with commas between them and the closing bracket. -/
def readArgumentList (text rest : List Char) :
    Except AnnotationError (List Argument × Remainder rest) :=
  match readArgument text rest with
  | .error e => .error e
  | .ok (argument, after) =>
    match nextVisible after.rest with
    | some (']', behind) => .ok ([argument], after.trans behind)
    | some (',', comma) =>
      match readArgumentList text comma.rest with
      | .error e => .error e
      | .ok (arguments, behind) => .ok (argument :: arguments, after.trans (comma.trans behind))
    | _ => .error (.before text (skipBlanks after.rest) .expectedCommaOrBracket)
termination_by (rest.length, 5)
decreasing_by
  · exact .right _ (by decide)
  · exact .left _ _ (Nat.lt_trans comma.shorter after.shorter)

/-- Reads one argument. -/
def readArgument (text rest : List Char) :
    Except AnnotationError (Argument × Remainder rest) :=
  match nextVisible rest with
  | some ('[', opening) =>
    match readArguments text opening.rest with
    | .error e => .error e
    | .ok (_, behind) => .ok (.type .any, opening.trans behind)
  | some ('.', dot) => .ok (.ellipsis, dot.dropWhile fun c => isBlank c || c = '.')
  | _ =>
    match readAlternatives text rest with
    | .error e => .error e
    | .ok (types, after) => .ok (.type (.unionOf types), after)
termination_by (rest.length, 4)
decreasing_by
  · exact .left _ _ opening.shorter
  · exact .right _ (by decide)

end

end Annotation

/-- The type that an annotation declares. -/
def Ty.ofAnnotation (text : String) : Except AnnotationError Ty :=
  Annotation.readWhole text.toList

end Understudy
