import Understudy.Text.DottedName
import Understudy.Ty.Basic

/-!
# What a type name stands for

In an annotation a name, with or without arguments in brackets, is understood by its last
dot-separated part: `typing.List` is `List`. A few dozen names have a meaning of their own; every
other name stands for itself, and its arguments are read but not kept.
-/

namespace Understudy

/-- The meaning of a name at the head of an annotation. -/
inductive Head where
  /-- A type without arguments; arguments are read and dropped. -/
  | constant (ty : Ty)
  | list
  | set
  | map
  | tuple
  | optional
  | union
  /-- A wrapper that says something about its first argument, which is the type. -/
  | wrapper
  /-- A type given by its values; the arguments are not types. -/
  | literal
  /-- A name without a meaning of its own. -/
  | own
deriving DecidableEq

namespace Head

/-- The names that have a meaning of their own. -/
def meanings : List (String × Head) :=
  [("Any", .constant .any), ("object", .constant .any),
    ("None", .constant .nil), ("NoneType", .constant .nil),
    ("bool", .constant .bool), ("int", .constant .int), ("float", .constant .float),
    ("str", .constant .str),
    ("list", .list), ("List", .list), ("Sequence", .list), ("MutableSequence", .list),
    ("set", .set), ("Set", .set), ("frozenset", .set), ("FrozenSet", .set),
    ("AbstractSet", .set),
    ("dict", .map), ("Dict", .map), ("Mapping", .map), ("MutableMapping", .map),
    ("tuple", .tuple), ("Tuple", .tuple),
    ("Optional", .optional), ("Union", .union), ("Literal", .literal),
    -- Protocols: a value cannot be checked against them.
    ("Iterable", .constant .any), ("Iterator", .constant .any), ("Collection", .constant .any),
    ("Container", .constant .any), ("Reversible", .constant .any),
    ("Generator", .constant .any), ("AsyncIterable", .constant .any),
    ("AsyncIterator", .constant .any), ("AsyncGenerator", .constant .any),
    ("Awaitable", .constant .any), ("Coroutine", .constant .any), ("Callable", .constant .any),
    ("Hashable", .constant .any), ("Sized", .constant .any), ("type", .constant .any),
    ("Type", .constant .any),
    ("Annotated", .wrapper), ("Final", .wrapper), ("ClassVar", .wrapper),
    ("Required", .wrapper), ("NotRequired", .wrapper), ("ReadOnly", .wrapper)]

/-- The meaning of a name. -/
def ofName (name : List Char) : Head :=
  (meanings.lookup (String.ofList (lastPart name))).getD .own

end Head

/-- What can be wrong with an annotation. -/
inductive AnnotationFault where
  | expectedTypeName
  | expectedCommaOrBracket
  | unterminatedArguments
  | unterminatedQuote
  | tooManyArguments
  | optionalArity
  | emptyUnion
  | trailingInput
deriving DecidableEq

namespace AnnotationFault

/-- The wording of a fault. -/
def message : AnnotationFault → String
  | .expectedTypeName => "expected a type name"
  | .expectedCommaOrBracket => "expected ',' or ']'"
  | .unterminatedArguments => "unterminated type arguments"
  | .unterminatedQuote => "unterminated quoted annotation"
  | .tooManyArguments => "too many type arguments"
  | .optionalArity => "Optional takes exactly one type argument"
  | .emptyUnion => "Union needs at least one type argument"
  | .trailingInput => "unexpected trailing input"

end AnnotationFault

/-- The type that a name with its arguments stands for. A missing argument accepts everything. -/
def Head.apply (head : Head) (name : List Char) (arguments : List Ty) :
    Except AnnotationFault Ty :=
  match head with
  | .constant ty => .ok ty
  | .list =>
    match arguments with
    | [] => .ok (.list .any)
    | [item] => .ok (.list item)
    | _ => .error .tooManyArguments
  | .set =>
    match arguments with
    | [] => .ok (.set .any)
    | [item] => .ok (.set item)
    | _ => .error .tooManyArguments
  | .map =>
    match arguments with
    | [] => .ok (.map .any .any)
    | [key] => .ok (.map key .any)
    | [key, value] => .ok (.map key value)
    | _ => .error .tooManyArguments
  | .tuple => .ok (.tuple arguments)
  | .optional =>
    match arguments with
    | [ty] => .ok (.optional ty)
    | _ => .error .optionalArity
  | .union => if arguments.isEmpty then .error .emptyUnion else .ok (.unionOf arguments)
  | .wrapper => .ok (arguments.headD .any)
  | .literal => .ok .any
  | .own => .ok (.named (String.ofList name))

end Understudy
