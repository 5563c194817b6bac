/-!
# Declared types

The type that is declared for a parameter, a result, a property or a field. Unions are made by
`Ty.unionOf`, which flattens alternatives that are unions themselves and drops repetitions.

* `Ty.beq_iff`: types are compared by their structure.
* `Ty.display` writes a type the way it is annotated.
-/

namespace Understudy

/-- A declared type. -/
inductive Ty where
  /-- Accepts every value. -/
  | any
  /-- The type of the marker for "no value". -/
  | nil
  | bool
  | int
  | float
  | str
  | list (item : Ty)
  /-- Tuples of the given shape; without elements, tuples of every shape. -/
  | tuple (items : List Ty)
  | set (item : Ty)
  | map (key value : Ty)
  /-- Accepts what any of the alternatives accepts. -/
  | union (alternatives : List Ty)
  /-- A type known by its name only. -/
  | named (name : String)
deriving Inhabited

namespace Ty

mutual

/-- Whether two types are built alike. -/
def beq : Ty → Ty → Bool
  | .any, .any | .nil, .nil | .bool, .bool | .int, .int | .float, .float | .str, .str => true
  | .list a, .list b => beq a b
  | .tuple as, .tuple bs => beqAll as bs
  | .set a, .set b => beq a b
  | .map k v, .map l w => beq k l && beq v w
  | .union as, .union bs => beqAll as bs
  | .named m, .named n => m == n
  | _, _ => false

/-- Whether two lists of types are built alike. -/
def beqAll : List Ty → List Ty → Bool
  | [], [] => true
  | a :: as, b :: bs => beq a b && beqAll as bs
  | _, _ => false

end

mutual

theorem beq_iff (a b : Ty) : beq a b = true ↔ a = b := by
  cases a <;> cases b <;> simp [beq, beq_iff, beqAll_iff]

theorem beqAll_iff (as bs : List Ty) : beqAll as bs = true ↔ as = bs := by
  cases as <;> cases bs <;> simp [beqAll, beq_iff, beqAll_iff]

end

instance : DecidableEq Ty := fun a b => decidable_of_iff _ (beq_iff a b)

/-- The types that an alternative contributes to a union: its own alternatives if it is one. -/
def alternatives : Ty → List Ty
  | .union inner => inner
  | other => [other]

/-- Appends the type unless it is there. -/
def addAlternative (sofar : List Ty) (ty : Ty) : List Ty :=
  if ty ∈ sofar then sofar else sofar ++ [ty]

/-- The union of the types: unions among them are flattened, repetitions dropped, and a single
    alternative that remains stands for itself. -/
def unionOf (types : List Ty) : Ty :=
  match (types.flatMap alternatives).foldl addAlternative [] with
  | [single] => single
  | several => .union several

/-- The type or no value. -/
def optional (ty : Ty) : Ty :=
  unionOf [ty, .nil]

mutual

/-- Whether the marker for "no value" is among what is accepted by declaration. -/
def isOptional : Ty → Bool
  | .nil | .any => true
  | .union alternatives => anyOptional alternatives
  | _ => false

/-- Whether one of the types is optional. -/
def anyOptional : List Ty → Bool
  | [] => false
  | ty :: rest => isOptional ty || anyOptional rest

end

mutual

/-- The annotation text of a type. -/
def display : Ty → String
  | .any => "Any"
  | .nil => "None"
  | .bool => "bool"
  | .int => "int"
  | .float => "float"
  | .str => "str"
  | .list item => "list[" ++ display item ++ "]"
  | .tuple [] => "tuple"
  | .tuple (item :: items) =>
    "tuple[" ++ ", ".intercalate (display item :: displayAll items) ++ "]"
  | .set item => "set[" ++ display item ++ "]"
  | .map key value => "dict[" ++ display key ++ ", " ++ display value ++ "]"
  | .union alternatives => " | ".intercalate (displayAll alternatives)
  | .named name => name

/-- The annotation texts of several types. -/
def displayAll : List Ty → List String
  | [] => []
  | ty :: rest => display ty :: displayAll rest

end

end Ty

end Understudy
