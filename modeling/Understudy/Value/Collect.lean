import Understudy.NameMap
import Understudy.Value.Equality

/-!
# Building collections without repetition

A set built from a list of elements keeps the first of equal elements. A map built from a list of
entries keeps every key where it first appeared, with the value of its last entry. An object
keeps the last value of each field, its fields in order of their names.
-/

namespace Understudy

namespace Value

/-- Appends the element unless it equals one that is there. -/
def addElement (items : List Value) (item : Value) : List Value :=
  if items.any (same · item) then items else items ++ [item]

/-- The set of the elements. -/
def setOf (items : List Value) : Value :=
  .set (items.foldl addElement [])

/-- Gives the first equal key the value, or appends the entry if there is none. -/
def putEntry (key value : Value) : List (Value × Value) → List (Value × Value)
  | [] => [(key, value)]
  | head :: rest =>
    if same head.1 key then (head.1, value) :: rest else head :: putEntry key value rest

/-- The map of the entries. -/
def mapOf (entries : List (Value × Value)) : Value :=
  .map (entries.foldl (fun sofar entry => putEntry entry.1 entry.2 sofar) [])

/-- The object of the named type with the given fields. -/
def objectOf (typeName : String) (fields : List (String × Value)) : Value :=
  .object typeName (Entries.ofList fields)

end Value

end Understudy
