import Understudy.Fault

/-!
# Cells

A cell holds the value of the properties that it backs. It is held to the declared type of every
property that it was ever attached to: a value that one of them does not accept is refused.
-/

namespace Understudy

/-- What a cell is held to by a property. -/
structure CellBinding where
  /-- The label of the property. -/
  member : String
  /-- The declared type. -/
  ty : Option Ty
  /-- How numbers are held against it. -/
  coercion : Coercion

/-- The complaint about a value that the property does not accept. -/
def CellBinding.fault? (binding : CellBinding) (value : Value) : Option Fault :=
  Fault.ofResult? binding.coercion binding.member binding.ty value

/-- The value of the properties that a cell backs. -/
structure Cell where
  /-- The value. -/
  value : Value
  /-- What it is held to. -/
  bindings : List CellBinding

namespace Cell

/-- A cell that backs no property yet. -/
def ofValue (value : Value) : Cell := ⟨value, []⟩

/-- Replaces the value, if it is accepted everywhere. -/
def write (cell : Cell) (value : Value) : Except Fault Cell :=
  match cell.bindings.findSome? (·.fault? value) with
  | some fault => .error fault
  | none => .ok { cell with value }

/-- Holds the cell to one more property, if that accepts the value. A property of a label that is
    there already adds nothing. -/
def bind (cell : Cell) (binding : CellBinding) : Except Fault Cell :=
  match binding.fault? cell.value with
  | some fault => .error fault
  | none =>
    if cell.bindings.any (·.member == binding.member) then .ok cell
    else .ok { cell with bindings := cell.bindings ++ [binding] }

end Cell

end Understudy
