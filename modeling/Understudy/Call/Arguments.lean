import Understudy.NameMap
import Understudy.Value.Display
import Understudy.Value.Equality

/-!
# Arguments and recorded calls

The arguments of a call are given by position or by name. Calls that a mock accepts are recorded
with a number that tells their order among all records of the mock.
-/

namespace Understudy

/-- The arguments of one call. -/
structure Arguments where
  /-- The arguments given by position. -/
  positional : List Value
  /-- The arguments given by name. -/
  named : NameMap Value

namespace Arguments

/-- The call without arguments. -/
def empty : Arguments := ⟨[], .empty⟩

instance : Inhabited Arguments := ⟨empty⟩

/-- The call with arguments by position only. -/
def ofList (positional : List Value) : Arguments := ⟨positional, .empty⟩

/-- Appends an argument by position. -/
def push (arguments : Arguments) (value : Value) : Arguments :=
  { arguments with positional := arguments.positional ++ [value] }

/-- Gives an argument by name, in place of an earlier one of that name. -/
def put (arguments : Arguments) (name : String) (value : Value) : Arguments :=
  { arguments with named := arguments.named.insert name value }

/-- The argument at the position. -/
def at? (arguments : Arguments) (index : Nat) : Option Value :=
  arguments.positional[index]?

/-- The argument of the name. -/
def get? (arguments : Arguments) (name : String) : Option Value :=
  arguments.named.get? name

/-- Whether there is no argument at all. -/
def isEmpty (arguments : Arguments) : Bool :=
  arguments.positional.isEmpty && arguments.named.isEmpty

/-- The arguments as they stand in a call. -/
def display (arguments : Arguments) : String :=
  "(" ++ commaSeparated (arguments.positional.map Value.display ++
    arguments.named.entries.map fun entry => entry.1 ++ "=" ++ entry.2.display) ++ ")"

/-- Equality of arguments: equal values at the same positions and under the same names. -/
def same (a b : Arguments) : Bool :=
  sameInOrder Value.same a.positional b.positional &&
    sameInOrder (samePair (· == ·) Value.same) a.named.entries b.named.entries

end Arguments

/-- A call that was accepted. -/
structure Record where
  /-- Its arguments. -/
  arguments : Arguments
  /-- Its place among all records of the mock. -/
  seq : UInt64

/-- What is told of a recorded call. -/
inductive Summary where
  /-- A call without named arguments. -/
  | positional (arguments : List Value)
  /-- A call with named arguments. -/
  | withNamed (arguments : List Value) (named : NameMap Value)

/-- The summary of a recorded call. -/
def Record.summary (record : Record) : Summary :=
  if record.arguments.named.isEmpty then .positional record.arguments.positional
  else .withNamed record.arguments.positional record.arguments.named

end Understudy
