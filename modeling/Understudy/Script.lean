import Understudy.Call.Arguments
import Understudy.Fault
import Understudy.Settings
import Understudy.Surface.Basic

/-!
# Operations, and scripts made of them

All that happens on a stage happens by operations: mocks and cells are made, members are called,
read and written, rules are declared, cells are attached and written. An outcome of a rule may be
a function of the arguments. It may itself perform operations before it settles on a value, so
what it answers is a *script*: either the value, or an operation and how to go on with its answer.
-/

namespace Understudy

/-- A value that is kept in one place and known by where it is kept. -/
structure Shared (α : Type) where
  /-- Which object it is. -/
  identity : Nat
  /-- What is kept. -/
  value : α
deriving Inhabited

/-- Which mock of a stage. -/
structure MockId where
  /-- How many mocks were made before it. -/
  index : Nat
deriving DecidableEq, Inhabited

/-- Which cell of a stage. -/
structure CellId where
  /-- How many cells were made before it. -/
  index : Nat
deriving DecidableEq, Inhabited

/-- A call that was rehearsed on a member and not made. -/
structure Token where
  /-- The mock of the member. -/
  mock : MockId
  /-- The label of the member. -/
  member : String
  /-- The arguments. -/
  arguments : Arguments

/-- Equality of rehearsals. -/
def Token.same (a b : Token) : Bool :=
  a.mock == b.mock && a.member == b.member && a.arguments.same b.arguments

/-- Which calls a declared rule is meant for. -/
inductive Pattern where
  /-- Every call. -/
  | anyCall
  /-- The calls with the rehearsed arguments. -/
  | rehearsed (token : Token)
  /-- The calls with certain arguments. -/
  | satisfying (p : Arguments → Bool)

/-- What an operation answers when it is not refused. -/
inductive Reply where
  /-- Nothing but that it was done. -/
  | done
  | value (value : Value)
  | mock (id : MockId)
  | cell (id : CellId)
  /-- The records of a member, with its label. -/
  | records (member : String) (records : List Record)

/-- What comes of an operation. -/
abbrev Answer := Except Fault Reply

mutual

/-- What a function does before it settles on a value. -/
inductive Script where
  /-- It settles on the value. -/
  | settle (value : Value)
  /-- It performs the operation, and goes on with the answer. -/
  | perform (operation : Operation) (next : Answer → Script)

/-- What a rule makes of a call. -/
inductive Outcome where
  /-- The call answers the value. -/
  | value (value : Value)
  /-- The call fails with the error. -/
  | failure (error : Raised)
  /-- The call answers what the function makes of the arguments, whatever it is. -/
  | function (f : Arguments → Script)

/-- What may happen on a stage. -/
inductive Operation where
  /-- A mock of the surface is made. -/
  | createMock (surface : Shared Surface) (settings : Settings)
  /-- A cell is made that holds the value. -/
  | createCell (value : Value)
  /-- A method or callable is called. -/
  | call (mock : MockId) (member : String) (arguments : Arguments)
  /-- A property or field is read. -/
  | get (mock : MockId) (member : String)
  /-- A property or field is written. -/
  | set (mock : MockId) (member : String) (value : Value)
  /-- A rule is declared. -/
  | declare (mock : MockId) (member : String) (pattern : Pattern) (outcomes : List Outcome)
  /-- A property is backed by the cell. -/
  | attach (mock : MockId) (member : String) (cell : CellId)
  /-- A cell is written. -/
  | write (cell : CellId) (value : Value)
  /-- The value of a cell is told. -/
  | peek (cell : CellId)
  /-- The records of a member are told. -/
  | records (mock : MockId) (member : String)
  /-- Rules and records of a mock are forgotten. -/
  | reset (mock : MockId)

end

instance : Inhabited Script := ⟨.settle .nil⟩
instance : Inhabited Outcome := ⟨.value .nil⟩

end Understudy
