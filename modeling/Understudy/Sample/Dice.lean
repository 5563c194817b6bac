import Understudy.Stage.Run

/-!
# A source of random numbers on a stage

Code under test asks a source of random numbers for numbers and not for values. A mock of such a
source answers it with what its members answer, as far as that is a number of the right kind; any
other value is refused as a wrong result.

* `Dice.roll` stops at the first throw that is refused.
-/

namespace Understudy

namespace Dice

/-- What an answer says, read by `read?` as something of the declared type. -/
def convert {α : Type} (label : String) (expected : Ty) (read? : Value → Option α) :
    Answer → Except Fault α
  | .error fault => .error fault
  | .ok (.value value) =>
    match read? value with
    | some a => .ok a
    | none => .error (.returnType label expected value)
  | .ok _ => .error (.returnType label expected .nil)

/-- The integer that a value denotes. -/
def integer? : Value → Option Int64
  | .int n => some n
  | .float x => x.toInt64?
  | _ => none

/-- The floating-point number that stands for a value. -/
def real? : Value → Option Binary64
  | .float x => some x
  | .int n => some (.ofInt n.toInt)
  | _ => none

/-- The label of a member of the mock. -/
def label (stage : Stage) (mock : MockId) (member : String) : String :=
  match stage.mock mock with
  | .ok mock => mock.memberLabel member
  | .error _ => member

/-- A random integer between the bounds. -/
def randint (depth : Nat) (stage : Stage) (mock : MockId) (low high : Int64) :
    Option (Except Fault Int64 × Stage) :=
  (stage.run depth (.call mock "randint" (.ofList [.int low, .int high]))).map
    fun (answer, after) =>
      (convert (label stage mock "randint") .int integer? answer, after)

/-- A random number. -/
def random (depth : Nat) (stage : Stage) (mock : MockId) :
    Option (Except Fault Binary64 × Stage) :=
  (stage.run depth (.call mock "random" .empty)).map fun (answer, after) =>
    (convert (label stage mock "random") .float real? answer, after)

/-- Begins a new sequence of random numbers, by a number or by chance. -/
def seed (depth : Nat) (stage : Stage) (mock : MockId) (start : Option Int64) :
    Option (Except Fault Unit × Stage) :=
  let argument : Value := match start with
    | some n => .int n
    | none => .nil
  (stage.run depth (.call mock "seed" (.ofList [argument]))).map fun (answer, after) =>
    (answer.map fun _ => (), after)

/-- The sum of so many throws of a die with six sides, added to what was thrown before. -/
def rollOnto (depth : Nat) (mock : MockId) : (dice : Nat) → Int64 → Stage →
    Option (Except Fault Int64 × Stage)
  | 0, sum, stage => some (.ok sum, stage)
  | dice + 1, sum, stage =>
    (randint depth stage mock 1 6).bind fun (thrown, after) =>
      match thrown with
      | .error fault => some (.error fault, after)
      | .ok n => rollOnto depth mock dice (sum + n) after

/-- The sum of so many throws of a die with six sides. -/
def roll (depth : Nat) (stage : Stage) (mock : MockId) (dice : Nat) :
    Option (Except Fault Int64 × Stage) :=
  rollOnto depth mock dice 0 stage

end Dice

end Understudy
