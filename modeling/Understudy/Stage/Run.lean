import Understudy.Stage.Basic

/-!
# Running operations

An operation is begun, and if its outcome is a function the function is run on the stage as it is
then. The operations that the function performs are run in the same way, and may be calls whose
outcomes are functions again. How deep such calls may lie in one another is given beforehand; an
operation that would go deeper has no result.

* `Stage.run_finished`: an operation whose outcome is no function needs no depth.
-/

namespace Understudy

/-- Runs a script on a stage, given what its operations do. -/
def Script.run (perform : Operation → Stage → Option (Answer × Stage)) :
    Script → Stage → Option (Value × Stage)
  | .settle value, stage => some (value, stage)
  | .perform operation next, stage =>
    (perform operation stage).bind fun result => (next result.1).run perform result.2

namespace Stage

/-- Runs an operation in which functions call one another at most as deep as given. -/
def run : (depth : Nat) → Operation → Stage → Option (Answer × Stage)
  | depth, operation, stage =>
    match stage.begin operation, depth with
    | (.finished answer, stage), _ => some (answer, stage)
    | (.running _, _), 0 => none
    | (.running script, stage), depth + 1 =>
      (script.run (run depth) stage).map fun result => (.ok (.value result.1), result.2)

theorem run_finished {stage after : Stage} {operation : Operation} {answer : Answer}
    (h : stage.begin operation = (.finished answer, after)) (depth : Nat) :
    run depth operation stage = some (answer, after) := by
  unfold run
  rw [h]

end Stage

end Understudy
