import Understudy.Text.Quoted

/-!
# Errors that a test hands to a mock

A test may have a mock fail with an error of its own. The mock keeps the error object itself and
hands it back unchanged, so an error that was handed over once is the same object whenever it
comes back.
-/

namespace Understudy

/-- An error of a test. -/
inductive Failure where
  /-- A simulated fault of a disk. -/
  | diskOnFire (disk : String)
  /-- A simulated wait that was given up after so many milliseconds. -/
  | timeout (millis : UInt64)
  /-- A request that failed for a reason. -/
  | requestFailed (cause : Failure)
  /-- An error object that was made before, handed over as an error again. -/
  | rewrapped (identity : Nat) (error : Failure)
deriving DecidableEq

/-- What an error is, to one who asks for its type. -/
inductive FailureType where
  | testError
  | requestFailed
  | raisedError
deriving DecidableEq

namespace Failure

/-- The text of the error. An error object handed over again speaks for the error in it. -/
def display : Failure → String
  | .diskOnFire disk => "disk on fire: " ++ disk
  | .timeout millis => "timed out after " ++ toString millis.toNat ++ " ms"
  | .requestFailed _ => "request failed"
  | .rewrapped _ error => error.display

/-- The error with its parts. -/
def inspect : Failure → String
  | .diskOnFire disk => "DiskOnFire(" ++ quoted disk ++ ")"
  | .timeout millis => "Timeout \x7b millis: " ++ toString millis.toNat ++ " \x7d"
  | .requestFailed cause => "RequestFailed \x7b cause: " ++ cause.inspect ++ " \x7d"
  | .rewrapped _ error => error.inspect

/-- The texts of the errors behind this one, from the nearest on. -/
def sources : Failure → List String
  | .diskOnFire _ | .timeout _ => []
  | .requestFailed cause => cause.display :: cause.sources
  | .rewrapped _ error => error.sources

/-- The type of the error. -/
def type : Failure → FailureType
  | .diskOnFire _ | .timeout _ => .testError
  | .requestFailed _ => .requestFailed
  | .rewrapped _ _ => .raisedError

end Failure

/-- An error object, as a mock keeps it. Two of them are the same object if they have the same
    identity. -/
structure Raised where
  /-- Which object it is. -/
  identity : Nat
  /-- The error in it. -/
  error : Failure
deriving DecidableEq

/-- The error object handed over as an error again. -/
def Raised.asFailure (raised : Raised) : Failure :=
  .rewrapped raised.identity raised.error

end Understudy
