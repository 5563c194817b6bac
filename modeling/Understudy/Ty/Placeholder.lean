import Understudy.Ty.Basic
import Understudy.Value.Basic

/-!
# Placeholders

The value that stands in for a result nobody declared: zero, empty, or the marker for "no value".
-/

namespace Understudy

/-- The placeholder for a declared type, or for no declared type. -/
def Ty.placeholder : Option Ty → Value
  | some .str => .str ""
  | some .int => .int 0
  | some .bool => .bool false
  | some .float => .float (.zero false)
  | some (.map _ _) => .map []
  | some (.list _) => .list []
  | some (.tuple _) => .tuple []
  | some (.set _) => .set []
  | some .any | some .nil | some (.union _) | some (.named _) | none => .nil

end Understudy
