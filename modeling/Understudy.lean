import Understudy.Agency
import Understudy.Cache
import Understudy.Call.Arguments
import Understudy.Call.Binding
import Understudy.Call.Encoding
import Understudy.Call.Log
import Understudy.Cell
import Understudy.Failure
import Understudy.Fault
import Understudy.Inspect
import Understudy.Json.Basic
import Understudy.Json.Decode
import Understudy.Json.Numeral
import Understudy.Json.Reader
import Understudy.Json.Writer
import Understudy.Mock
import Understudy.NameMap
import Understudy.Number.Binary64
import Understudy.Number.DecimalReading
import Understudy.Number.DecimalText
import Understudy.Number.Power
import Understudy.Number.Rounding
import Understudy.Number.Shortest
import Understudy.Number.Word
import Understudy.Proofs.Stage.Effect
import Understudy.Proofs.Stage.Lookup
import Understudy.Rule
import Understudy.Sample.Dice
import Understudy.Sample.Surfaces
import Understudy.Script
import Understudy.Settings
import Understudy.Stage.Basic
import Understudy.Stage.Run
import Understudy.Surface.Basic
import Understudy.Surface.Declare
import Understudy.Surface.Encoding
import Understudy.Surface.Member
import Understudy.Surface.Param
import Understudy.Surface.Signature
import Understudy.Text.Alphanumeric
import Understudy.Text.Blank
import Understudy.Text.DottedName
import Understudy.Text.GraphemeExtend
import Understudy.Text.Quoted
import Understudy.Text.Ranges
import Understudy.Text.Remainder
import Understudy.Text.Unprintable
import Understudy.Ty.Acceptance
import Understudy.Ty.Annotation
import Understudy.Ty.Basic
import Understudy.Ty.Head
import Understudy.Ty.Placeholder
import Understudy.Value.Basic
import Understudy.Value.Collect
import Understudy.Value.Display
import Understudy.Value.Encoding
import Understudy.Value.Equality
import Understudy.Proofs.Stage.Session
import Understudy.Proofs.Stage.History
import Understudy.Proofs.Stage.Resolution
import Understudy.Proofs.Stage.Records
import Understudy.Proofs.Stage.Numbering
import Understudy.Stage.InPlace
import Understudy.Proofs.Stage.InPlace
import Understudy.Proofs.Stage.Refusal
import Understudy.Proofs.Call.Delivery
import Understudy.Proofs.Stage.Holding
import Understudy.Proofs.Stage.Typed
import Understudy.Proofs.Stage.Returns
import Understudy.Proofs.Surface.Rebuild
import Understudy.Proofs.Stage.Shift
import Understudy.Proofs.Stage.ShiftRun
import Understudy.Proofs.Stage.Renewal
import Understudy.Proofs.Stage.Nesting
import Understudy.Proofs.Ty.Parts
import Understudy.Proofs.Ty.Union
import Understudy.Proofs.Ty.Reading
import Understudy.Proofs.Ty.Text
import Understudy.Proofs.Ty.Reread
import Understudy.Proofs.Ty.Image
import Understudy.Proofs.Ty.RoundTrip
import Understudy.Proofs.Stage.Viewpoint
import Understudy.Proofs.Stage.Concerned
import Understudy.Proofs.Stage.Independence
import Understudy.Proofs.Json.Scalar
import Understudy.Proofs.Json.Text
import Understudy.Proofs.Value.RoundTrip
import Understudy.Proofs.Surface.RoundTrip
import Understudy.Proofs.Value.Equivalence
import Understudy.Proofs.Cell.Constraint
import Understudy.Proofs.Stage.Backing
import Understudy.Proofs.Value.Lossless
import Understudy.Proofs.Call.Lossless
import Understudy.Proofs.Value.Reordering
import Understudy.Proofs.Call.Indifference
import Understudy.Proofs.Value.Collect
import Understudy.Proofs.Ty.Coercion
import Understudy.Proofs.Call.ByName
import Understudy.Proofs.Ty.Extension
import Understudy.Proofs.Ty.Spelling
import Understudy.Proofs.Ty.Declarable
import Understudy.Proofs.Ty.Faults
import Understudy.Ty.Cursor
import Understudy.Proofs.Ty.Cursor
import Understudy.Proofs.Surface.Acceptance
import Understudy.Proofs.Stage.Recall
import Understudy.Proofs.Stage.Rehearsal
import Understudy.Proofs.Number.Nearest
import Understudy.Proofs.Sample.Dice
import Understudy.Proofs.Ty.Grouping
import Understudy.Proofs.Sample.Agreement
import Understudy.Proofs.Sample.Rolling
import Understudy.Proofs.Cache.Extraction
