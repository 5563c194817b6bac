import Understudy.Call.Arguments
import Understudy.Fault

/-!
# Asking for recorded calls

What the records of a member tell: how often it was called, and with what. A question that there
is no record for is refused.
-/

namespace Understudy

/-- The records of a member, with its label. -/
structure CallLog where
  /-- The label of the member. -/
  member : String
  /-- Its records, the oldest first. -/
  records : List Record

namespace CallLog

/-- How many calls were recorded. -/
def count (log : CallLog) : Nat := log.records.length

/-- Whether a call was recorded. -/
def wasCalled (log : CallLog) : Bool := 0 < log.count

/-- Refuses if a call was recorded. -/
def wasNotCalled (log : CallLog) : Except Fault Unit :=
  if log.count = 0 then .ok () else .error (.unexpectedCalls log.member log.count)

/-- The call that was recorded last. -/
def lastCall (log : CallLog) : Except Fault Summary :=
  match log.records.getLast? with
  | some record => .ok record.summary
  | none => .error (.noCallsRecorded log.member)

/-- The call at the position, counted from zero. -/
def nthCall (log : CallLog) (index : Nat) : Except Fault Summary :=
  match log.records[index]? with
  | some record => .ok record.summary
  | none => .error (.indexOutOfRange log.member index log.count)

end CallLog

end Understudy
