import Understudy.Proofs.Stage.History

/-!
# What is recorded

The records of a member follow from its history: for a callable member they are the calls since
the last reset, for a property the readings, and a field has none.

* `History.log`: what the history tells of the records.
* `Session.told`: on every stage of every session the records of a member are these.
-/

namespace Understudy

/-! ## Records and the history of a member -/

/-- The arguments that a member of the kind records when the thing happens to it. -/
def Happening.recorded? (kind : MemberKind) : Happening → Option Arguments
  | .called arguments => some arguments
  | .read => if kind = .property then some .empty else none
  | .declared _ _ | .forgotten => none

namespace History

/-- All that a member of the kind ever recorded, the latest at the head. -/
def recordings (kind : MemberKind) (history : History) : List Arguments :=
  history.filterMap (Happening.recorded? kind)

/-- What happened since the last reset, the latest at the head. -/
def sinceReset : History → History
  | [] => []
  | .forgotten :: _ => []
  | happening :: before => happening :: sinceReset before

/-- What a member of the kind recorded since the last reset, in the order of recording. -/
def log (kind : MemberKind) (history : History) : List Arguments :=
  (recordings kind history.sinceReset).reverse

theorem log_of_recorded {kind : MemberKind} {happening : Happening} {history : History}
    {arguments : Arguments} (h : happening.recorded? kind = some arguments) :
    log kind (happening :: history) = log kind history ++ [arguments] := by
  cases happening with
  | forgotten => cases h
  | declared | called | read =>
    rw [log, sinceReset, recordings, List.filterMap_cons_some h, List.reverse_cons]
    · rfl
    · simp

theorem log_of_unrecorded {kind : MemberKind} {happening : Happening} {history : History}
    (h : happening.recorded? kind = none) (kept : happening ≠ .forgotten) :
    log kind (happening :: history) = log kind history := by
  rw [log, sinceReset, recordings, List.filterMap_cons_none h]
  · rfl
  · exact kept

end History

namespace MemberState

/-- The records of a state, if there is a state. -/
def recordsOf : Option MemberState → List Record
  | some state => state.records
  | none => []

/-- Whether the state, if there is one, is one of a member of the kind. -/
def FitsIfAny : Option MemberState → MemberKind → Prop
  | some state, kind => state.Fits kind
  | none, _ => True

end MemberState

/-- The records of the state are those that the history tells, and where there is no state nothing
    was recorded. -/
structure History.Tells (history : History) (state : Option MemberState) : Prop where
  log : ∀ kind, MemberState.FitsIfAny state kind →
    (MemberState.recordsOf state).map (·.arguments) = history.log kind
  unmade : state = none → ∀ kind, history.recordings kind = []

namespace History.Tells

variable {history : History} {before after : Option MemberState} {happening : Happening}

/-- A recording adds one record to a state that is there. -/
theorem record (h : history.Tells before) {state : MemberState} {record : Record}
    (recorded : ∀ kind, state.Fits kind → happening.recorded? kind = some record.arguments)
    (fits : ∀ kind, state.Fits kind → MemberState.FitsIfAny before kind)
    (more : state.records = MemberState.recordsOf before ++ [record]) :
    Tells (happening :: history) (some state) := by
  refine ⟨fun kind here => ?_, fun absent => by cases absent⟩
  rw [History.log_of_recorded (recorded kind here), ← h.log kind (fits kind here),
    MemberState.recordsOf, more, List.map_append]
  rfl

/-- What is not recorded leaves the records. -/
theorem keep (h : history.Tells before) {state : MemberState}
    (unrecorded : ∀ kind, state.Fits kind → happening.recorded? kind = none)
    (kept : happening ≠ .forgotten)
    (fits : ∀ kind, state.Fits kind → MemberState.FitsIfAny before kind)
    (same : state.records = MemberState.recordsOf before) :
    Tells (happening :: history) (some state) := by
  refine ⟨fun kind here => ?_, fun absent => by cases absent⟩
  rw [History.log_of_unrecorded (unrecorded kind here) kept, ← h.log kind (fits kind here),
    MemberState.recordsOf, same]

end History.Tells

theorem MemberState.Moves.tells {before after : Option MemberState}
    {happening : Option Happening} {history : History} (move : Moves before happening after)
    (h : history.Tells before) : History.Tells (happening.toList ++ history) after := by
  cases move with
  | stays => exact h
  | @made kind =>
    -- A member that is made has no records, and its history none either.
    refine ⟨fun kind' _ => ?_, fun absent => by cases absent⟩
    rw [Option.toList_none, List.nil_append, ← h.log kind' trivial]
    cases kind <;> rfl
  | called same => exact h.record (fun _ _ => by rw [same]; rfl) (fun _ fits => fits) rfl
  | declared =>
    exact h.keep (fun _ _ => rfl) (by simp) (fun _ fits => fits) rfl
  | readField =>
    -- The state is one of a field, and a field records no readings.
    refine h.keep (fun kind fits => ?_) (by simp) (fun _ fits => fits) rfl
    obtain rfl : kind = .field := fits
    rfl
  | readProperty same =>
    refine h.record (fun kind fits => ?_) (fun _ fits => fits) rfl
    obtain rfl : kind = .property := fits
    rw [same]
    rfl
  | written => exact ⟨h.log, fun absent => by cases absent⟩
  | attached => exact ⟨h.log, fun absent => by cases absent⟩
  | forgotten =>
    refine ⟨fun kind _ => ?_, fun absent kind => ?_⟩
    · rcases before with _ | _ | _ | _ <;> rfl
    · exact h.unmade (Option.map_eq_none_iff.1 absent) kind

/-- Where no reset comes in between, records are added behind those that are there. -/
theorem MemberState.Moves.records {before after : Option MemberState}
    {happening : Option Happening} (move : Moves before happening after)
    (kept : happening ≠ some .forgotten) : recordsOf before <+: recordsOf after := by
  cases move with
  | stays | declared | readField | written | attached => exact List.prefix_rfl
  | made => exact List.nil_prefix
  | called | readProperty => exact List.prefix_append _ _
  | forgotten => exact absurd rfl kept

/-- On every stage of a session the history of a member tells its records. -/
theorem Session.told {steps : List Step} {stage : Stage} (session : Session steps stage)
    (id : MockId) (name : String) : (historyOf id name steps).Tells (stage.stateOf? id name) :=
  session.of_moves ⟨fun _ _ => rfl, fun _ _ => rfl⟩ (fun move h => move.tells h) id name

end Understudy
