import Understudy.Proofs.Stage.InPlace
import Understudy.Proofs.Stage.Resolution
import Understudy.Proofs.Stage.Shift

/-!
# Numbers that nobody looks at

Questions about calls do not depend on the numbers of records, and neither does what comes of
functions, unless a function looks at the numbers itself. So operations that are run to their ends
on a stage with shifted numbers come to the same, if no function on the stage and none that is
declared meanwhile looks at numbers.

* `Stage.tellsAlike_shift`: questions on the shifted stage.
* `Stage.run_shift`: an operation that is run to its end on the shifted stage.
-/

namespace Understudy

/-! ## Questions -/

/-- The log with larger numbers. -/
def CallLog.shift (gap : UInt64) (log : CallLog) : CallLog :=
  { log with records := log.records.map (·.shift gap) }

/-- Whether numbers do not matter to a question. -/
def CallLog.Unnumbered {α : Type} (question : CallLog → α) : Prop :=
  ∀ gap log, question (log.shift gap) = question log

namespace CallLog

theorem unnumbered_count : Unnumbered count := fun _ _ => List.length_map ..

theorem unnumbered_wasNotCalled : Unnumbered wasNotCalled := by
  intro gap log
  rw [wasNotCalled, unnumbered_count gap log]
  rfl

theorem unnumbered_lastCall : Unnumbered lastCall := by
  intro gap log
  rw [lastCall, lastCall, shift, List.getLast?_map]
  cases log.records.getLast? <;> rfl

theorem unnumbered_nthCall (index : Nat) : Unnumbered (nthCall · index) := by
  intro gap log
  change nthCall (log.shift gap) index = nthCall log index
  rw [nthCall, nthCall, unnumbered_count gap log, shift, List.getElem?_map]
  cases log.records[index]? <;> rfl

end CallLog

/-- Whether two stages tell the same of the calls of all members, and rehearse calls alike. -/
structure Stage.TellsAlike (a b : Stage) : Prop where
  count : ∀ id name, (Action.ask id name (Except.ok ·.count) a).1 =
    (Action.ask id name (Except.ok ·.count) b).1
  wasNotCalled : ∀ id name,
    (Action.ask id name (·.wasNotCalled) a).1 = (Action.ask id name (·.wasNotCalled) b).1
  lastCall : ∀ id name,
    (Action.ask id name (·.lastCall) a).1 = (Action.ask id name (·.lastCall) b).1
  nthCall : ∀ id name index,
    (Action.ask id name (·.nthCall index) a).1 = (Action.ask id name (·.nthCall index) b).1
  rehearse : ∀ id name arguments, a.rehearse id name arguments = b.rehearse id name arguments

namespace Stage

variable {stage : Stage} {gaps : Gaps} {id : MockId} {name : String}

/-- A question is answered from the records of the member. -/
theorem ask_eq {α : Type} (question : CallLog → Except Fault α) :
    (Action.ask id name question stage).1 =
      (stage.records id name).bind fun told => question ⟨told.1, told.2⟩ := by
  simp only [Action.ask, Action.member, Action.bind_apply, Action.mock, Action.look_apply, records]
  cases hmock : stage.mock id with
  | error fault => rfl
  | ok mock =>
    simp only [hmock, ok_bind]
    rcases mock.member name with fault | m <;> rfl

theorem ask_shift {α : Type} {question : CallLog → Except Fault α} (h : stage.WellFormed)
    (unnumbered : CallLog.Unnumbered question) :
    (Action.ask id name question (stage.shift gaps)).1 = (Action.ask id name question stage).1 := by
  rw [ask_eq, ask_eq, shift_records h]
  rcases stage.records id name with fault | told
  · rfl
  · exact unnumbered (gaps id) ⟨told.1, told.2⟩

theorem tellsAlike_shift (h : stage.WellFormed) : (stage.shift gaps).TellsAlike stage where
  count _ _ := ask_shift h fun gap log => congrArg Except.ok (CallLog.unnumbered_count gap log)
  wasNotCalled _ _ := ask_shift h CallLog.unnumbered_wasNotCalled
  lastCall _ _ := ask_shift h CallLog.unnumbered_lastCall
  nthCall _ _ index := ask_shift h (CallLog.unnumbered_nthCall index)
  rehearse _ _ arguments := shift_rehearse arguments

end Stage

/-! ## Functions -/

mutual

/-- Whether a script goes on in the same way whatever numbers it is told. -/
inductive Script.Unnumbered : Script → Prop
  | settle {value : Value} : Script.Unnumbered (.settle value)
  | perform {operation : Operation} {next : Answer → Script} : Operation.Unnumbered operation →
      (∀ (gap : UInt64) (answer : Answer), next (answer.map (·.shift gap)) = next answer) →
      (∀ answer, Script.Unnumbered (next answer)) → Script.Unnumbered (.perform operation next)

/-- Whether no function of the outcome looks at numbers. -/
inductive Outcome.Unnumbered : Outcome → Prop
  | value {value : Value} : Outcome.Unnumbered (.value value)
  | failure {error : Raised} : Outcome.Unnumbered (.failure error)
  | function {f : Arguments → Script} : (∀ arguments, Script.Unnumbered (f arguments)) →
      Outcome.Unnumbered (.function f)

/-- Whether no function that the operation declares looks at numbers. -/
inductive Operation.Unnumbered : Operation → Prop
  | declare {id : MockId} {name : String} {pattern : Pattern} {outcomes : List Outcome} :
      (∀ outcome ∈ outcomes, Outcome.Unnumbered outcome) →
      Operation.Unnumbered (.declare id name pattern outcomes)
  | other {operation : Operation} :
      (∀ id name pattern outcomes, operation ≠ .declare id name pattern outcomes) →
      Operation.Unnumbered operation

end

/-- Whether no function of the rules looks at numbers. -/
def Rules.Unnumbered (rules : Rules) : Prop :=
  ∀ rule ∈ rules, ∀ outcome ∈ rule.outcomes.toList, outcome.Unnumbered

/-- Whether no function of the state, if there is a state, looks at numbers. -/
def MemberState.Unnumbered : Option MemberState → Prop
  | some (.callable _ rules) => rules.Unnumbered
  | _ => True

theorem MemberState.unnumbered_iff {state : Option MemberState} :
    Unnumbered state ↔ ∀ outcome, (rulesOf state).Stock outcome → outcome.Unnumbered := by
  have rules : Unnumbered state ↔ (rulesOf state).Unnumbered := by
    rcases state with _ | _ | _ | _ <;> simp [Unnumbered, rulesOf, Rules.Unnumbered]
  rw [rules]
  constructor
  · rintro h outcome ⟨rule, mem, there⟩
    exact h rule mem outcome there
  · intro h rule mem outcome there
    exact h outcome ⟨rule, mem, there⟩

/-- A placeholder is no function, so this holds of every outcome that is drawn. -/
theorem Rules.Unnumbered.drawn {rules : Rules} (h : rules.Unnumbered) (m : MockMember)
    (arguments : Arguments) : (m.draw rules arguments).1.Unnumbered := by
  rw [MockMember.draw]
  rcases drawn : rules.draw arguments with _ | ⟨outcome, left⟩
  · exact .value
  · obtain ⟨rule, mem, there⟩ := Rules.Stock.of_draw drawn
    exact h rule mem outcome there

/-- A move adds only the functions that are declared in it. -/
theorem MemberState.Moves.unnumbered {before after : Option MemberState}
    {happening : Option Happening} (move : Moves before happening after)
    (h : MemberState.Unnumbered before)
    (new : ∀ matcher outcomes, happening = some (.declared matcher outcomes) →
      ∀ outcome ∈ outcomes, outcome.Unnumbered) :
    MemberState.Unnumbered after := by
  refine unnumbered_iff.2 fun outcome stock => ?_
  rcases move.stock stock with before | ⟨matcher, outcomes, told, mem⟩
  · exact unnumbered_iff.1 h outcome before
  · exact new matcher outcomes told outcome mem

/-- Only a declaration is told as one. -/
theorem Step.eq_declare_of_happening? {step : Step} {id : MockId} {name : String}
    {matcher : Matcher} {outcomes : List Outcome}
    (h : step.happening? id name = some (.declared matcher outcomes)) :
    ∃ pattern, step.operation = .declare id name pattern outcomes := by
  rcases step with ⟨operation, progress⟩
  cases operation with
  | createMock | createCell | set | attach | write | peek | records => cases h
  | call | get | reset =>
    simp only [happening?] at h
    split at h <;> cases h
  | declare target member pattern outcomes =>
    simp only [happening?] at h
    split at h
    · next here =>
      obtain ⟨rfl, rfl, -⟩ := here
      cases h
      exact ⟨pattern, rfl⟩
    · cases h

namespace Stage

variable {stage after : Stage} {gaps : Gaps} {operation : Operation}

/-- What is known of a stage for a shift of runs: no function of a rule looks at numbers either. -/
structure RunShiftable (stage : Stage) (gaps : Gaps) : Prop extends stage.Shiftable gaps where
  unnumbered : ∀ id name, MemberState.Unnumbered (stage.stateOf? id name)

theorem RunShiftable.begin (h : stage.RunShiftable gaps) (unnumbered : operation.Unnumbered) :
    (stage.begin operation).2.RunShiftable gaps := by
  refine ⟨h.toShiftable.begin operation, fun id name => ?_⟩
  have move := (stage.begin_effect operation).moves h.wellFormed id name
  refine move.unnumbered (h.unnumbered id name) fun matcher outcomes happened => ?_
  obtain ⟨pattern, rfl⟩ := Step.eq_declare_of_happening? happened
  cases unnumbered with
  | declare outcomes => exact outcomes
  | other other => exact absurd rfl (other id name pattern outcomes)

/-- A function that begins to run for a call does not look at numbers. -/
theorem RunShiftable.script (h : stage.RunShiftable gaps) {script : Script}
    (running : (stage.begin operation).1 = .running script) : script.Unnumbered := by
  have effect := stage.begin_effect operation
  rw [running] at effect
  -- Only a call runs a function, and it is one that was drawn from the rules.
  generalize progress : Progress.running script = reached at effect
  generalize (stage.begin operation).2 = after at effect
  cases effect with
  | @call id name arguments mock m records rules found state =>
    have unnumbered := h.unnumbered id name
    rw [stateOf?_of_at found, state] at unnumbered
    have drawn := Rules.Unnumbered.drawn unnumbered m arguments
    cases outcome : (m.draw rules arguments).1 with
    | value v => rw [outcome] at progress; cases progress
    | failure error => rw [outcome] at progress; cases progress
    | function f =>
      rw [outcome] at progress drawn
      cases progress
      cases drawn with
      | function scripts => exact scripts arguments
  | refused | createMock | createCell | readField | readProperty | writeField | writeBacked
  | writeUnbacked | declare | attach | write | peek | records | reset => cases progress

/-! ## Runs -/

/-- Whether what is performed on the shifted stage comes to the same as on the stage itself, and
    more may be performed on the stage behind it. -/
structure ShiftsRun (gaps : Gaps) (perform : Operation → Stage → Option (Answer × Stage))
    (operation : Operation) (stage : Stage) : Prop where
  same : perform operation (stage.shift gaps) = (perform operation stage).map fun done =>
    (done.1.map (·.shift (operation.gap gaps)), done.2.shift gaps)
  behind : ∀ done ∈ perform operation stage, done.2.RunShiftable gaps

end Stage

/-- A script that does not look at numbers comes to the same on a shifted stage. -/
theorem Script.run_shift {gaps : Gaps} {perform : Operation → Stage → Option (Answer × Stage)}
    (performs : ∀ {operation stage}, operation.Unnumbered → stage.RunShiftable gaps →
      Stage.ShiftsRun gaps perform operation stage) :
    ∀ {script : Script} {stage : Stage}, script.Unnumbered → stage.RunShiftable gaps →
      script.run perform (stage.shift gaps) =
          (script.run perform stage).map (fun done => (done.1, done.2.shift gaps)) ∧
        ∀ done ∈ script.run perform stage, done.2.RunShiftable gaps
  | .settle _, _, _, h => ⟨rfl, fun _ mem => Option.some.inj mem ▸ h⟩
  | .perform operation next, stage, .perform unnumbered blind onward, h => by
    have performed := performs unnumbered h
    simp only [Script.run, performed.same]
    rcases done : perform operation stage with _ | ⟨answer, after⟩
    · exact ⟨rfl, fun _ mem => by cases mem⟩
    · simp only [Option.map_some, Option.bind_some, blind]
      exact Script.run_shift performs (onward answer) (performed.behind _ done)

namespace Stage

variable {stage : Stage} {gaps : Gaps}

/-- A function runs one level deeper than the call that it runs for. -/
theorem run_running {operation : Operation} {script : Script} {after : Stage}
    (h : stage.begin operation = (.running script, after)) :
    run 0 operation stage = none ∧ ∀ depth, run (depth + 1) operation stage =
      (script.run (run depth) after).map fun result => (.ok (.value result.1), result.2) := by
  constructor
  · unfold run
    rw [h]
  · intro depth
    conv_lhs => unfold run
    rw [h]

theorem shiftsRun_of_finished {operation : Operation} {answer : Answer} {after : Stage}
    (begun : stage.begin operation = (.finished answer, after)) (h : stage.RunShiftable gaps)
    (unnumbered : operation.Unnumbered) (depth : Nat) :
    ShiftsRun gaps (run depth) operation stage := by
  have first := begin_shift h.wellFormed (h.later _ (Nat.le_refl _)) operation
  have behind := h.begin unnumbered
  rw [begun] at first behind
  constructor
  · rw [run_finished first, run_finished begun]
    rfl
  · rw [run_finished begun]
    exact fun _ mem => Option.some.inj mem ▸ behind

/-- An operation that is run to its end comes to the same on a shifted stage. -/
theorem run_shift (depth : Nat) {operation : Operation} (unnumbered : operation.Unnumbered)
    (h : stage.RunShiftable gaps) : ShiftsRun gaps (run depth) operation stage := by
  induction depth generalizing operation stage with
  | zero =>
    rcases begun : stage.begin operation with ⟨answer | script, after⟩
    · exact shiftsRun_of_finished begun h unnumbered 0
    -- A function has no result at this depth, on the shifted stage as on the other.
    · have first := begin_shift h.wellFormed (h.later _ (Nat.le_refl _)) operation
      rw [begun] at first
      constructor
      · rw [(run_running first).1, (run_running begun).1]
        rfl
      · rw [(run_running begun).1]
        exact fun _ mem => by cases mem
  | succ depth ih =>
    rcases begun : stage.begin operation with ⟨answer | script, after⟩
    · exact shiftsRun_of_finished begun h unnumbered (depth + 1)
    · -- What the function performs is run one level less deep.
      have first := begin_shift h.wellFormed (h.later _ (Nat.le_refl _)) operation
      have behind := h.begin unnumbered
      have blind := h.script (congrArg Prod.fst begun)
      rw [begun] at first behind
      obtain ⟨ran, onward⟩ := Script.run_shift ih blind behind
      constructor
      · rw [(run_running first).2, (run_running begun).2, ran, Option.map_map, Option.map_map]
        rfl
      · rw [(run_running begun).2]
        intro done mem
        obtain ⟨ended, found, rfl⟩ := Option.map_eq_some_iff.1 mem
        exact onward ended found

/-- The steps that operations are which are run to their ends one after the other, and the stage
    they lead to. -/
def runAll (depth : Nat) : List Operation → Stage → Option (List Step × Stage)
  | [], stage => some ([], stage)
  | operation :: later, stage =>
    (stage.run depth operation).bind fun (answer, after) =>
      (after.runAll depth later).map fun (steps, last) =>
        (⟨operation, .finished answer⟩ :: steps, last)

/-- Operations that are run to their ends on the shifted stage come to the same but for the
    numbers. -/
theorem runAll_shift (depth : Nat) {operations : List Operation}
    (unnumbered : ∀ operation ∈ operations, operation.Unnumbered) (h : stage.RunShiftable gaps) :
    (stage.shift gaps).runAll depth operations =
      (stage.runAll depth operations).map fun done =>
        (done.1.map (·.shift gaps), done.2.shift gaps) := by
  induction operations generalizing stage with
  | nil => rfl
  | cons operation later ih =>
    obtain ⟨here, onward⟩ := List.forall_mem_cons.1 unnumbered
    have ran := run_shift depth here h
    rw [runAll, runAll, ran.same]
    rcases done : stage.run depth operation with _ | ⟨answer, after⟩
    · rfl
    · simp only [Option.map_some, Option.bind_some, ih onward (ran.behind _ done), Option.map_map]
      rfl

end Stage

end Understudy
