import Understudy.Proofs.Stage.Renewal
import Understudy.Proofs.Stage.Resolution

/-!
# Functions that call back

A function that runs for a call may perform operations on the very mock that it runs for: it may
call the same member again and draw from the same rule, declare newer rules or reset the mock.
Still a run is no more than a line of steps. The step of the call itself comes first. Behind it
come the steps of the operations that the function performs, in their order, each with those behind
it that are performed for it in turn. When the function settles on a value nothing is left to do.

* `Stage.run_iff`: an operation that is run to its end is a line of steps, and any such line is a
  run.
* `Session.linearises`: what follows for calls that let a function run.
-/

namespace Understudy

/-! ## Lines of steps -/

mutual

/-- Whether the steps are those of an operation that is run to its end and answers so: its own
    step, and behind it those of the function that runs for it. -/
inductive Operation.Comes : Operation → List Step → Answer → Prop
  | finished {operation : Operation} {answer : Answer} :
      Operation.Comes operation [⟨operation, .finished answer⟩] answer
  | running {operation : Operation} {script : Script} {nested : List Step} {value : Value} :
      Script.Settles script nested value →
      Operation.Comes operation (⟨operation, .running script⟩ :: nested) (.ok (.value value))

/-- Whether the steps are those of what the script performs before it settles on the value. -/
inductive Script.Settles : Script → List Step → Value → Prop
  | settle {value : Value} : Script.Settles (.settle value) [] value
  | perform {operation : Operation} {next : Answer → Script} {first rest : List Step}
      {answer : Answer} {value : Value} : Operation.Comes operation first answer →
      Script.Settles (next answer) rest value →
      Script.Settles (.perform operation next) (first ++ rest) value

end

namespace Stage

variable {stage after : Stage} {first rest : List Step} {step : Step}

/-- Whether the steps are what their operations come to one after the other on the stage, and
    lead to the other stage. -/
def Performs (stage : Stage) (steps : List Step) (after : Stage) : Prop :=
  stage.perform (steps.map (·.operation)) = (steps, after)

theorem performs_nil : stage.Performs [] after ↔ stage = after := by
  simp [Performs, perform]

theorem performs_cons : stage.Performs (step :: rest) after ↔
    (stage.begin step.operation).1 = step.progress ∧
      (stage.begin step.operation).2.Performs rest after := by
  rcases step with ⟨operation, progress⟩
  simp only [Performs, List.map_cons, perform, List.cons.injEq, Step.mk.injEq,
    true_and, and_assoc, Prod.ext_iff]

theorem performs_append : stage.Performs (first ++ rest) after ↔
    ∃ between, stage.Performs first between ∧ between.Performs rest after := by
  induction first generalizing stage with
  | nil => simp [performs_nil]
  | cons step first ih =>
    simp only [List.cons_append, performs_cons, ih, and_assoc, exists_and_left]

end Stage

/-- A line of steps continues a session. -/
theorem Session.performs {steps more : List Step} {stage after : Stage}
    (session : Session steps stage) (performs : stage.Performs more after) :
    Session (more.reverse ++ steps) after := by
  induction more generalizing steps stage with
  | nil =>
    obtain rfl := Stage.performs_nil.1 performs
    exact session
  | cons step more ih =>
    rcases step with ⟨operation, progress⟩
    obtain ⟨here, behind⟩ := Stage.performs_cons.1 performs
    have next := session.step operation
    rw [here] at next
    rw [List.reverse_cons, List.append_assoc]
    exact ih next behind

/-! ## Runs -/

/-- What a script comes to does not change where more operations come to something. -/
theorem Script.run_mono {perform more : Operation → Stage → Option (Answer × Stage)}
    (mono : ∀ {operation stage done}, perform operation stage = some done →
      more operation stage = some done) :
    ∀ {script : Script} {stage : Stage} {done : Value × Stage},
      script.run perform stage = some done → script.run more stage = some done
  | .settle _, _, _, h => h
  | .perform operation next, stage, done, h => by
    obtain ⟨⟨answer, between⟩, first, rest⟩ := Option.bind_eq_some_iff.1 h
    rw [Script.run, mono first]
    exact Script.run_mono mono rest

namespace Stage

variable {stage after : Stage} {operation : Operation} {answer : Answer}

/-- What an operation comes to does not depend on the depth that is given, if it is enough. -/
theorem run_mono {depth deeper : Nat} (le : depth ≤ deeper)
    (h : stage.run depth operation = some (answer, after)) :
    stage.run deeper operation = some (answer, after) := by
  induction depth generalizing deeper operation stage answer after with
  | zero =>
    rcases run_cases h with finished | ⟨_, _, _, _, deep, _⟩
    · exact run_finished finished deeper
    · cases deep
  | succ depth ih =>
    rcases run_cases h with finished | ⟨_, script, between, value, deep, running, ran, rfl⟩
    · exact run_finished finished deeper
    · obtain rfl := Nat.succ.inj deep
      obtain ⟨deeper, rfl⟩ := Nat.exists_eq_add_of_lt (Nat.lt_of_succ_le le)
      have again : script.run (Stage.run (depth + deeper)) between = some (value, after) :=
        Script.run_mono (fun first => ih (Nat.le_add_right _ _) first) ran
      rw [(run_running running).2, again]
      rfl

end Stage

/-- If operations come to lines of steps, so does a script that performs them. -/
theorem Script.settles_of_run {perform : Operation → Stage → Option (Answer × Stage)}
    (comes : ∀ {operation stage answer after}, perform operation stage = some (answer, after) →
      ∃ steps, Operation.Comes operation steps answer ∧ stage.Performs steps after) :
    ∀ {script : Script} {stage after : Stage} {value : Value},
      script.run perform stage = some (value, after) →
        ∃ nested, script.Settles nested value ∧ stage.Performs nested after
  | .settle _, _, _, _, h => by
    obtain ⟨rfl, rfl⟩ := Prod.mk.inj (Option.some.inj h)
    exact ⟨[], .settle, Stage.performs_nil.2 rfl⟩
  | .perform operation next, _, _, _, h => by
    obtain ⟨⟨answer, between⟩, ran, onward⟩ := Option.bind_eq_some_iff.1 h
    obtain ⟨first, comes', here⟩ := comes ran
    obtain ⟨rest, settles, behind⟩ := Script.settles_of_run comes onward
    exact ⟨first ++ rest, .perform comes' settles,
      Stage.performs_append.2 ⟨between, here, behind⟩⟩

namespace Stage

variable {stage after : Stage} {operation : Operation} {answer : Answer}

theorem comes_of_run {depth : Nat} (h : stage.run depth operation = some (answer, after)) :
    ∃ steps, Operation.Comes operation steps answer ∧ stage.Performs steps after := by
  induction depth generalizing operation stage answer after with
  | zero =>
    rcases run_cases h with finished | ⟨_, _, _, _, deep, _⟩
    · refine ⟨_, .finished, performs_cons.2 ⟨congrArg Prod.fst finished, performs_nil.2 ?_⟩⟩
      exact congrArg Prod.snd finished
    · cases deep
  | succ depth ih =>
    rcases run_cases h with finished | ⟨_, script, between, value, deep, running, ran, rfl⟩
    · refine ⟨_, .finished, performs_cons.2 ⟨congrArg Prod.fst finished, performs_nil.2 ?_⟩⟩
      exact congrArg Prod.snd finished
    · obtain rfl := Nat.succ.inj deep
      obtain ⟨nested, settles, performs⟩ := Script.settles_of_run ih ran
      refine ⟨_, .running settles, performs_cons.2 ⟨congrArg Prod.fst running, ?_⟩⟩
      rw [running]
      exact performs

end Stage

mutual

/-- A line of steps is run by any depth that is enough for all that is performed in it. -/
theorem Operation.Comes.exists_run {operation : Operation} {steps : List Step} {answer : Answer}
    {stage after : Stage} : Operation.Comes operation steps answer → stage.Performs steps after →
      ∃ depth, stage.run depth operation = some (answer, after)
  | .finished, performs => by
    obtain ⟨here, behind⟩ := Stage.performs_cons.1 performs
    exact ⟨0, Stage.run_finished (Prod.ext here (Stage.performs_nil.1 behind)) 0⟩
  | .running settles, performs => by
    obtain ⟨here, behind⟩ := Stage.performs_cons.1 performs
    obtain ⟨depth, ran⟩ := Script.Settles.exists_run settles behind
    refine ⟨depth + 1, ?_⟩
    rw [(Stage.run_running (Prod.ext here rfl)).2, ran]
    rfl

theorem Script.Settles.exists_run {script : Script} {steps : List Step} {value : Value}
    {stage after : Stage} : Script.Settles script steps value → stage.Performs steps after →
      ∃ depth, script.run (Stage.run depth) stage = some (value, after)
  | .settle, performs => by
    obtain rfl := Stage.performs_nil.1 performs
    exact ⟨0, rfl⟩
  | .perform comes settles, performs => by
    obtain ⟨between, here, behind⟩ := Stage.performs_append.1 performs
    obtain ⟨first, ran⟩ := Operation.Comes.exists_run comes here
    obtain ⟨second, onward⟩ := Script.Settles.exists_run settles behind
    refine ⟨max first second, ?_⟩
    rw [Script.run, Stage.run_mono (Nat.le_max_left first second) ran]
    exact Script.run_mono (Stage.run_mono (Nat.le_max_right first second)) onward

end

namespace Stage

variable {stage after : Stage} {operation : Operation} {answer : Answer}

/-- Running an operation to its end is the same as beginning the operations of a line of steps one
    after the other. -/
theorem run_iff : (∃ depth, stage.run depth operation = some (answer, after)) ↔
    ∃ steps, Operation.Comes operation steps answer ∧ stage.Performs steps after :=
  ⟨fun ⟨_, ran⟩ => comes_of_run ran,
    fun ⟨_, comes, performs⟩ => comes.exists_run performs⟩

end Stage

/-! ## What is kept along a line -/

namespace Stage

variable {stage after : Stage} {more : List Step} {id : MockId} {name : String} {mock : Mock}

/-- Unless they are forgotten, the records of a member stay in front of those that are made. -/
theorem Performs.records (performs : stage.Performs more after) (h : stage.WellFormed)
    (kept : .forgotten ∉ historyOf id name more) :
    MemberState.recordsOf (stage.stateOf? id name) <+:
      MemberState.recordsOf (after.stateOf? id name) := by
  induction more generalizing stage with
  | nil => exact performs_nil.1 performs ▸ List.prefix_rfl
  | cons step more ih =>
    obtain ⟨here, behind⟩ := performs_cons.1 performs
    have effect := stage.begin_effect step.operation
    rw [historyOf_cons, List.mem_append, Option.mem_toList] at kept
    rw [here] at effect
    refine ((effect.moves h id name).records fun told => kept (.inl told)).trans ?_
    exact ih behind (effect.wellFormed h) fun mem => kept (.inr mem)

/-- Mocks stay where they are and alike. -/
theorem Performs.keeps (performs : stage.Performs more after) (h : stage.WellFormed)
    (there : stage.mock id = .ok mock) :
    ∃ mock', after.mock id = .ok mock' ∧ mock'.Alike mock := by
  induction more generalizing stage mock with
  | nil => exact ⟨mock, performs_nil.1 performs ▸ there, .refl mock⟩
  | cons step more ih =>
    have effect := stage.begin_effect step.operation
    obtain ⟨between, there', alike⟩ := effect.keeps h there
    obtain ⟨last, there'', alike'⟩ :=
      ih (performs_cons.1 performs).2 (effect.wellFormed h) there'
    exact ⟨last, there'', alike'.trans alike⟩

end Stage

/-- Of three counts a number is below the last one if the next number belongs to the second one. -/
theorem number_lt_of_counts {number last : UInt64} {first second third : Nat}
    (here : number = .ofNat first) (next : number + 1 = .ofNat second)
    (there : last = .ofNat third) (le : first ≤ second) (le' : second ≤ third)
    (few : third < 2 ^ 64) : number < last := by
  have here := congrArg UInt64.toNat here
  have next := congrArg UInt64.toNat next
  have there := congrArg UInt64.toNat there
  rw [UInt64.toNat_ofNat'] at here next there
  rw [UInt64.toNat_add, UInt64.toNat_one] at next
  rw [UInt64.lt_iff_toNat_lt]
  omega

/-! ## Calls that let a function run -/

namespace Stage

/-- The stage is found at some point while a function runs for the call of the member. Before the
    call the steps were performed and the mock was as given, and behind it those so far. -/
structure Within (stage : Stage) (sofar : List Step) (call : Step) (steps : List Step)
    (mock : Mock) (id : MockId) (name : String) (arguments : Arguments) : Prop where
  /-- All that holds on the stages of sessions holds here. -/
  session : Session (sofar.reverse ++ call :: steps) stage
  /-- The records of every member are those that its history tells. -/
  told : ∀ target member,
    (historyOf target member (sofar.reverse ++ call :: steps)).Tells (stage.stateOf? target member)
  /-- The records of every mock are numbered in order. -/
  numbered : ∀ {target here}, stage.mock target = .ok here →
    made target (sofar.reverse ++ call :: steps) here.surface.value.members < 2 ^ 64 →
    here.ledger.Numbered here.nextSeq
      (made target (sofar.reverse ++ call :: steps) here.surface.value.members)
      (∀ member, .forgotten ∉ historyOf target member (sofar.reverse ++ call :: steps))
  /-- The call is recorded, unless that was forgotten since. -/
  recorded : .forgotten ∉ historyOf id name sofar → ∃ here m, stage.At id name here m ∧
    mock.recordOf arguments ∈ m.state.records
  /-- Every record that is made now has a larger number. -/
  smaller : ∀ {here}, stage.mock id = .ok here →
    made id (sofar.reverse ++ call :: steps) here.surface.value.members < 2 ^ 64 →
    (mock.recordOf arguments).seq < here.nextSeq
  /-- The rules are what their history leaves of them, and in that the rule of the call has been
      used for it. -/
  advanced : (historyOf id name (sofar.reverse ++ call :: steps)).Explains
      (stage.stateOf? id name) ∧
    ∀ rule, (historyOf id name steps).decisive? arguments = some rule →
      (historyOf id name steps).uses rule.index <
        (historyOf id name (sofar.reverse ++ call :: steps)).uses rule.index

/-- A call that lets the script run is no more than its own step with those of the script behind
    it. -/
structure Linearises (stage : Stage) (steps : List Step) (id : MockId) (name : String)
    (arguments : Arguments) (script : Script) : Prop where
  /-- The step of the call itself: it is recorded with the next number, and the rule that the
      function is drawn from moves on. -/
  own : ∃ mock m records rules f, stage.At id name mock m ∧ m.state = .callable records rules ∧
    (m.draw rules arguments).1 = .function f ∧ script = f arguments ∧
    (stage.begin (.call id name arguments)).2 = stage.putMock (mock.setState name
      (.callable (records ++ [mock.recordOf arguments]) (rules.after arguments))).advance
  /-- The call comes to an end where a line of steps does. Its answer is the value that the script
      settles on, whatever it is, and nothing is changed behind the last of the steps. -/
  runs : ∀ {answer after},
    (∃ depth, stage.run depth (.call id name arguments) = some (answer, after)) ↔
      ∃ nested value, script.Settles nested value ∧ answer = .ok (.value value) ∧
        (stage.begin (.call id name arguments)).2.Performs nested after
  /-- Every point of such a line is one behind the call. -/
  points : ∀ {mock}, stage.mock id = .ok mock → ∀ {sofar rest after},
    (stage.begin (.call id name arguments)).2.Performs (sofar ++ rest) after →
    ∃ point, (stage.begin (.call id name arguments)).2.Performs sofar point ∧
      point.Performs rest after ∧
      point.Within sofar ⟨.call id name arguments, .running script⟩ steps mock id name arguments

variable {stage : Stage} {id : MockId} {name : String} {arguments : Arguments} {script : Script}

/-- The steps that run for the call are those of the script. -/
theorem exists_run_iff (drawn : (stage.begin (.call id name arguments)).1 = .running script)
    {answer : Answer} {after : Stage} :
    (∃ depth, stage.run depth (.call id name arguments) = some (answer, after)) ↔
      ∃ nested value, script.Settles nested value ∧ answer = .ok (.value value) ∧
        (stage.begin (.call id name arguments)).2.Performs nested after := by
  rw [run_iff]
  constructor
  · rintro ⟨_, comes, performs⟩
    cases comes with
    | finished =>
      cases drawn.symm.trans (performs_cons.1 performs).1
    | running settles =>
      obtain ⟨here, behind⟩ := performs_cons.1 performs
      cases drawn.symm.trans here
      exact ⟨_, _, settles, rfl, behind⟩
  · rintro ⟨nested, value, settles, rfl, performs⟩
    exact ⟨_, .running settles, performs_cons.2 ⟨drawn, performs⟩⟩

end Stage

/-- The points of the line of steps behind a call that lets a script run. -/
theorem Session.within {steps sofar : List Step} {stage point : Stage} {id : MockId} {name : String}
    {arguments : Arguments} {script : Script} {mock : Mock} (session : Session steps stage)
    (drawn : (stage.begin (.call id name arguments)).1 = .running script)
    (there : stage.mock id = .ok mock)
    (performs : (stage.begin (.call id name arguments)).2.Performs sofar point) :
    point.Within sofar ⟨.call id name arguments, .running script⟩ steps mock id name arguments := by
  have h := session.wellFormed
  have begun := session.step (.call id name arguments)
  rw [drawn] at begun
  have line := begun.performs performs
  have happened : historyOf id name (⟨.call id name arguments, .running script⟩ :: steps) =
      .called arguments :: historyOf id name steps := by
    simp [historyOf_cons, Step.happening?, Stage.Progress.accepted]
  obtain ⟨_, m, records, rules, f, found, state, -, -, behind⟩ := Stage.begin_of_running drawn
  obtain rfl := Except.ok.inj (there.symm.trans found.1)
  constructor
  case session => exact line
  case told => exact fun target member => line.told target member
  case numbered => exact fun here few => line.numbered here few
  case recorded =>
    intro kept
    have grown := performs.records begun.wellFormed kept
    rw [behind, Stage.stateOf?_advance h found, if_pos ⟨rfl, rfl⟩] at grown
    have mem := grown.subset (List.mem_append_right records (List.mem_singleton_self _))
    cases here : point.stateOf? id name with
    | none =>
      rw [here] at mem
      cases mem
    | some state =>
      obtain ⟨mock', m', found', rfl⟩ := Stage.exists_at here
      rw [here] at mem
      exact ⟨mock', m', found', mem⟩
  case smaller =>
    intro here there' few
    have next : (stage.begin (.call id name arguments)).2.mock id = .ok (mock.setState name
        (.callable (records ++ [mock.recordOf arguments]) (rules.after arguments))).advance := by
      rw [behind, h.mock_putMock there, if_pos rfl]
      rfl
    obtain ⟨_, there'', alike⟩ := performs.keeps begun.wellFormed next
    obtain rfl := Except.ok.inj (there'.symm.trans there'')
    have surface : here.surface = mock.surface := alike.surface
    -- The number behind the call is the next one, and as long as there are numbers they grow.
    have call := session.nextSeq_eq there
    have first : mock.nextSeq + 1 = .ofNat _ := begun.nextSeq_eq next
    have last := line.nextSeq_eq there'
    have early := made_le_append id [⟨.call id name arguments, .running script⟩] steps
      mock.surface.value.members
    have late := made_le_append id sofar.reverse
      (⟨.call id name arguments, .running script⟩ :: steps) mock.surface.value.members
    rw [surface] at few last
    exact number_lt_of_counts call first last early late few
  case advanced =>
    refine ⟨line.explained id name, fun rule decisive => ?_⟩
    rw [historyOf_append, happened]
    refine Nat.lt_of_lt_of_le ?_ (History.uses_le_append _ _ _)
    rw [History.uses_called decisive]
    exact Nat.lt_succ_self _

/-- On every stage of a session, a call that lets a function run is no more than its own step with
    those of the operations that are performed in it behind it. -/
theorem Session.linearises {steps : List Step} {stage : Stage} {id : MockId} {name : String}
    {arguments : Arguments} {script : Script} (session : Session steps stage)
    (drawn : (stage.begin (.call id name arguments)).1 = .running script) :
    stage.Linearises steps id name arguments script := by
  constructor
  case own => exact Stage.begin_of_running drawn
  case runs => exact Stage.exists_run_iff drawn
  case points =>
    intro mock there sofar rest after performs
    obtain ⟨point, here, behind⟩ := Stage.performs_append.1 performs
    exact ⟨point, here, behind, session.within drawn there here⟩

/-- A thought that leads to another one. It hits the rule that it is drawn from once more, makes up
    a rule for the thoughts to come and thinks again, before all is forgotten. -/
def Sample.reflection : Script :=
  .perform (.call ⟨0⟩ "think" (.ofList [.str "virtue"])) fun _ =>
    .perform (.declare ⟨0⟩ "think" .anyCall
      [.function fun _ => .perform (.reset ⟨0⟩) fun _ => .settle (.int 7)]) fun _ =>
    .perform (.call ⟨0⟩ "think" (.ofList [.str "beauty"])) fun
      | .ok (.value value) => .settle value
      | _ => .settle .nil

/-- A session with a mock on which such a thought is to be had. -/
def Sample.meditation : List Operation :=
  [.declare ⟨0⟩ "think" .anyCall [.function fun _ => reflection, .value (.str "hm")],
    .call ⟨0⟩ "think" (.ofList [.str "justice"]),
    .createMock ⟨0, philosopherSurface⟩ (.named none)]

theorem Session.linearises_meditation :
    (performed Sample.meditation).2.Linearises (performed Sample.meditation).1 ⟨0⟩ "think"
        (.ofList [.str "justice"]) Sample.reflection ∧
      ((performed Sample.meditation).2.run 2 (.call ⟨0⟩ "think" (.ofList [.str "justice"]))).map
        (·.1) = some (.ok (.value (.int 7))) :=
  ⟨Session.linearises (.of_performed _) rfl, rfl⟩

end Understudy
