import Understudy.Proofs.Stage.Concerned
import Understudy.Proofs.Stage.Returns

/-!
# Members are independent

What a member answers, and what it has recorded, is a matter of the operations that concern it.
Operations on other members, other mocks and other cells may be put in between, left out or done in
another order, and cells may be made in another order: the member never learns of it. All that it
shares with others is the sequence in which the records of its mock are numbered, so the numbers
are left out of account.

Steps come to the same even for functions that perform operations, which are steps of their own.
Where functions perform nothing, operations have their answers at once.

* `Viewpoint.agrees_of_concerns`: two sessions in which the same concerns the member, step by step.
* `Viewpoint.independent`: the same for operations that are run to their ends.
-/

namespace Understudy

namespace Viewpoint

variable (view : Viewpoint) (names names' : Naming)

/-! ## Sessions -/

/-- Whether what is done is admitted at every point, the latest operation at the head. -/
def Admitted : List Operation → Prop
  | [] => True
  | operation :: before => view.Admits names (performed before).2 operation ∧ Admitted before

/-- The steps that concern the member, the latest at the head. -/
def trace : List Operation → List (Concern × Stage.Progress)
  | [] => []
  | operation :: before =>
    let stage := (performed before).2
    match view.concern? names stage operation with
    | some concern => (concern, (stage.begin operation).1.unnumbered) :: trace before
    | none => trace before

/-- The answers to the operations that concern the member when all are run to their ends one after
    the other, and the stage that they lead to. The latest operation is at the head. -/
def play (depth : Nat) : List Operation → Option (List (Concern × Answer) × Stage)
  | [] => some ([], .empty)
  | operation :: before =>
    (play depth before).bind fun (told, stage) =>
      (stage.run depth operation).map fun (answer, after) =>
        match view.concern? names stage operation with
        | some concern => ((concern, answer.unnumbered) :: told, after)
        | none => (told, after)

variable {view} {names names'} {operations operations' before : List Operation}
  {operation : Operation} {concern : Concern}

theorem trace_concerned
    (concerns : view.concern? names (performed before).2 operation = some concern) :
    view.trace names (operation :: before) =
      (concern, ((performed before).2.begin operation).1.unnumbered) ::
        view.trace names before := by
  simp only [trace, concerns]

theorem trace_unconcerned
    (unconcerned : view.concern? names (performed before).2 operation = none) :
    view.trace names (operation :: before) = view.trace names before := by
  simp only [trace, unconcerned]

theorem Apart.empty : view.Apart names .empty := by
  constructor
  intro target member cell held
  cases held

theorem Agrees.empty : view.Agrees names names' .empty .empty := by
  constructor
  case mock => exact .inr ⟨Nat.zero_le _, Nat.zero_le _⟩
  case state => exact .absent
  case cells =>
    intros
    rfl

/-- The stage of every session is well formed, and if what is done is admitted cells are apart. -/
theorem Admitted.apart (admitted : view.Admitted names operations) :
    view.Apart names (performed operations).2 := by
  induction operations with
  | nil => exact .empty
  | cons operation before ih =>
    have wf := (Session.of_performed before).wellFormed
    exact (ih admitted.2).begin wf admitted.1

/-- What does not concern the member leaves the stage of a session alike. -/
theorem Admitted.agrees_of_unconcerned (admitted : view.Admitted names (operation :: before))
    (unconcerned : view.concern? names (performed before).2 operation = none) :
    view.Agrees names names (performed before).2 (performed (operation :: before)).2 :=
  admitted.2.apart.agrees (Session.of_performed before).wellFormed admitted.1 unconcerned

/-! ## Two sessions -/

/-- The latest operation that concerns the member. -/
structure Latest (view : Viewpoint) (names : Naming) (operations : List Operation)
    (concern : Concern) (operation : Operation) (before : List Operation) : Prop where
  concerns : view.concern? names (performed before).2 operation = some concern
  admitted : view.Admitted names (operation :: before)
  trace : view.trace names operations = view.trace names (operation :: before)
  /-- What is behind it leaves the stage alike. -/
  agrees : view.Agrees names names (performed (operation :: before)).2 (performed operations).2

/-- If something concerns the member, there is a latest operation that does. -/
theorem exists_latest {progress : Stage.Progress} {rest : List (Concern × Stage.Progress)}
    (admitted : view.Admitted names operations)
    (trace : view.trace names operations = (concern, progress) :: rest) :
    ∃ operation before, view.Latest names operations concern operation before := by
  induction operations with
  | nil => cases trace
  | cons operation before ih =>
    rcases concerns : view.concern? names (performed before).2 operation with _ | concern'
    · rw [trace_unconcerned concerns] at trace
      obtain ⟨latest, earlier, h⟩ := ih admitted.2 trace
      refine ⟨latest, earlier, h.concerns, h.admitted, ?_, ?_⟩
      · rw [trace_unconcerned concerns, h.trace]
      · exact h.agrees.trans (admitted.agrees_of_unconcerned concerns)
    · rw [trace_concerned concerns] at trace
      cases trace
      exact ⟨operation, before, concerns, admitted, rfl, .refl admitted.apart⟩

/-- If nothing concerns the member, the stage looks as it did when nothing had happened. -/
theorem Admitted.agrees_of_trace (admitted : view.Admitted names operations)
    (trace : view.trace names operations = []) :
    view.Agrees names names .empty (performed operations).2 := by
  induction operations with
  | nil => exact .empty
  | cons operation before ih =>
    rcases concerns : view.concern? names (performed before).2 operation with _ | concern
    · rw [trace_unconcerned concerns] at trace
      exact (ih admitted.2 trace).trans (admitted.agrees_of_unconcerned concerns)
    · rw [trace_concerned concerns] at trace
      cases trace

/-- Two sessions in which the same concerns the member come to the same as far as it is
    concerned. -/
theorem agrees_of_concerns (admitted : view.Admitted names operations)
    (admitted' : view.Admitted names' operations')
    (same : (view.trace names operations).map (·.1) = (view.trace names' operations').map (·.1)) :
    view.trace names operations = view.trace names' operations' ∧
      view.Agrees names names' (performed operations).2 (performed operations').2 := by
  -- The induction is on what concerns the member; the rest is passed over on both sides.
  generalize trace : view.trace names operations = told at same
  generalize trace' : view.trace names' operations' = told' at same
  induction told generalizing operations operations' told' with
  | nil =>
    obtain rfl := List.map_eq_nil_iff.1 same.symm
    exact ⟨rfl, Agrees.empty.behind (admitted.agrees_of_trace trace)
      (admitted'.agrees_of_trace trace')⟩
  | cons entry told ih =>
    rcases entry with ⟨concern, progress⟩
    obtain ⟨⟨_, progress'⟩, told', rfl, rfl, rest⟩ := List.map_eq_cons_iff.1 same.symm
    obtain ⟨operation, before, latest⟩ := exists_latest admitted trace
    obtain ⟨operation', before', latest'⟩ := exists_latest admitted' trace'
    rw [latest.trace, trace_concerned latest.concerns] at trace
    rw [latest'.trace, trace_concerned latest'.concerns] at trace'
    obtain ⟨first, earlier⟩ := List.cons.inj trace
    obtain ⟨first', earlier'⟩ := List.cons.inj trace'
    obtain ⟨rfl, alike⟩ := ih latest.admitted.2 latest'.admitted.2 earlier _ earlier' rest.symm
    have step := alike.coincide (Session.of_performed before).wellFormed
      (Session.of_performed before').wellFormed latest.admitted.2.apart latest'.admitted.2.apart
      latest.admitted.1 latest'.admitted.1 latest.concerns latest'.concerns
    refine ⟨?_, step.agrees.behind latest.agrees latest'.agrees⟩
    rw [← first, ← first', step.progress]

end Viewpoint

/-! ## Operations that are run to their ends -/

/-- Whether the functions among the outcomes of a rule perform nothing. -/
def Operation.Pure : Operation → Prop
  | .declare _ _ _ outcomes =>
    ∀ f, .function f ∈ outcomes → ∀ arguments, ∃ value, f arguments = .settle value
  | _ => True

/-- The answer of an operation that is over, or for which a function runs that performs nothing. -/
def Stage.Progress.answer? : Stage.Progress → Option Answer
  | .finished answer => some answer
  | .running (.settle value) => some (.ok (.value value))
  | .running (.perform _ _) => none

theorem Stage.Progress.answer?_unnumbered (progress : Stage.Progress) :
    progress.unnumbered.answer? = progress.answer?.map Answer.unnumbered := by
  rcases progress with answer | _ | _ <;> rfl

theorem Stage.run_of_answer {stage : Stage} {operation : Operation} {answer : Answer}
    (told : (stage.begin operation).1.answer? = some answer) (depth : Nat) :
    stage.run (depth + 1) operation = some (answer, (stage.begin operation).2) := by
  unfold run
  rcases begun : stage.begin operation with ⟨_ | _ | _, after⟩ <;> rw [begun] at told <;>
    cases told <;> rfl

/-- A rule that may decide calls was declared. -/
theorem History.declared_of_mem {history : History} {rule : DeclaredRule}
    (mem : rule ∈ history.declared) : .declared rule.matcher rule.outcomes ∈ history := by
  induction history with
  | nil => cases mem
  | cons happening before ih =>
    cases happening with
    | declared matcher outcomes =>
      rcases List.mem_cons.1 mem with rfl | mem
      · exact List.mem_cons_self
      · exact List.mem_cons_of_mem _ (ih mem)
    | called | read => exact List.mem_cons_of_mem _ (ih mem)
    | forgotten => cases mem

/-- What happened to a member was a step. -/
theorem exists_step_of_declared {id : MockId} {name : String} {steps : List Step}
    {matcher : Matcher} {outcomes : List Outcome}
    (happened : .declared matcher outcomes ∈ historyOf id name steps) :
    ∃ step ∈ steps, ∃ pattern, step.operation = .declare id name pattern outcomes := by
  obtain ⟨⟨operation, progress⟩, mem, told⟩ := List.mem_filterMap.1 happened
  refine ⟨_, mem, ?_⟩
  cases operation with
  | declare target member pattern declared =>
    simp only [Step.happening?, Option.ite_none_right_eq_some, Option.some.injEq,
      Happening.declared.injEq] at told
    obtain ⟨⟨rfl, rfl, -⟩, -, rfl⟩ := told
    exact ⟨pattern, rfl⟩
  | createMock | createCell | set | attach | write | peek | records => cases told
  | call | get | reset =>
    simp only [Step.happening?, Option.ite_none_right_eq_some, Option.some.injEq, reduceCtorEq,
      and_false] at told

namespace Session

variable {steps : List Step} {stage : Stage}

/-- A function that runs was declared, and is run for the arguments of a call. -/
theorem exists_declared_of_running (session : Session steps stage) {operation : Operation}
    {script : Script} (running : (stage.begin operation).1 = .running script) :
    ∃ step ∈ steps, ∃ id name pattern outcomes f arguments,
      step.operation = .declare id name pattern outcomes ∧ .function f ∈ outcomes ∧
      script = f arguments := by
  obtain ⟨id, name, arguments, rfl⟩ := (stage.begin_effect operation).exists_call running
  obtain ⟨mock, m, records, rules, f, found, state, drawn, rfl, -⟩ := Stage.begin_of_running running
  have explained := session.explained id name
  rw [Stage.stateOf?_of_at found] at explained
  rcases explained.draw_cases state arguments with ⟨-, placeholder⟩ | ⟨rule, decisive, mem, -⟩
  · rw [drawn] at placeholder
    cases placeholder
  · rw [drawn] at mem
    obtain ⟨step, there, pattern, declares⟩ :=
      exists_step_of_declared (History.declared_of_mem (List.mem_of_find?_eq_some decisive))
    exact ⟨step, there, id, name, pattern, rule.outcomes, f, arguments, declares, mem, rfl⟩

/-- If all operations are pure, the next one has its answer at once. -/
theorem exists_answer (session : Session steps stage)
    (pure : ∀ step ∈ steps, step.operation.Pure) (operation : Operation) :
    ∃ answer, (stage.begin operation).1.answer? = some answer := by
  cases begun : (stage.begin operation).1 with
  | finished answer => exact ⟨answer, rfl⟩
  | running script =>
    obtain ⟨step, mem, id, name, pattern, outcomes, f, arguments, declares, there, rfl⟩ :=
      session.exists_declared_of_running begun
    have settles := pure step mem
    rw [declares] at settles
    obtain ⟨value, settled⟩ := settles f there arguments
    rw [settled]
    exact ⟨_, rfl⟩

end Session

theorem performed_operations (operations : List Operation) :
    (performed operations).1.map (·.operation) = operations := by
  induction operations with
  | nil => rfl
  | cons operation before ih => exact congrArg (operation :: ·) ih

namespace Viewpoint

variable {view : Viewpoint} {names names' : Naming} {operations operations' : List Operation}

/-- Where functions perform nothing, running all operations to their ends is no more than beginning
    one after the other. -/
theorem exists_play (view : Viewpoint) (names : Naming)
    (pure : ∀ operation ∈ operations, operation.Pure) (depth : Nat) :
    ∃ told, view.play names (depth + 1) operations = some (told, (performed operations).2) ∧
      told.map (fun entry => (entry.1, some entry.2)) =
        (view.trace names operations).map fun entry => (entry.1, entry.2.answer?) := by
  induction operations with
  | nil => exact ⟨[], rfl, rfl⟩
  | cons operation before ih =>
    have settled : ∀ step ∈ (performed before).1, step.operation.Pure := by
      intro step mem
      have there : step.operation ∈ (performed before).1.map (·.operation) :=
        List.mem_map_of_mem mem
      rw [performed_operations] at there
      exact pure _ (List.mem_cons_of_mem _ there)
    -- No operation performs another one, so each has its answer when it begins.
    obtain ⟨answer, answered⟩ := (Session.of_performed before).exists_answer settled operation
    obtain ⟨told, plays, same⟩ := ih fun other mem => pure other (List.mem_cons_of_mem _ mem)
    rw [play, plays]
    simp only [Option.bind_some, Stage.run_of_answer answered, Option.map_some]
    rcases concerns : view.concern? names (performed before).2 operation with _ | concern
    · rw [trace_unconcerned concerns]
      exact ⟨told, rfl, same⟩
    · rw [trace_concerned concerns]
      refine ⟨(concern, answer.unnumbered) :: told, rfl, ?_⟩
      rw [List.map_cons, List.map_cons, same, Stage.Progress.answer?_unnumbered, answered]
      rfl

/-- Whether two sessions are the same to the member. -/
structure Alike (view : Viewpoint) (one other : List (Concern × Answer) × Stage) : Prop where
  /-- The operations that concern it are answered alike. -/
  answers : one.1 = other.1
  /-- The same is recorded in the same order. -/
  log : (MemberState.recordsOf (one.2.stateOf? view.id view.name)).map (·.arguments) =
    (MemberState.recordsOf (other.2.stateOf? view.id view.name)).map (·.arguments)
  /-- Its calls are rehearsed alike. -/
  rehearsals : ∀ arguments, one.2.rehearse view.id view.name arguments =
    other.2.rehearse view.id view.name arguments

theorem Agrees.log {stage stage' : Stage} (h : view.Agrees names names' stage stage') :
    (MemberState.recordsOf (stage.stateOf? view.id view.name)).map (·.arguments) =
      (MemberState.recordsOf (stage'.stateOf? view.id view.name)).map (·.arguments) := by
  have twin := h.state
  generalize stage.stateOf? view.id view.name = state at twin
  generalize stage'.stateOf? view.id view.name = state' at twin
  cases twin with
  | absent | field => rfl
  | callable args | unbacked args | backed args => exact args

theorem Agrees.rehearse {stage stage' : Stage} (h : view.Agrees names names' stage stage')
    (wf : stage.WellFormed) (wf' : stage'.WellFormed) (arguments : Arguments) :
    stage.rehearse view.id view.name arguments = stage'.rehearse view.id view.name arguments := by
  rw [Stage.rehearse, Stage.rehearse]
  rcases h.mock with ⟨mock, mock', there, there', alike⟩ | ⟨absent, absent'⟩
  · simp only [there, there', Stage.ok_bind]
    cases hm : mock.member view.name with
    | error fault =>
      rw [alike.missing (wf.of_mock there) (wf'.of_mock there') hm]
      rfl
    | ok m =>
      obtain ⟨m', hm', -⟩ := alike.symm.member (wf'.of_mock there') (wf.of_mock there) hm
      rw [hm', alike.memberLabel]
      rfl
  · rw [Stage.mock, Stage.mock, List.getElem?_eq_none absent, List.getElem?_eq_none absent']

/-- Two sessions of pure operations are the same to a member if the same concerns it in both,
    whatever is done to others in between and in whichever order. -/
theorem independent (depth : Nat) (pure : ∀ operation ∈ operations, operation.Pure)
    (pure' : ∀ operation ∈ operations', operation.Pure)
    (admitted : view.Admitted names operations) (admitted' : view.Admitted names' operations') :
    ∃ one other, view.play names (depth + 1) operations = some one ∧
      view.play names' (depth + 1) operations' = some other ∧
      (one.1.map (·.1) = other.1.map (·.1) → view.Alike one other) := by
  obtain ⟨told, plays, steps⟩ := exists_play view names pure depth
  obtain ⟨told', plays', steps'⟩ := exists_play view names' pure' depth
  refine ⟨_, _, plays, plays', fun same => ?_⟩
  -- What concerns the member is the same in what is played and in the trace.
  have concerned : (view.trace names operations).map (·.1) =
      (view.trace names' operations').map (·.1) := by
    have firsts := congrArg (List.map Prod.fst) steps
    have firsts' := congrArg (List.map Prod.fst) steps'
    simp only [List.map_map, Function.comp_def] at firsts firsts'
    rw [← firsts, ← firsts']
    exact same
  obtain ⟨trace, agrees⟩ := agrees_of_concerns admitted admitted' concerned
  have wf := (Session.of_performed operations).wellFormed
  have wf' := (Session.of_performed operations').wellFormed
  refine ⟨?_, agrees.log, agrees.rehearse wf wf'⟩
  rw [trace, ← steps'] at steps
  refine List.map_injective_iff.2 ?_ steps
  rintro ⟨concern, answer⟩ ⟨concern', answer'⟩ same
  simpa using same

end Viewpoint

/-- The naming in which one cell is given to the member, and others have no name. -/
def Naming.only (cell : CellId) : Naming where
  name? other := if other = cell then some (.given 0) else none
  injective := by
    intro a b x named named'
    obtain ⟨rfl, -⟩ := Option.ite_none_right_eq_some.1 named
    obtain ⟨rfl, -⟩ := Option.ite_none_right_eq_some.1 named'
    rfl

theorem Naming.only_eq_some {cell other : CellId} {x : CellName} :
    (only cell).name? other = some x ↔ other = cell ∧ x = .given 0 := by
  rw [only, Option.ite_none_right_eq_some, Option.some.injEq, eq_comm (a := x)]

/-- A property that is looked from, and the value of its cell. -/
def Sample.outlook : Viewpoint := ⟨⟨0⟩, "meaning_of_life", fun _ => .str "virtue"⟩

/-- A session with one mock, whose property is backed by a cell that is written. -/
def Sample.solitude : List Operation :=
  [.records ⟨0⟩ "meaning_of_life",
    .get ⟨0⟩ "meaning_of_life",
    .write ⟨0⟩ (.str "doubt"),
    .get ⟨0⟩ "meaning_of_life",
    .attach ⟨0⟩ "meaning_of_life" ⟨0⟩,
    .createCell (.str "virtue"),
    .createMock ⟨0, philosopherSurface⟩ (.named (some "Zeno"))]

/-- The same in the company of a mock of the same name, with a cell made before that is not the
    property's and a call recorded in between. -/
def Sample.company : List Operation :=
  [.records ⟨0⟩ "meaning_of_life",
    .get ⟨0⟩ "meaning_of_life",
    .write ⟨1⟩ (.str "doubt"),
    .get ⟨1⟩ "meaning_of_life",
    .call ⟨0⟩ "think" (.ofList [.str "justice"]),
    .get ⟨0⟩ "meaning_of_life",
    .declare ⟨0⟩ "think" .anyCall [.function fun _ => .settle (.str "hm")],
    .attach ⟨0⟩ "meaning_of_life" ⟨1⟩,
    .createCell (.str "virtue"),
    .set ⟨1⟩ "meaning_of_life" (.str "none"),
    .createMock ⟨0, philosopherSurface⟩ (.named (some "Zeno")),
    .createMock ⟨0, philosopherSurface⟩ (.named (some "Zeno"))]

theorem Viewpoint.independent_company :
    (Sample.outlook.play (.only ⟨0⟩) 1 Sample.solitude).map (·.1.map (·.1)) =
        (Sample.outlook.play (.only ⟨1⟩) 1 Sample.company).map (·.1.map (·.1)) ∧
      ∃ one other, Sample.outlook.play (.only ⟨0⟩) 1 Sample.solitude = some one ∧
        Sample.outlook.play (.only ⟨1⟩) 1 Sample.company = some other ∧
        Sample.outlook.Alike one other := by
  have same : (Sample.outlook.play (.only ⟨0⟩) 1 Sample.solitude).map (·.1.map (·.1)) =
      (Sample.outlook.play (.only ⟨1⟩) 1 Sample.company).map (·.1.map (·.1)) := by rfl
  have given : ∀ {cell other : CellId} {stage : Stage} {x : CellName},
      cell.index < stage.cells.length → (Naming.only cell).name? other = some x →
      x ≠ .own ∧ other.index < stage.cells.length := by
    intro cell other stage x there named
    obtain ⟨rfl, rfl⟩ := Naming.only_eq_some.1 named
    exact ⟨nofun, there⟩
  have admitted : Sample.outlook.Admitted (.only ⟨0⟩) Sample.solitude :=
    ⟨trivial, trivial, fun _ => given Nat.zero_lt_one, trivial,
      ⟨fun _ => given Nat.zero_lt_one, fun _ => ⟨fun _ => ⟨rfl, rfl⟩, fun _ => rfl⟩⟩,
      fun _ named => ⟨0, (Naming.only_eq_some.1 named).2, rfl⟩, trivial, trivial⟩
  have admitted' : Sample.outlook.Admitted (.only ⟨1⟩) Sample.company :=
    ⟨trivial, trivial, fun _ => given Nat.one_lt_two, trivial, trivial, trivial, trivial,
      ⟨fun _ => given Nat.one_lt_two, fun _ => ⟨fun _ => ⟨rfl, rfl⟩, fun _ => rfl⟩⟩,
      fun _ named => ⟨0, (Naming.only_eq_some.1 named).2, rfl⟩, fun _ => rfl, trivial, trivial,
      trivial⟩
  have pure : ∀ operation ∈ Sample.solitude, operation.Pure := by
    simp [Sample.solitude, Operation.Pure]
  have pure' : ∀ operation ∈ Sample.company, operation.Pure := by
    simp [Sample.company, Operation.Pure]
  obtain ⟨one, other, plays, plays', alike⟩ :=
    Viewpoint.independent 0 pure pure' admitted admitted'
  refine ⟨same, one, other, plays, plays', alike ?_⟩
  rw [plays, plays'] at same
  exact Option.some.inj same

end Understudy
