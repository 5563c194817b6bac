import Mathlib.Logic.Function.Iterate
import Understudy.Proofs.Sample.Agreement
import Understudy.Proofs.Stage.Independence

/-!
# Rolling dice

Dice are rolled by one throw after the other. A throw is a call of `randint`: it is recorded and
draws from the rules whether or not a number comes of it. The first throw that gives no number ends
the roll with what it failed with, so later outcomes are left for later throws; otherwise the
numbers are added up. Where functions settle at once, every throw has a result.

* `Dice.begin_throw`: what one throw does.
* `Dice.Thrown.succ`: what throws have done so far, throw by throw.
* `Dice.Throws.rolled`: what a roll makes of the results of throws.
* `Session.rolls`: what a roll is made of, given the throws one after the other.
-/

namespace Understudy

variable {stage : Stage} {steps : List Step} {id : MockId} {mock : Mock} {depth count : Nat}

/-! ## Functions that settle at once -/

/-- Whether the functions that rules may still let run settle at once. -/
def Rules.Pure (rules : Rules) : Prop :=
  ∀ f, rules.Stock (.function f) → ∀ arguments, ∃ value, f arguments = .settle value

theorem Rules.Pure.after {rules : Rules} (pure : rules.Pure) (arguments : Arguments) :
    (rules.after arguments).Pure :=
  fun f stock => pure f stock.of_after

theorem Rules.Pure.iterate {rules : Rules} (pure : rules.Pure) (arguments : Arguments)
    (count : Nat) : ((Rules.after arguments)^[count] rules).Pure := by
  induction count with
  | zero => exact pure
  | succ count ih =>
    rw [Function.iterate_succ_apply']
    exact ih.after arguments

/-- A function that is drawn was still to come. -/
theorem MockMember.stock_of_draw {m : MockMember} {rules : Rules} {arguments : Arguments}
    {f : Arguments → Script} (function : (m.draw rules arguments).1 = .function f) :
    rules.Stock (.function f) := by
  unfold draw at function
  cases drawn : rules.draw arguments with
  | none =>
    rw [drawn] at function
    cases function
  | some found =>
    rw [drawn] at function
    exact function ▸ Rules.Stock.of_draw drawn

/-- Where all functions settle at once, every outcome that is drawn has an answer. -/
theorem MockMember.exists_answer {m : MockMember} {rules : Rules} (pure : rules.Pure)
    (arguments : Arguments) :
    ∃ answer, ((m.draw rules arguments).1.progress arguments).answer? = some answer := by
  cases outcome : (m.draw rules arguments).1 with
  | value | failure => exact ⟨_, rfl⟩
  | function f =>
    obtain ⟨value, settles⟩ := pure f (stock_of_draw outcome) arguments
    exact ⟨.ok (.value value), by rw [Outcome.progress, settles, Stage.Progress.answer?]⟩

namespace Dice

/-- The arguments of a throw. -/
def throwing : Arguments := .ofList [.int 1, .int 6]

/-- The call that a throw is. -/
def throwOf (id : MockId) : Operation := .call id "randint" throwing

/-- A throw draws from the rules of `randint` and is recorded. -/
theorem begin_throw (wf : stage.WellFormed) (source : stage.IsSource id) :
    ∃ mock m records rules, stage.At id "randint" mock m ∧ m.state = .callable records rules ∧
      stage.begin (throwOf id) = ((m.draw rules throwing).1.progress throwing,
        stage.putMock (mock.setState "randint" (.callable (records ++ [mock.recordOf throwing])
          (m.draw rules throwing).2)).advance) := by
  obtain ⟨mock, m, records, rules, found, spec, state⟩ :=
    source.exists_at wf Sample.member?_randint rfl
  have fits : m.spec.mismatch? mock.settings.coercion throwing = none := by
    rw [spec]
    rfl
  exact ⟨mock, m, records, rules, found, state, Stage.begin_call_of_fits found state fits⟩

/-! ## One throw after the other -/

/-- What so many throws change: their records are behind those of `randint`, with the next numbers
    of the mock, as many outcomes are drawn from its rules, and all else is as it was. -/
structure Thrown (stage : Stage) (id : MockId) (mock : Mock) (count : Nat) (after : Stage) :
    Prop where
  records : MemberState.recordsOf (after.stateOf? id "randint") =
    MemberState.recordsOf (stage.stateOf? id "randint") ++
      (List.range count).map fun k => ⟨throwing, mock.nextSeq + UInt64.ofNat k⟩
  rules : MemberState.rulesOf (after.stateOf? id "randint") =
    (Rules.after throwing)^[count] (MemberState.rulesOf (stage.stateOf? id "randint"))
  next : ∃ mock', after.mock id = .ok mock' ∧ mock'.Alike mock ∧
    mock'.nextSeq = mock.nextSeq + UInt64.ofNat count
  members : ∀ name, name ≠ "randint" → after.stateOf? id name = stage.stateOf? id name
  mocks : ∀ target, target ≠ id → after.mock target = stage.mock target
  cells : after.cells = stage.cells

theorem Thrown.zero (there : stage.mock id = .ok mock) : Thrown stage id mock 0 stage where
  records := by simp
  rules := rfl
  next := ⟨mock, there, .refl mock, by simp⟩
  members := fun _ _ => rfl
  mocks := fun _ _ => rfl
  cells := rfl

/-- A throw more. -/
theorem Thrown.succ {between : Stage} (h : Thrown stage id mock count between)
    (wf : between.WellFormed) (source : between.IsSource id) :
    Thrown stage id mock (count + 1) (between.begin (throwOf id)).2 := by
  obtain ⟨here, m, records, rules, found, state, begun⟩ := begin_throw wf source
  obtain ⟨here', there, alike, next⟩ := h.next
  obtain rfl : here = here' := Except.ok.inj (found.1.symm.trans there)
  have before : between.stateOf? id "randint" = some (.callable records rules) := by
    rw [Stage.stateOf?_of_at found, state]
  -- All that the throw does is to put another state of `randint` in place.
  obtain ⟨drawn, state'⟩ : ∃ drawn : MemberState, drawn =
    .callable (records ++ [here.recordOf throwing]) (m.draw rules throwing).2 := ⟨_, rfl⟩
  rw [← state'] at begun
  have states (name : String) :
      (between.putMock (here.setState "randint" drawn).advance).stateOf? id name =
        if id = id ∧ "randint" = name then some drawn else between.stateOf? id name :=
    Stage.stateOf?_advance wf found
  have mocks := wf.mock_putMock found.1 (here.setState "randint" drawn).advance rfl
  rw [begun]
  constructor
  case records =>
    rw [states, if_pos ⟨rfl, rfl⟩, List.range_succ, List.map_append, ← List.append_assoc,
      ← h.records, before, state']
    simp [MemberState.recordsOf, MemberState.records, Mock.recordOf, next]
  case rules =>
    rw [states, if_pos ⟨rfl, rfl⟩, Function.iterate_succ_apply', ← h.rules, before, state']
    exact m.draw_snd rules throwing
  case next =>
    refine ⟨_, (mocks id).trans (if_pos rfl), ?_, ?_⟩
    · exact (here.alike_setState _ _).advance.trans alike
    · rw [UInt64.ofNat_add, ← UInt64.add_assoc, ← next]
      rfl
  case members =>
    intro name other
    rw [states, if_neg fun same => other same.2.symm]
    exact h.members name other
  case mocks =>
    intro target other
    rw [mocks, if_neg other]
    exact h.mocks target other
  case cells => exact h.cells

theorem Thrown.isSource {after : Stage} (h : Thrown stage id mock count after)
    (there : stage.mock id = .ok mock) (source : stage.IsSource id) : after.IsSource id := by
  obtain ⟨_, same, made⟩ := source
  obtain rfl := Except.ok.inj (there.symm.trans same)
  obtain ⟨here, found, alike, -⟩ := h.next
  exact ⟨here, found, alike.surface ▸ made⟩

theorem Thrown.pure {after : Stage} (h : Thrown stage id mock count after)
    (pure : (MemberState.rulesOf (stage.stateOf? id "randint")).Pure) :
    (MemberState.rulesOf (after.stateOf? id "randint")).Pure := by
  rw [h.rules]
  exact pure.iterate throwing count

/-- A throw has a result. -/
theorem exists_randint (wf : stage.WellFormed) (source : stage.IsSource id)
    (pure : (MemberState.rulesOf (stage.stateOf? id "randint")).Pure) (depth : Nat) :
    ∃ result, randint (depth + 1) stage id 1 6 = some (result, (stage.begin (throwOf id)).2) := by
  obtain ⟨mock, m, records, rules, found, state, begun⟩ := begin_throw wf source
  rw [Stage.stateOf?_of_at found, state] at pure
  obtain ⟨answer, answered⟩ := m.exists_answer pure throwing
  have told : (stage.begin (throwOf id)).1.answer? = some answer := by
    rw [begun]
    exact answered
  have ran : stage.run (depth + 1) (.call id "randint" (.ofList [.int 1, .int 6])) =
      some (answer, (stage.begin (throwOf id)).2) := Stage.run_of_answer told depth
  rw [randint, ran]
  exact ⟨_, rfl⟩

/-- The stage behind so many throws. -/
def behind (stage : Stage) (id : MockId) (count : Nat) : Stage :=
  (fun stage => (stage.begin (throwOf id)).2)^[count] stage

theorem behind_succ (stage : Stage) (id : MockId) (count : Nat) :
    behind stage id (count + 1) = ((behind stage id count).begin (throwOf id)).2 :=
  Function.iterate_succ_apply' _ _ _

/-- The results of throws one after the other, and the stages that they lead to. -/
structure Throws (depth : Nat) (stage : Stage) (id : MockId)
    (results : Nat → Except Fault Int64) (stages : Nat → Stage) : Prop where
  start : stages 0 = stage
  next : ∀ k, randint depth (stages k) id 1 6 = some (results k, stages (k + 1))

/-- What is known of the stage before a throw tells its result and the stage behind it. -/
theorem Throws.follow {results : Nat → Except Fault Int64} {stages : Nat → Stage}
    (throws : Throws depth stage id results stages) {k : Nat} {before after : Stage}
    {result : Except Fault Int64} (here : stages k = before)
    (ran : randint depth before id 1 6 = some (result, after)) :
    results k = result ∧ stages (k + 1) = after := by
  have next := throws.next k
  rw [here, ran] at next
  exact Prod.mk.inj (Option.some.inj next.symm)

/-- Throws on a stage of a session lead from one to another. -/
theorem session_behind (session : Session steps stage) (source : stage.IsSource id)
    (there : stage.mock id = .ok mock) (count : Nat) :
    (∃ steps, Session steps (behind stage id count)) ∧
      Thrown stage id mock count (behind stage id count) := by
  induction count with
  | zero => exact ⟨⟨steps, session⟩, .zero there⟩
  | succ count ih =>
    obtain ⟨⟨before, session⟩, thrown⟩ := ih
    rw [behind_succ]
    exact ⟨⟨_, session.step _⟩, thrown.succ session.wellFormed (thrown.isSource there source)⟩

/-- Every throw has a result, if functions settle at once. -/
theorem exists_throws (session : Session steps stage) (source : stage.IsSource id)
    (there : stage.mock id = .ok mock)
    (pure : (MemberState.rulesOf (stage.stateOf? id "randint")).Pure) (depth : Nat) :
    ∃ results, Throws (depth + 1) stage id results (behind stage id) := by
  have thrown := session_behind session source there
  have result (k : Nat) : ∃ result, randint (depth + 1) (behind stage id k) id 1 6 =
      some (result, behind stage id (k + 1)) := by
    obtain ⟨⟨_, session⟩, thrown⟩ := thrown k
    rw [behind_succ]
    exact exists_randint session.wellFormed (thrown.isSource there source) (thrown.pure pure) depth
  choose results next using result
  exact ⟨results, rfl, next⟩

/-! ## Sums -/

/-- Whether so many throws have numbers as results. -/
def Numbers (results : Nat → Except Fault Int64) (count : Nat) : Prop :=
  ∀ k < count, ∃ n, results k = .ok n

/-- What so many throws add up to. A throw without a number counts for nothing. -/
def total (results : Nat → Except Fault Int64) : Nat → Int
  | 0 => 0
  | count + 1 =>
    total results count + match results count with
      | .ok n => n.toInt
      | .error _ => 0

/-- Whether the sums on the way to so many throws are integers of 64 bits. -/
def Fits (results : Nat → Except Fault Int64) (dice : Nat) : Prop :=
  ∀ count ≤ dice, Numbers results count → ∃ sum : Int64, sum.toInt = total results count

/-- Where the sum of two integers has 64 bits, it is what is computed. -/
theorem add_eq_of_toInt {a b sum : Int64} (exact : a.toInt + b.toInt = sum.toInt) :
    a + b = sum := by
  rw [← Int64.ofInt_toInt sum, ← exact, Int64.ofInt_add, Int64.ofInt_toInt, Int64.ofInt_toInt]

variable {results : Nat → Except Fault Int64} {stages : Nat → Stage} {sum : Int64}
  {dice start : Nat}

/-- The roll of the dice that are left, from the stage that the throws before lead to. -/
theorem rollOnto_numbers
    (next : ∀ k, randint depth (stages k) id 1 6 = some (results k, stages (k + 1)))
    (sofar : sum.toInt = total results start) (fits : Fits results (start + dice))
    (numbers : Numbers results (start + dice)) :
    ∃ after : Int64, rollOnto depth id dice sum (stages start) =
      some (.ok after, stages (start + dice)) ∧ after.toInt = total results (start + dice) := by
  induction dice generalizing sum start with
  | zero => exact ⟨sum, rfl, sofar⟩
  | succ dice ih =>
    obtain ⟨n, thrown⟩ := numbers start (by omega)
    obtain ⟨more, exact⟩ := fits (start + 1) (by omega) fun k less => numbers k (by omega)
    rw [total, thrown, ← sofar] at exact
    have added : sum + n = more := add_eq_of_toInt exact.symm
    have behind : more.toInt = total results (start + 1) := by rw [total, thrown, ← sofar, exact]
    rw [show start + (dice + 1) = start + 1 + dice by omega] at fits numbers ⊢
    rw [rollOnto, next start, Option.bind_some, thrown]
    dsimp only
    rw [added]
    exact ih behind fits numbers

/-- The first throw that fails ends the roll. -/
theorem rollOnto_stops
    (next : ∀ k, randint depth (stages k) id 1 6 = some (results k, stages (k + 1)))
    {j : Nat} {fault : Fault} (less : j < dice) (numbers : Numbers results (start + j))
    (failed : results (start + j) = .error fault) :
    rollOnto depth id dice sum (stages start) = some (.error fault, stages (start + j + 1)) := by
  induction j generalizing sum start dice with
  | zero =>
    obtain ⟨dice, rfl⟩ := Nat.exists_eq_succ_of_ne_zero (Nat.ne_of_gt less)
    rw [Nat.add_zero] at failed ⊢
    rw [rollOnto, next start, Option.bind_some, failed]
  | succ j ih =>
    obtain ⟨dice, rfl⟩ := Nat.exists_eq_succ_of_ne_zero (Nat.ne_of_gt (Nat.zero_lt_of_lt less))
    obtain ⟨n, thrown⟩ := numbers start (by omega)
    rw [show start + (j + 1) = start + 1 + j by omega] at numbers failed ⊢
    rw [rollOnto, next start, Option.bind_some, thrown]
    exact ih (Nat.lt_of_succ_lt_succ less) numbers failed

/-- What a roll of so many dice comes to, given the throws one after the other. -/
structure Rolled (depth : Nat) (stage : Stage) (id : MockId) (results : Nat → Except Fault Int64)
    (stages : Nat → Stage) (dice : Nat) : Prop where
  /-- If all throws have numbers as results, their sum, behind all of them. -/
  summed : Numbers results dice → ∃ sum : Int64,
    roll depth stage id dice = some (.ok sum, stages dice) ∧ sum.toInt = total results dice
  /-- Otherwise what the first throw without a number failed with, behind that throw. -/
  stopped : ∀ {j fault}, j < dice → Numbers results j → results j = .error fault →
    roll depth stage id dice = some (.error fault, stages (j + 1))

theorem Throws.rolled (throws : Throws depth stage id results stages) (fits : Fits results dice) :
    Rolled depth stage id results stages dice := by
  constructor
  case summed =>
    intro numbers
    have sofar : (0 : Int64).toInt = total results 0 := rfl
    rw [← Nat.zero_add dice] at fits numbers
    obtain ⟨sum, rolled, exact⟩ := rollOnto_numbers throws.next sofar fits numbers
    rw [Nat.zero_add] at rolled exact
    rw [throws.start] at rolled
    exact ⟨sum, rolled, exact⟩
  case stopped =>
    intro j fault less numbers failed
    rw [← Nat.zero_add j] at numbers failed ⊢
    rw [roll, ← throws.start]
    exact rollOnto_stops throws.next less numbers failed

end Dice

/-- On a stage of a session where functions settle at once, throws one after the other have results.
    A roll adds them up, if they are numbers and no sum on the way has more than 64 bits, and it
    ends with the first one that is none. Nothing but `randint` is changed, by a record and a draw
    for every throw. -/
theorem Session.rolls (session : Session steps stage) (source : stage.IsSource id)
    (there : stage.mock id = .ok mock)
    (pure : (MemberState.rulesOf (stage.stateOf? id "randint")).Pure) (depth : Nat) :
    ∃ results stages, Dice.Throws (depth + 1) stage id results stages ∧
      (∀ count, Dice.Thrown stage id mock count (stages count)) ∧
      ∀ dice, Dice.Fits results dice →
        Dice.Rolled (depth + 1) stage id results stages dice := by
  obtain ⟨results, throws⟩ := Dice.exists_throws session source there pure depth
  refine ⟨results, Dice.behind stage id, throws, fun count => ?_, fun _ => throws.rolled⟩
  exact (Dice.session_behind session source there count).2

/-- A session with a source whose third throw fails, behind a number and a function. -/
def Sample.accident : List Operation :=
  [.declare ⟨0⟩ "randint" .anyCall
      [.value (.int 5), .function fun _ => .settle (.float (.ofInt 6)),
        .failure ⟨7, .diskOnFire "dice"⟩, .value (.int 1)],
    .createMock ⟨0, randomSurface⟩ (.named (some "dice"))]

theorem Session.rolls_accident :
    (performed Sample.accident).2.IsSource ⟨0⟩ ∧
      (MemberState.rulesOf ((performed Sample.accident).2.stateOf? ⟨0⟩ "randint")).Pure ∧
      ∃ results stages, Dice.Throws 1 (performed Sample.accident).2 ⟨0⟩ results stages ∧
        results 0 = .ok 5 ∧ results 1 = .ok 6 ∧
        results 2 = .error (.raised ⟨7, .diskOnFire "dice"⟩) ∧ Dice.Fits results 4 ∧
        Dice.Rolled 1 (performed Sample.accident).2 ⟨0⟩ results stages 4 := by
  have source : (performed Sample.accident).2.IsSource ⟨0⟩ := ⟨_, rfl, rfl⟩
  have pure : (MemberState.rulesOf
      ((performed Sample.accident).2.stateOf? ⟨0⟩ "randint")).Pure := by
    rintro f ⟨rule, mem, there⟩ arguments
    obtain rfl := List.mem_singleton.1 mem
    simp only [OutcomeQueue.toList, List.mem_cons, reduceCtorEq, Outcome.function.injEq,
      List.not_mem_nil, or_false, false_or] at there
    subst there
    exact ⟨_, rfl⟩
  obtain ⟨results, stages, throws, -, rolled⟩ :=
    Session.rolls (.of_performed Sample.accident) source rfl pure 0
  have throw (k : Nat) (result : Except Fault Int64)
      (here : stages k = Dice.behind (performed Sample.accident).2 ⟨0⟩ k)
      (ran : Dice.randint 1 (Dice.behind (performed Sample.accident).2 ⟨0⟩ k) ⟨0⟩ 1 6 =
        some (result, Dice.behind (performed Sample.accident).2 ⟨0⟩ (k + 1))) :=
    throws.follow here ran
  obtain ⟨five, first⟩ := throw 0 (.ok 5) throws.start rfl
  obtain ⟨six, second⟩ := throw 1 (.ok 6) first rfl
  obtain ⟨fire, -⟩ := throw 2 (.error (.raised ⟨7, .diskOnFire "dice"⟩)) second rfl
  have fits : Dice.Fits results 4 := by
    intro count _ numbers
    rcases count with _ | _ | _ | count
    · exact ⟨0, rfl⟩
    · exact ⟨5, by simp [Dice.total, five]⟩
    · exact ⟨11, by simp [Dice.total, five, six]⟩
    · -- The third throw has no number.
      obtain ⟨n, number⟩ := numbers 2 (by omega)
      rw [fire] at number
      cases number
  exact ⟨source, pure, results, stages, throws, five, six, fire, fits, rolled 4 fits⟩

end Understudy
