import Understudy.Proofs.Sample.Dice
import Understudy.Proofs.Stage.Returns
import Understudy.Proofs.Ty.Coercion

/-!
# The checks of a mock and of its adapter agree

A value is checked twice: by the mock when a rule is declared with it, and when it is taken for a
number. What the first check lets pass under either coercion, and what stands in where no rule is
declared, denotes a number of the kind that is asked for. So as long as no function answers, a
source of random numbers on any stage of a session either gives a number or fails with an error
that the test declared.

* `Dice.Adaptation.Lawful`: what is accepted losslessly is what is converted.
* `Session.draws_numbers`: what comes of `randint` and `random` where no rule holds a function.
-/

namespace Understudy

variable {stage : Stage} {steps : List Step} {id : MockId} {name : String} {arguments : Arguments}
  {depth : Nat}

/-! ## Mocks of a source -/

theorem Mock.WellFormed.exists_member {mock : Mock} {spec : Member} (h : mock.WellFormed)
    (declared : mock.surface.value.member? name = some spec) :
    ∃ m, mock.member name = .ok m ∧ m.spec = spec := by
  rw [Surface.member?, ← h.declared, List.find?_map] at declared
  obtain ⟨m, found, rfl⟩ := Option.map_eq_some_iff.1 declared
  exact ⟨m, Mock.member_eq_ok_iff.2 found, rfl⟩

/-- Whether the mock of the id is one of a source of random numbers. -/
def Stage.IsSource (stage : Stage) (id : MockId) : Prop :=
  ∃ mock, stage.mock id = .ok mock ∧ Sample.random = .ok mock.surface.value

namespace Sample

theorem member?_randint : randomSurface.member? "randint" =
    some (.method "randint" [.required "a" .int, .required "b" .int] (some .int)) := rfl

theorem member?_random : randomSurface.member? "random" =
    some (.method "random" [] (some .float)) := rfl

end Sample

/-- The members of a source are those that are declared. -/
theorem Stage.IsSource.exists_at {spec : Member} (source : stage.IsSource id)
    (h : stage.WellFormed) (declared : Sample.randomSurface.member? name = some spec)
    (callable : spec.kind.isCallable = true) :
    ∃ mock m records rules, stage.At id name mock m ∧ m.spec = spec ∧
      m.state = .callable records rules := by
  obtain ⟨mock, there, made⟩ := source
  have surface : mock.surface.value = Sample.randomSurface := by rw [Sample.randomSurface, made]
  obtain ⟨m, found, rfl⟩ := (h.of_mock there).exists_member (surface ▸ declared)
  obtain ⟨records, rules, state⟩ := h.exists_rules ⟨there, found⟩ callable
  exact ⟨mock, m, records, rules, ⟨there, found⟩, rfl, state⟩

namespace Dice

/-! ## What is accepted and what is converted -/

/-- A member of a source whose results are read as numbers: its name, the type that is declared for
    its result, how a number is read from a value, and which numbers a value may give. -/
structure Adaptation (α : Type) where
  name : String
  declared : Ty
  read? : Value → Option α
  Gives : Value → α → Prop

/-- Integers are given by the values that denote them. -/
def integers : Adaptation Int64 := ⟨"randint", .int, integer?, fun value n => value.Denotes n.toInt⟩

/-- Floating-point numbers are given by themselves, and by the integers that they are nearest to. -/
def reals : Adaptation Binary64 := ⟨"random", .float, real?, Stands⟩

/-- An integer is read from the values that are accepted losslessly as one. -/
theorem isSome_integer? (value : Value) :
    (integer? value).isSome = Ty.accepts .lossless .int value := by
  cases value with
  | float x => simp [integer?, Ty.accepts]
  | nil | bool | int | str | list | tuple | set | map | object => rfl

theorem isSome_real? (value : Value) :
    (real? value).isSome = Ty.accepts .lossless .float value := by
  cases value with
  | nil | bool | int | float | str | list | tuple | set | map | object => rfl

/-- Strict coercion accepts no more than lossless coercion does. -/
theorem accepts_lossless {coercion : Coercion} {ty : Ty} {value : Value}
    (accepted : Ty.accepts coercion ty value = true) : Ty.accepts .lossless ty value = true := by
  cases coercion with
  | lossless => exact accepted
  | strict => exact Ty.accepts_lossless ty accepted

/-- Whether the values that are accepted losslessly are read, and as what they give. -/
structure Adaptation.Lawful {α : Type} (adaptation : Adaptation α) : Prop where
  reads : ∀ value, (adaptation.read? value).isSome = Ty.accepts .lossless adaptation.declared value
  gives : ∀ {value a}, adaptation.read? value = some a → adaptation.Gives value a

theorem integers_lawful : integers.Lawful := ⟨isSome_integer?, integer?_eq_some_iff.1⟩

theorem reals_lawful : reals.Lawful := ⟨isSome_real?, stands_of_real?⟩

/-- What is accepted under either coercion is converted. -/
theorem Adaptation.Lawful.exists_of_accepts {α : Type} {adaptation : Adaptation α}
    (lawful : adaptation.Lawful) {coercion : Coercion} {value : Value}
    (accepted : Ty.accepts coercion adaptation.declared value = true) :
    ∃ a, adaptation.read? value = some a ∧ adaptation.Gives value a := by
  have read := lawful.reads value
  rw [accepts_lossless accepted] at read
  obtain ⟨a, read⟩ := Option.isSome_iff_exists.1 read
  exact ⟨a, read, lawful.gives read⟩

/-! ## Draws -/

section

variable {α : Type} (adaptation : Adaptation α)

/-- What becomes of a call that no function decides: a number that is given by a literal of the
    rule that decides it, or by the placeholder if there is none, or an error that the rule was
    declared with. -/
inductive Drawn (history : History) (arguments : Arguments) : Except Fault α → Prop
  | literal {rule : DeclaredRule} {value : Value} {a : α} :
      history.decisive? arguments = some rule → .value value ∈ rule.outcomes →
      adaptation.Gives value a → Drawn history arguments (.ok a)
  | placeholder {a : α} : history.decisive? arguments = none →
      adaptation.Gives (Ty.placeholder (some adaptation.declared)) a →
      Drawn history arguments (.ok a)
  | raised {rule : DeclaredRule} {error : Raised} :
      history.decisive? arguments = some rule → .failure error ∈ rule.outcomes →
      Drawn history arguments (.error (.raised error))

/-- What holds of the calls of a member on a stage of a session. -/
structure Draws (stage : Stage) (steps : List Step) (id : MockId) (arguments : Arguments)
    (result : Option (Except Fault α × Stage)) : Prop where
  /-- All values that may still be drawn are converted. -/
  converted : ∀ value,
    (MemberState.rulesOf (stage.stateOf? id adaptation.name)).Stock (.value value) ∨
      value = Ty.placeholder (some adaptation.declared) →
    ∃ a, adaptation.read? value = some a ∧ adaptation.Gives value a
  /-- The call has a result. -/
  drawn : ∃ given after, result = some (given, after) ∧
    Drawn adaptation (historyOf id adaptation.name steps) arguments given

variable {adaptation}

/-- The calls of a member of a source draw numbers where the arguments are not refused, no rule
    holds a function, and what the declared type accepts is read. -/
theorem draws_of_literal (session : Session steps stage) (source : stage.IsSource id)
    {spec : Member} (declared : Sample.randomSurface.member? adaptation.name = some spec)
    (callable : spec.kind.isCallable = true) (result : spec.result = some adaptation.declared)
    (fits : ∀ coercion, spec.mismatch? coercion arguments = none)
    (literal : ∀ f, ¬ (MemberState.rulesOf (stage.stateOf? id adaptation.name)).Stock (.function f))
    (lawful : adaptation.Lawful)
    (placeholder : Ty.hasPlaceholder (some adaptation.declared) = true) :
    Draws adaptation stage steps id arguments
      ((stage.run depth (.call id adaptation.name arguments)).map fun (answer, after) =>
        (convert (label stage id adaptation.name) adaptation.declared adaptation.read? answer,
          after)) := by
  obtain ⟨mock, m, records, rules, found, rfl, state⟩ :=
    source.exists_at session.wellFormed declared callable
  rw [Stage.stateOf?_of_at found, state] at literal
  have stocked {value : Value} (stock : rules.Stock (.value value)) :
      ∃ a, adaptation.read? value = some a ∧ adaptation.Gives value a := by
    have accepted := session.stocked.accepts found state stock
    rw [result] at accepted
    exact lawful.exists_of_accepts accepted
  have standIn : ∃ a, adaptation.read? (Ty.placeholder (some adaptation.declared)) = some a ∧
      adaptation.Gives (Ty.placeholder (some adaptation.declared)) a :=
    lawful.exists_of_accepts ((Ty.acceptsDeclared_placeholder .strict _).trans placeholder)
  constructor
  case converted =>
    rw [Stage.stateOf?_of_at found, state]
    rintro value (stock | rfl)
    · exact stocked stock
    · exact standIn
  case drawn =>
    have explained := session.explained id adaptation.name
    rw [Stage.stateOf?_of_at found] at explained
    have outcome : ∃ answer given, (m.draw rules arguments).1.progress arguments =
        .finished answer ∧
        convert (label stage id adaptation.name) adaptation.declared adaptation.read? answer =
          given ∧ Drawn adaptation (historyOf id adaptation.name steps) arguments given := by
      rcases explained.draw_cases state arguments with
        ⟨undecided, placeholder⟩ | ⟨rule, decisive, mem, stock⟩
      · obtain ⟨a, read, gives⟩ := standIn
        rw [placeholder, result]
        exact ⟨_, _, rfl, by rw [convert, read], .placeholder undecided gives⟩
      · cases drawn : (m.draw rules arguments).1 with
        | value value =>
          rw [drawn] at mem stock
          obtain ⟨a, read, gives⟩ := stocked stock
          exact ⟨_, _, rfl, by rw [convert, read], .literal decisive mem gives⟩
        | failure error =>
          rw [drawn] at mem
          exact ⟨_, _, rfl, rfl, .raised decisive mem⟩
        | function f =>
          rw [drawn] at stock
          exact absurd stock (literal f)
    obtain ⟨answer, given, finished, converted, drawn⟩ := outcome
    have begun := Stage.begin_call_of_fits found state (fits mock.settings.coercion)
    rw [finished] at begun
    rw [Stage.run_finished begun, Option.map_some]
    exact ⟨given, _, by rw [← converted], drawn⟩

end

end Dice

/-- Where no rule on a source of random numbers holds a function, every call of `randint` and of
    `random` gives a number that a literal or the placeholder stands for, or fails with an error
    that the test declared. All values that the rules may still give are converted. -/
theorem Session.draws_numbers (session : Session steps stage) (source : stage.IsSource id)
    (literal : ∀ name ∈ ["randint", "random"], ∀ f,
      ¬ (MemberState.rulesOf (stage.stateOf? id name)).Stock (.function f)) (depth : Nat) :
    (∀ low high, Dice.Draws Dice.integers stage steps id (.ofList [.int low, .int high])
      (Dice.randint depth stage id low high)) ∧
    Dice.Draws Dice.reals stage steps id .empty (Dice.random depth stage id) := by
  constructor
  · intro low high
    exact Dice.draws_of_literal session source Sample.member?_randint rfl rfl (fun _ => rfl)
      (literal "randint" (by simp)) Dice.integers_lawful rfl
  · exact Dice.draws_of_literal session source Sample.member?_random rfl rfl (fun _ => rfl)
      (literal "random" (by simp)) Dice.reals_lawful rfl

/-- A session with a source that answers with six as a floating-point number, and fails before it
    answers with one as an integer. -/
def Sample.outage : List Operation :=
  [.declare ⟨0⟩ "random" .anyCall [.failure ⟨7, .timeout 5⟩, .value (.int 1)],
    .declare ⟨0⟩ "randint" .anyCall [.value (.float (.ofInt 6))],
    .createMock ⟨0, randomSurface⟩ (.named none)]

theorem Session.draws_numbers_outage :
    (performed Sample.outage).2.IsSource ⟨0⟩ ∧
      (∀ name ∈ ["randint", "random"], ∀ f, ¬ (MemberState.rulesOf
        ((performed Sample.outage).2.stateOf? ⟨0⟩ name)).Stock (.function f)) ∧
      Dice.Draws Dice.integers (performed Sample.outage).2 (performed Sample.outage).1 ⟨0⟩
        (.ofList [.int 1, .int 6]) (Dice.randint 0 (performed Sample.outage).2 ⟨0⟩ 1 6) ∧
      Dice.Draws Dice.reals (performed Sample.outage).2 (performed Sample.outage).1 ⟨0⟩ .empty
        (Dice.random 0 (performed Sample.outage).2 ⟨0⟩) ∧
      (∃ after, Dice.randint 0 (performed Sample.outage).2 ⟨0⟩ 1 6 = some (.ok 6, after)) ∧
      ∃ after, Dice.random 0 (performed Sample.outage).2 ⟨0⟩ =
        some (.error (.raised ⟨7, .timeout 5⟩), after) := by
  have source : (performed Sample.outage).2.IsSource ⟨0⟩ := ⟨_, rfl, rfl⟩
  have literal : ∀ name ∈ ["randint", "random"], ∀ f, ¬ (MemberState.rulesOf
      ((performed Sample.outage).2.stateOf? ⟨0⟩ name)).Stock (.function f) := by
    intro name mem f
    simp only [List.mem_cons, List.not_mem_nil, or_false] at mem
    rcases mem with rfl | rfl <;> rintro ⟨rule, here, there⟩ <;>
      obtain rfl := List.mem_singleton.1 here <;> simp [OutcomeQueue.toList] at there
  have draws := Session.draws_numbers (.of_performed _) source literal 0
  exact ⟨source, literal, draws.1 1 6, draws.2, ⟨_, rfl⟩, ⟨_, rfl⟩⟩

end Understudy
