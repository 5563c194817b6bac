import Understudy.Proofs.Stage.Resolution
import Understudy.Proofs.Stage.Typed

/-!
# Returned values

A value is checked when a rule is declared with it, and returned much later, perhaps again and
again. That it is of the declared type then is an invariant of the rules: whatever is left of them
holds values only that their members accept. So what a call returns is of the declared type unless
a function computed it, or no rule accepts the call and a placeholder stands in. Not every type
accepts its placeholder.

* `Ty.acceptsDeclared_placeholder`: which types do.
* `Stage.Effect.stocked`: every operation keeps the rules stocked with values of the declared type.
* `Session.returns`: where the value of a call comes from, and whether it is of the declared type.
-/

namespace Understudy

/-! ## Placeholders -/

namespace Ty

/-- Whether the declared type accepts the placeholder for it. -/
def hasPlaceholder : Option Ty → Bool
  | some (.tuple shape) => shape.isEmpty
  | some (.union alternatives) => isOptional (.union alternatives)
  | some (.named _) => false
  | some .any | some .nil | some .bool | some .int | some .float | some .str | some (.list _)
  | some (.set _) | some (.map _ _) | none => true

mutual

/-- The types that accept the marker for "no value" are the optional ones. -/
theorem accepts_nil (coercion : Coercion) (ty : Ty) : accepts coercion ty .nil = isOptional ty := by
  cases ty with
  | union alternatives => exact anyAccepts_nil coercion alternatives
  | any | nil | bool | int | float | str | list | tuple | set | map | named => rfl

theorem anyAccepts_nil (coercion : Coercion) (types : List Ty) :
    anyAccepts coercion types .nil = anyOptional types := by
  cases types with
  | nil => rfl
  | cons ty types => rw [anyAccepts, anyOptional, accepts_nil, anyAccepts_nil]

end

theorem acceptsDeclared_placeholder (coercion : Coercion) (declared : Option Ty) :
    acceptsDeclared coercion declared (placeholder declared) = hasPlaceholder declared := by
  cases declared with
  | none => rfl
  | some ty =>
    cases ty with
    | union alternatives => exact accepts_nil coercion (.union alternatives)
    | tuple shape => cases shape <;> rfl
    | any | nil | bool | int | float | str | list | set | map | named => rfl

end Ty

/-! ## Stocked stages -/

namespace Stage

variable {stage after : Stage} {operation : Operation} {progress : Progress} {id : MockId}
  {name : String}

/-- Whether all values that are still to come from rules are of the declared types. -/
structure Stocked (stage : Stage) : Prop where
  accepted : ∀ {id name kind binding value}, stage.DeclaresAt id name kind binding →
    Rules.Stock (MemberState.rulesOf (stage.stateOf? id name)) (.value value) →
    binding.Accepts value

/-- A rule is declared with values of the declared type only. -/
theorem Effect.accepts_of_declared {matcher : Matcher} {outcomes : List Outcome}
    (effect : Effect stage operation progress after)
    (told : Step.happening? id name ⟨operation, progress⟩ = some (.declared matcher outcomes)) :
    ∃ kind binding, stage.DeclaresAt id name kind binding ∧
      ∀ value, .value value ∈ outcomes → binding.Accepts value := by
  cases effect with
  | @declare target member pattern _ mock m _ _ _ found _ _ typed =>
    simp only [Step.happening?, Progress.accepted, and_true, Option.ite_none_right_eq_some,
      Option.some.injEq, Happening.declared.injEq] at told
    obtain ⟨⟨rfl, rfl⟩, rfl, rfl⟩ := told
    refine ⟨_, _, ⟨mock, m, found, rfl, rfl⟩, fun value mem => ?_⟩
    exact CellBinding.fault?_eq_none_iff.1 (List.findSome?_eq_none_iff.1 typed _ mem)
  | refused engine =>
    rw [happening?_refused engine] at told
    cases told
  | createMock | createCell | write | peek | records | writeField | writeBacked | writeUnbacked
  | attach => cases told
  | call | readField | readProperty | reset =>
    simp only [Step.happening?, Option.ite_none_right_eq_some, Option.some.injEq, reduceCtorEq,
      and_false] at told

/-- Every operation keeps the values that are still to come of the declared types. -/
theorem Effect.stocked (effect : Effect stage operation progress after) (h : stage.WellFormed)
    (stocked : stage.Stocked) : after.Stocked := by
  constructor
  intro id name kind binding value declared stock
  rcases (effect.moves h id name).stock stock with old | ⟨matcher, outcomes, told, mem⟩
  · -- A member with rules has a state, so it was declared before and is declared alike.
    have ⟨rule, there, _⟩ := old
    rcases here : stage.stateOf? id name with _ | state
    · rw [here] at there
      cases there
    · obtain ⟨mock, m, found, -⟩ := exists_at here
      obtain ⟨-, rfl⟩ := declared.unique (effect.declaresAt h ⟨mock, m, found, rfl, rfl⟩)
      exact stocked.accepted ⟨mock, m, found, rfl, rfl⟩ old
  · obtain ⟨_, _, old, accepts⟩ := effect.accepts_of_declared told
    obtain ⟨-, rfl⟩ := declared.unique (effect.declaresAt h old)
    exact accepts value mem

/-! ## Calls -/

/-- Where the value comes from that a call returns, given the history of the member. -/
inductive Returned (stage : Stage) (history : History) (id : MockId) (name : String)
    (arguments : Arguments) (value : Value) : Prop
  /-- A function of the rule that decides the call computed it. It may be of any type. -/
  | computed {rule : DeclaredRule} {f : Arguments → Script} {depth : Nat} {after : Stage} :
      history.decisive? arguments = some rule → .function f ∈ rule.outcomes →
      (f arguments).run (Stage.run depth) (stage.begin (.call id name arguments)).2 =
        some (value, after) →
      Returned stage history id name arguments value
  /-- The rule that decides the call was declared with it. -/
  | literal {mock : Mock} {m : MockMember} {rule : DeclaredRule} : stage.At id name mock m →
      history.decisive? arguments = some rule → .value value ∈ rule.outcomes →
      Ty.acceptsDeclared mock.settings.coercion m.spec.result value = true →
      Returned stage history id name arguments value
  /-- No rule decides the call, and the placeholder for the declared type stands in. -/
  | placeholder {mock : Mock} {m : MockMember} : stage.At id name mock m →
      history.decisive? arguments = none → value = Ty.placeholder m.spec.result →
      (Ty.acceptsDeclared mock.settings.coercion m.spec.result value = true ↔
        Ty.hasPlaceholder m.spec.result = true) →
      Returned stage history id name arguments value

/-- The values that calls return are of the declared types, unless functions compute them or
    placeholders of other types stand in. -/
structure Returns (stage : Stage) (steps : List Step) : Prop where
  /-- All values that are still to come from the rules of a member are of its declared type. -/
  stocked : ∀ {id name mock m records rules}, stage.At id name mock m →
    m.state = .callable records rules → ∀ rule ∈ rules,
    ∀ value, .value value ∈ rule.outcomes.toList →
      Ty.acceptsDeclared mock.settings.coercion m.spec.result value = true
  /-- Where the value of a call comes from. -/
  returned : ∀ {id name arguments depth reply after},
    stage.run depth (.call id name arguments) = some (.ok reply, after) →
    ∃ value, reply = .value value ∧
      stage.Returned (historyOf id name steps) id name arguments value

end Stage

/-- A call draws the placeholder if no rule decides it, and otherwise an outcome of the rule that
    does. -/
theorem History.Explains.draw_cases {history : History} {m : MockMember} {records : List Record}
    {rules : Rules} (explained : history.Explains m.state)
    (state : m.state = .callable records rules) (arguments : Arguments) :
    history.decisive? arguments = none ∧
        (m.draw rules arguments).1 = .value (Ty.placeholder m.spec.result) ∨
      ∃ rule, history.decisive? arguments = some rule ∧
        (m.draw rules arguments).1 ∈ rule.outcomes ∧ rules.Stock (m.draw rules arguments).1 := by
  rw [state] at explained
  unfold MockMember.draw
  rcases decisive : history.decisive? arguments with _ | rule
  · have undrawn : rules.draw arguments = none := explained.draw_none decisive
    rw [undrawn]
    exact .inl ⟨rfl, rfl⟩
  · obtain ⟨left, behind, leftAs, drawn⟩ := explained.draw_some decisive
    have drawn : rules.draw arguments = some (left.outcomes.next, behind) := drawn
    have stock : rules.Stock left.outcomes.next := .of_draw drawn
    rw [drawn]
    exact .inr ⟨rule, rfl, List.mem_of_getElem? leftAs.next, stock⟩

namespace Stage

variable {stage after : Stage} {id : MockId} {name : String} {arguments : Arguments}
  {history : History}

theorem Stocked.accepts {mock : Mock} {m : MockMember} {records : List Record} {rules : Rules}
    {value : Value} (stocked : stage.Stocked) (found : stage.At id name mock m)
    (state : m.state = .callable records rules) (stock : rules.Stock (.value value)) :
    Ty.acceptsDeclared mock.settings.coercion m.spec.result value = true := by
  refine stocked.accepted ⟨mock, m, found, rfl, rfl⟩ ?_
  rw [stateOf?_of_at found, state]
  exact stock

/-- A call that is answered at once returns a literal or a placeholder. -/
theorem Stocked.returned {reply : Reply} (stocked : stage.Stocked)
    (explained : history.Explains (stage.stateOf? id name))
    (answered : (stage.begin (.call id name arguments)).1 = .finished (.ok reply)) :
    ∃ value, reply = .value value ∧ stage.Returned history id name arguments value := by
  obtain ⟨mock, m, records, rules, value, found, state, drawn, rfl⟩ := begin_of_answered answered
  rw [stateOf?_of_at found] at explained
  refine ⟨value, rfl, ?_⟩
  rcases explained.draw_cases state arguments with
    ⟨undecided, placeholder⟩ | ⟨rule, decisive, mem, stock⟩
  · rw [drawn] at placeholder
    obtain rfl := Outcome.value.inj placeholder
    exact .placeholder found undecided rfl (by rw [Ty.acceptsDeclared_placeholder])
  · rw [drawn] at mem stock
    exact .literal found decisive mem (stocked.accepts found state stock)

/-- A call that lets a script run returns what a function computes. -/
theorem returned_of_running {script : Script} {depth : Nat} {value : Value}
    (explained : history.Explains (stage.stateOf? id name))
    (running : (stage.begin (.call id name arguments)).1 = .running script)
    (ran : script.run (Stage.run depth) (stage.begin (.call id name arguments)).2 =
      some (value, after)) : stage.Returned history id name arguments value := by
  obtain ⟨mock, m, records, rules, f, found, state, drawn, rfl, -⟩ := begin_of_running running
  rw [stateOf?_of_at found] at explained
  rcases explained.draw_cases state arguments with
    ⟨-, placeholder⟩ | ⟨rule, decisive, mem, -⟩
  · rw [drawn] at placeholder
    cases placeholder
  · rw [drawn] at mem
    exact .computed decisive mem ran

end Stage

namespace Session

variable {steps : List Step} {stage : Stage}

theorem stocked (session : Session steps stage) : stage.Stocked := by
  induction session with
  | start =>
    constructor
    rintro id name kind binding value ⟨mock, m, found, -⟩
    cases found.1
  | @step _ stage operation session ih =>
    exact (stage.begin_effect operation).stocked session.wellFormed ih

/-- On every stage of a session, whatever calls return is of the declared type, unless it is
    computed or a placeholder. -/
theorem returns (session : Session steps stage) : stage.Returns steps := by
  constructor
  case stocked =>
    intro id name mock m records rules found state rule mem value queued
    exact session.stocked.accepts found state ⟨rule, mem, queued⟩
  case returned =>
    intro id name arguments depth reply after ran
    have explained := session.explained id name
    rcases Stage.run_cases ran with finished | ⟨_, script, between, value, _, running, ran, same⟩
    · exact session.stocked.returned explained (congrArg Prod.fst finished)
    · obtain rfl : _ = between := congrArg Prod.snd running
      refine ⟨value, Except.ok.inj same, ?_⟩
      exact Stage.returned_of_running explained (congrArg Prod.fst running) ran

end Session

theorem Session.returns_dialogue :
    (performed Sample.dialogue).2.Returns (performed Sample.dialogue).1 ∧
      (performed Sample.dialogue).2.run 0 (.call ⟨0⟩ "think" (.ofList [.str "beauty"])) =
        some (.ok (.value (.str "aha")),
          ((performed Sample.dialogue).2.begin (.call ⟨0⟩ "think" (.ofList [.str "beauty"]))).2) :=
  ⟨(Session.of_performed _).returns, rfl⟩

end Understudy
