import Understudy.Proofs.Stage.InPlace

/-!
# Refusals

An operation that the stage refuses leaves everything as it was: records and their numbers, rules
and what is left of their outcomes, fields, and cells with their values and what they are held to.
That holds although the operations change the stage in place. Only an error of the test comes out
of a call that was made.

* `Session.atomic`: every refusal on every stage of a session is of this kind.
-/

namespace Understudy

namespace Stage

variable {stage : Stage}

/-- What is refused did not happen. -/
theorem Effect.of_refused {operation : Operation} {fault : Fault} {after : Stage}
    (effect : Effect stage operation (.finished (.error fault)) after)
    (engine : fault.isRaised = false) : after = stage := by
  generalize refused : Progress.finished (.error fault) = progress at effect
  cases effect with
  | refused => rfl
  | @call _ _ arguments _ m _ rules =>
    -- A call is refused by the checks only: an outcome that is an error is one of the test.
    cases outcome : (m.draw rules arguments).1 with
    | value v => rw [outcome] at refused; cases refused
    | failure error =>
      rw [outcome] at refused
      cases refused
      cases engine
    | function f => rw [outcome] at refused; cases refused
  | createMock | createCell | readField | readProperty | writeField | writeBacked | writeUnbacked
  | declare | attach | write | peek | records | reset => cases refused

theorem begin_of_refused {operation : Operation} {fault : Fault} (engine : fault.isRaised = false)
    (refused : (stage.begin operation).1 = .finished (.error fault)) :
    (stage.begin operation).2 = stage := by
  have effect := stage.begin_effect operation
  rw [refused] at effect
  exact effect.of_refused engine

/-- A function that runs for a call answers its value, so only a beginning is refused. -/
theorem run_of_refused {depth : Nat} {operation : Operation} {fault : Fault} {after : Stage}
    (engine : fault.isRaised = false)
    (refused : stage.run depth operation = some (.error fault, after)) : after = stage := by
  rcases run_cases refused with finished | ⟨_, _, _, _, _, _, _, ended⟩
  · have kept := begin_of_refused engine (congrArg Prod.fst finished)
    rw [finished] at kept
    exact kept
  · cases ended

/-- What holds of refusals on a stage. -/
structure Atomic (stage : Stage) : Prop where
  /-- Where an operation that is carried out in place is refused, nothing was changed. -/
  inPlace : ∀ operation fault, fault.isRaised = false →
    (stage.inPlace operation).1 = .finished (.error fault) → (stage.inPlace operation).2 = stage
  /-- The same holds of operations that are run to their ends, however deep. -/
  run : ∀ depth operation fault after, fault.isRaised = false →
    stage.run depth operation = some (.error fault, after) → after = stage
  /-- Looking up a member and asking for its records change nothing, whatever is asked. -/
  ask : ∀ {α : Type} id name (question : CallLog → Except Fault α),
    (Action.member id name stage).2 = stage ∧ (Action.ask id name question stage).2 = stage
  /-- A list with one outcome of the wrong type is refused as a whole. -/
  outcomes : ∀ id name mock m pattern outcomes, stage.At id name mock m →
    (∃ outcome ∈ outcomes, mock.outcomeFault? m outcome ≠ none) →
    ∃ fault, fault.isRaised = false ∧
      stage.inPlace (.declare id name pattern outcomes) = (.finished (.error fault), stage)
  /-- A cell whose value is of the wrong type is refused; the property keeps the one it had. -/
  attachment : ∀ id name mock m cellId cell, stage.At id name mock m →
    stage.cell cellId = .ok cell → (mock.bindingOf m).fault? cell.value ≠ none →
    ∃ fault, fault.isRaised = false ∧
      stage.inPlace (.attach id name cellId) = (.finished (.error fault), stage)

/-- A rule with an outcome of the wrong type is refused, whatever its other outcomes are. -/
theorem Effect.declare_refused {id : MockId} {name : String} {mock : Mock} {m : MockMember}
    {pattern : Pattern} {outcomes : List Outcome} {progress : Progress} {after : Stage}
    (effect : Effect stage (.declare id name pattern outcomes) progress after)
    (found : stage.At id name mock m)
    (wrong : ∃ outcome ∈ outcomes, mock.outcomeFault? m outcome ≠ none) :
    ∃ fault, fault.isRaised = false ∧ (progress, after) = (.finished (.error fault), stage) := by
  cases effect with
  | refused engine => exact ⟨_, engine, rfl⟩
  | declare found' _ _ typed =>
    obtain ⟨rfl, rfl⟩ := found.unique found'
    obtain ⟨outcome, mem, fault⟩ := wrong
    exact absurd (List.findSome?_eq_none_iff.1 typed outcome mem) fault

theorem Effect.attach_refused {id : MockId} {name : String} {mock : Mock} {m : MockMember}
    {cellId : CellId} {cell : Cell} {progress : Progress} {after : Stage}
    (effect : Effect stage (.attach id name cellId) progress after)
    (found : stage.At id name mock m) (hcell : stage.cell cellId = .ok cell)
    (wrong : (mock.bindingOf m).fault? cell.value ≠ none) :
    ∃ fault, fault.isRaised = false ∧ (progress, after) = (.finished (.error fault), stage) := by
  cases effect with
  | refused engine => exact ⟨_, engine, rfl⟩
  | attach found' _ hcell' bound =>
    obtain ⟨rfl, rfl⟩ := found.unique found'
    obtain rfl := Except.ok.inj (hcell.symm.trans hcell')
    obtain ⟨fault, refusal⟩ := Option.ne_none_iff_exists'.1 wrong
    rw [Cell.bind, refusal] at bound
    cases bound

end Stage

/-- On every stage of a session a refusal leaves everything as it was. -/
theorem Session.atomic {steps : List Step} {stage : Stage} (session : Session steps stage) :
    stage.Atomic := by
  constructor
  case inPlace =>
    intro operation fault engine refused
    rw [session.inPlace_eq] at refused ⊢
    exact Stage.begin_of_refused engine refused
  case run => exact fun _ _ _ _ engine refused => Stage.run_of_refused engine refused
  case ask =>
    intro α id name question
    simp only [Action.member, Action.ask, Action.bind_apply, Action.mock, Action.look_apply]
    cases hmock : stage.mock id with
    | error fault => simp
    | ok mock => cases hm : mock.member name <;> simp [hmock, hm]
  case outcomes =>
    intro id name mock m pattern outcomes found wrong
    rw [session.inPlace_eq]
    exact (stage.begin_effect _).declare_refused found wrong
  case attachment =>
    intro id name mock m cellId cell found hcell wrong
    rw [session.inPlace_eq]
    exact (stage.begin_effect _).attach_refused found hcell wrong

theorem Session.atomic_dialogue : (performed Sample.dialogue).2.Atomic :=
  Session.atomic (.of_performed _)

end Understudy
