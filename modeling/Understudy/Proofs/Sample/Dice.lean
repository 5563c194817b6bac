import Understudy.Proofs.Number.Nearest
import Understudy.Proofs.Stage.History
import Understudy.Sample.Dice
import Understudy.Sample.Surfaces

/-!
# What a source of random numbers makes of a mock's answers

A source of random numbers hands an error of its mock on and takes numbers out of the values. An
integer is exactly the number that the value denotes, and any other value is refused as a wrong
result. A floating-point number is handed on as it is; for an integer the nearest number is given,
which is the same only if 53 bits hold it.

* `Dice.adapts`: what becomes of the answers to `randint` and to `random`, whatever the stage.
* `Dice.random_inexact`: an integer that is answered and not handed on.
-/

namespace Understudy

variable {stage after : Stage} {id : MockId} {name : String} {arguments : Arguments} {depth : Nat}

/-- The value is a number and denotes exactly the ratio. -/
def Value.Denotes : Value → ℚ → Prop
  | .int n, q => n.toInt = q
  | .float x, q => x.Denotes q
  | _, _ => False

namespace Dice

/-- The number that `random` takes from a value: a floating-point number as it is, and the one
    nearest to an integer. -/
inductive Stands : Value → Binary64 → Prop
  | float (x : Binary64) : Stands (.float x) x
  | int {n : Int64} {x : Binary64} : Binary64.Rounds n.toInt x → Stands (.int n) x

/-- The adapted result of a member's answer: an error is handed on, a value gives the number that
    stands for it, and without such a number the member's result is refused. -/
inductive Adapted {α : Type} (stage : Stage) (id : MockId) (name : String) (declared : Ty)
    (Gives : Value → α → Prop) : Answer → Except Fault α → Prop
  | error (fault : Fault) : Adapted stage id name declared Gives (.error fault) (.error fault)
  | number {value : Value} {a : α} : Gives value a →
      Adapted stage id name declared Gives (.ok (.value value)) (.ok a)
  | refused {mock : Mock} {value : Value} : stage.mock id = .ok mock → (∀ a, ¬ Gives value a) →
      Adapted stage id name declared Gives (.ok (.value value))
        (.error (.returnType (mock.memberLabel name) declared value))

theorem integer?_eq_some_iff {value : Value} {n : Int64} :
    integer? value = some n ↔ value.Denotes n.toInt := by
  cases value with
  | int k => simp [integer?, Value.Denotes, Int64.toInt_inj]
  | float x =>
    rw [integer?, Binary64.toInt64?, Option.bind_eq_some_iff, Value.Denotes]
    simp only [int64?_eq_some_iff, Binary64.toInt?_eq_some_iff]
    simp
  | nil | bool | str | list | tuple | set | map | object => simp [integer?, Value.Denotes]

theorem stands_of_real? {value : Value} {x : Binary64} (read : real? value = some x) :
    Stands value x := by
  cases value with
  | float y =>
    obtain rfl := Option.some.inj read
    exact .float y
  | int n =>
    obtain rfl := Option.some.inj read
    have least := n.le_toInt
    have greatest := n.toInt_lt
    have small : n.toInt.natAbs < pow2 64 := by rw [pow2_eq]; omega
    exact .int (Binary64.rounds_ofInt small)
  | nil | bool | str | list | tuple | set | map | object => cases read

theorem real?_isSome {value : Value} {x : Binary64} (stands : Stands value x) :
    (real? value).isSome = true := by
  cases stands <;> rfl

variable {α : Type} {declared : Ty} {read? : Value → Option α} {Gives : Value → α → Prop}

/-- If what is read from a value is what it gives, the answer of a call is adapted. -/
theorem adapted_convert {answer : Answer}
    (sound : ∀ {value a}, read? value = some a → Gives value a)
    (complete : ∀ {value a}, Gives value a → (read? value).isSome = true)
    (ran : stage.run depth (.call id name arguments) = some (answer, after)) :
    Adapted stage id name declared Gives answer
      (convert (label stage id name) declared read? answer) := by
  cases answer with
  | error fault => exact .error fault
  | ok reply =>
    -- A reply is a value of a mock that exists, which the label names.
    obtain ⟨mock, value, found, rfl⟩ := Stage.mock_of_replied ran
    rw [convert]
    cases read : read? value with
    | some a => exact .number (sound read)
    | none =>
      have label : label stage id name = mock.memberLabel name := by rw [label, found]
      dsimp only
      rw [label]
      refine .refused found fun a gives => ?_
      have := complete gives
      rw [read] at this
      cases this

/-- The adapted call has a result exactly if the call has an answer, on the same stage, and the
    result is the adapted answer. -/
structure Adapts (call : Option (Answer × Stage)) (result : Option (Except Fault α × Stage))
    (Becomes : Answer → Except Fault α → Prop) : Prop where
  answered : ∀ {answer after}, call = some (answer, after) →
    ∃ adapted, result = some (adapted, after) ∧ Becomes answer adapted
  unanswered : call = none → result = none

/-- An integer is handed on only as exactly the number that the value denotes, and a value without
    one is refused. A floating-point number is handed on as it is, an integer in its place as the
    nearest number, which is exact if and only if the integer has 53 significant bits; any other
    value is refused. Errors are handed on as they are. -/
theorem adapts (stage : Stage) (id : MockId) (depth : Nat) :
    (∀ low high, Adapts (stage.run depth (.call id "randint" (.ofList [.int low, .int high])))
      (randint depth stage id low high)
      (Adapted stage id "randint" .int fun value n => value.Denotes n.toInt)) ∧
    Adapts (stage.run depth (.call id "random" .empty)) (random depth stage id)
      (Adapted stage id "random" .float Stands) ∧
    ∀ {n : Int64} {x : Binary64}, Stands (.int n) x →
      (x.Denotes n.toInt ↔ SignificandFits n.toInt) := by
  refine ⟨fun low high => ⟨fun ran => ?_, fun stuck => ?_⟩, ⟨fun ran => ?_, fun stuck => ?_⟩, ?_⟩
  · rw [randint, ran]
    exact ⟨_, rfl, adapted_convert integer?_eq_some_iff.1
      (fun gives => Option.isSome_iff_exists.2 ⟨_, integer?_eq_some_iff.2 gives⟩) ran⟩
  · rw [randint, stuck]
    rfl
  · rw [random, ran]
    exact ⟨_, rfl, adapted_convert stands_of_real? real?_isSome ran⟩
  · rw [random, stuck]
    rfl
  · intro n x stands
    cases stands with
    | int rounds => exact rounds.denotes_iff

end Dice

/-- A session with a source that answers with six as a floating-point number, and with the least
    integer that has more than 53 significant bits. -/
def Sample.throws : List Operation :=
  [.declare ⟨0⟩ "random" .anyCall [.value (.int 9007199254740993)],
    .declare ⟨0⟩ "randint" .anyCall [.value (.float (.ofInt 6))],
    .createMock ⟨0, randomSurface⟩ (.named (some "x"))]

/-- The floating-point number is handed on as the integer that it denotes. -/
theorem Dice.adapts_throws :
    Dice.randint 0 (performed Sample.throws).2 ⟨0⟩ 1 6 = some (.ok 6,
      ((performed Sample.throws).2.begin (.call ⟨0⟩ "randint" (.ofList [.int 1, .int 6]))).2) := by
  have six : (Binary64.ofInt 6).toInt? = some 6 := by decide +kernel
  have answer : (performed Sample.throws).2.run 0
      (.call ⟨0⟩ "randint" (.ofList [.int 1, .int 6])) =
        some (.ok (.value (.float (.ofInt 6))), _) := rfl
  obtain ⟨adapted, ran, becomes⟩ :=
    ((Dice.adapts (performed Sample.throws).2 ⟨0⟩ 0).1 1 6).answered answer
  rw [ran]
  cases becomes with
  | @number _ n gives =>
    have read := Binary64.toInt?_eq_some_iff.2 gives
    rw [six] at read
    obtain rfl : n = 6 := Int64.toInt_inj.1 (Option.some.inj read).symm
    rfl
  | refused _ none => exact absurd (Binary64.toInt?_eq_some_iff.1 six) (none 6)

/-- The integer is answered and another number is handed on. -/
theorem Dice.random_inexact :
    ∃ x after, (performed Sample.throws).2.run 0 (.call ⟨0⟩ "random" .empty) =
        some (.ok (.value (.int 9007199254740993)), after) ∧
      Dice.random 0 (performed Sample.throws).2 ⟨0⟩ = some (.ok x, after) ∧
      ¬ x.Denotes 9007199254740993 := by
  refine ⟨.ofInt 9007199254740993, _, rfl, rfl, fun exact => ?_⟩
  have read : (Binary64.ofInt 9007199254740993).toInt? = some 9007199254740993 :=
    Binary64.toInt?_eq_some_iff.2 (by exact_mod_cast exact)
  exact absurd read (by decide +kernel)

end Understudy
