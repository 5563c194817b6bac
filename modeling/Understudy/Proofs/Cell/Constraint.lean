import Understudy.Proofs.Stage.Typed

/-!
# What a cell is held to

A cell is bound and written through any of its handles, in any order. A binding that succeeds is
kept unless there is one of its label already, and no binding is ever taken away. So a cell is held
to the first binding of each label for as long as it exists, and to nothing else: a second binding
of a label is forgotten, although it may be of another type or coercion.

* `CellHistory.Faithful`: a cell has the first bindings of their labels, and fits them all.
* `CellHistory.keeps_first`: no later write breaks the first binding of a label.
* `CellHistory.forgets_second`: a later write may break a second one.
-/

namespace Understudy

namespace Cell

variable {cell after : Cell} {binding : CellBinding} {value : Value}

/-- A cell is bound if its value is accepted, and the binding is added if its label is new. -/
theorem bind_eq_ok_iff : cell.bind binding = .ok after ↔ binding.Accepts cell.value ∧
    after = if cell.bindings.any (·.member == binding.member) then cell
      else { cell with bindings := cell.bindings ++ [binding] } := by
  rw [← CellBinding.fault?_eq_none_iff, bind]
  cases binding.fault? cell.value with
  | some fault => exact ⟨nofun, nofun⟩
  | none =>
    simp only [true_and]
    split <;> exact ⟨fun h => (Except.ok.inj h).symm, fun h => congrArg Except.ok h.symm⟩

/-- A value that some binding does not accept is refused in the name of such a binding. -/
theorem exists_refusal (mem : binding ∈ cell.bindings) (unfit : ¬ binding.Accepts value) :
    ∃ b ∈ cell.bindings, ¬ b.Accepts value ∧ ∃ ty, b.ty = some ty ∧
      cell.write value = .error (.returnType b.member ty value) := by
  rw [write]
  cases found : cell.bindings.findSome? (·.fault? value) with
  | none =>
    have accepted := List.findSome?_eq_none_iff.1 found binding mem
    exact absurd (CellBinding.fault?_eq_none_iff.1 accepted) unfit
  | some fault =>
    obtain ⟨b, mem', refused⟩ := List.exists_of_findSome?_eq_some found
    refine ⟨b, mem', fun accepts => ?_, ?_⟩
    · rw [CellBinding.fault?_eq_none_iff.2 accepts] at refused
      cases refused
    · obtain ⟨ty, refusing, rfl⟩ := Option.map_eq_some_iff.1 refused
      exact ⟨ty, (Option.filter_eq_some_iff.1 refusing).1, rfl⟩

/-- Nothing is refused but what some binding does not accept. -/
theorem exists_unfit {fault : Fault} (refused : cell.write value = .error fault) :
    ∃ b ∈ cell.bindings, ¬ b.Accepts value := by
  by_contra none
  push Not at none
  have accepted : ∀ b ∈ cell.bindings, b.fault? value = .none :=
    fun b mem => CellBinding.fault?_eq_none_iff.2 (none b mem)
  rw [write_eq_ok_iff.2 ⟨accepted, rfl⟩] at refused
  cases refused

end Cell

/-! ## The first bindings of their labels -/

/-- Whether the binding is among the others, and the first of its label. -/
def CellBinding.FirstIn (binding : CellBinding) (bindings : List CellBinding) : Prop :=
  bindings.find? (·.member == binding.member) = some binding

namespace CellBinding.FirstIn

variable {bindings : List CellBinding} {binding other : CellBinding}

/-- What is behind it does not matter. -/
theorem append (first : binding.FirstIn bindings) (more : List CellBinding) :
    binding.FirstIn (bindings ++ more) := by
  rw [FirstIn, List.find?_append, first, Option.some_or]

/-- A binding behind one of its label is not the first. -/
theorem concat_iff_of_known {known : CellBinding}
    (found : bindings.find? (·.member == other.member) = some known) :
    binding.FirstIn (bindings ++ [other]) ↔ binding.FirstIn bindings := by
  rw [FirstIn, FirstIn, List.find?_append]
  by_cases same : binding.member = other.member
  · rw [same, found, Option.some_or]
  · simp [Ne.symm same]

/-- A binding behind none of its label is. -/
theorem concat_iff_of_new (missing : bindings.find? (·.member == other.member) = none) :
    binding.FirstIn (bindings ++ [other]) ↔ binding.FirstIn bindings ∨ binding = other := by
  rw [FirstIn, FirstIn, List.find?_append]
  by_cases same : binding.member = other.member
  · simp [same, missing, eq_comm]
  · have differs : binding ≠ other := fun equal => same (congrArg _ equal)
    simp [Ne.symm same, differs]

end CellBinding.FirstIn

/-! ## Histories -/

/-- What may be done to a cell. -/
inductive CellOperation where
  /-- The cell is held to a property. -/
  | bind (binding : CellBinding)
  /-- The cell is written. -/
  | write (value : Value)

/-- A cell with what has happened to it. -/
structure CellHistory where
  /-- The bindings that succeeded, in order. -/
  bound : List CellBinding
  /-- The cell. -/
  cell : Cell

namespace CellHistory

/-- A new cell that holds the value. -/
def start (value : Value) : CellHistory := ⟨[], .ofValue value⟩

/-- What an operation makes of it. A cell that refuses the operation stays as it is. -/
def next (history : CellHistory) : CellOperation → CellHistory
  | .bind binding =>
    match history.cell.bind binding with
    | .ok cell => ⟨history.bound ++ [binding], cell⟩
    | .error _ => history
  | .write value =>
    match history.cell.write value with
    | .ok cell => { history with cell }
    | .error _ => history

/-- What operations make of it, in order. -/
def after (history : CellHistory) (operations : List CellOperation) : CellHistory :=
  operations.foldl next history

/-- The cell has the first bindings of their labels, and its value fits them. -/
structure Faithful (history : CellHistory) : Prop where
  held : ∀ binding, binding ∈ history.cell.bindings ↔ binding.FirstIn history.bound
  fits : ∀ binding ∈ history.cell.bindings, binding.Accepts history.cell.value

variable {history : CellHistory} {binding : CellBinding}

theorem faithful_start (value : Value) : (start value).Faithful :=
  ⟨fun _ => ⟨nofun, nofun⟩, nofun⟩

namespace Faithful

/-- The cell knows the labels of the bindings that succeeded. -/
theorem any_eq (faithful : history.Faithful) (label : String) :
    history.cell.bindings.any (·.member == label) =
      (history.bound.find? (·.member == label)).isSome := by
  rw [Bool.eq_iff_iff, List.any_eq_true]
  constructor
  · rintro ⟨known, mem, same⟩
    obtain rfl := beq_iff_eq.1 same
    rw [(faithful.held known).1 mem]
    rfl
  · intro found
    obtain ⟨known, found⟩ := Option.isSome_iff_exists.1 found
    obtain rfl : known.member = label := by simpa using List.find?_some found
    exact ⟨known, (faithful.held known).2 found, beq_self_eq_true _⟩

theorem next (faithful : history.Faithful) (operation : CellOperation) :
    (history.next operation).Faithful := by
  cases operation with
  | write value =>
    rw [CellHistory.next]
    split
    · next cell written =>
      obtain ⟨accepted, rfl⟩ := Cell.write_eq_ok_iff.1 written
      exact ⟨faithful.held, fun b mem => CellBinding.fault?_eq_none_iff.1 (accepted b mem)⟩
    · exact faithful
  | bind binding =>
    rw [CellHistory.next]
    split
    · next cell bound =>
      obtain ⟨accepts, rfl⟩ := Cell.bind_eq_ok_iff.1 bound
      rw [faithful.any_eq]
      -- A binding under a known label is dropped, and a new one joins the others.
      cases found : history.bound.find? (·.member == binding.member) with
      | some known =>
        refine ⟨fun b => ?_, faithful.fits⟩
        exact (faithful.held b).trans (CellBinding.FirstIn.concat_iff_of_known found).symm
      | none =>
        have held : ∀ b, b ∈ history.cell.bindings ++ [binding] ↔
            b ∈ history.cell.bindings ∨ b = binding := by simp
        refine ⟨fun b => ?_, fun b mem => ?_⟩
        · rw [CellBinding.FirstIn.concat_iff_of_new found, ← faithful.held]
          exact held b
        · rcases (held b).1 mem with mem | rfl
          · exact faithful.fits b mem
          · exact accepts
    · exact faithful

theorem after (faithful : history.Faithful) (operations : List CellOperation) :
    (history.after operations).Faithful := by
  induction operations generalizing history with
  | nil => exact faithful
  | cons operation later ih => exact ih (faithful.next operation)

end Faithful

/-- Bindings that succeeded are not undone. -/
theorem exists_bound_after (history : CellHistory) (operations : List CellOperation) :
    ∃ more, (history.after operations).bound = history.bound ++ more := by
  induction operations generalizing history with
  | nil => exact ⟨[], (List.append_nil _).symm⟩
  | cons operation later ih =>
    have step : ∃ more, (history.next operation).bound = history.bound ++ more := by
      cases operation <;> rw [next] <;> split
      · exact ⟨[_], rfl⟩
      all_goals exact ⟨[], (List.append_nil _).symm⟩
    obtain ⟨first, step⟩ := step
    obtain ⟨rest, steps⟩ := ih (history.next operation)
    exact ⟨first ++ rest, by rw [after, List.foldl_cons, ← after, steps, step, List.append_assoc]⟩

/-- The value of the cell fits the binding; a value that does not is refused as one that is not of
    a declared type, and the cell stays as it is. -/
structure HeldTo (history : CellHistory) (binding : CellBinding) : Prop where
  fits : binding.Accepts history.cell.value
  refuses : ∀ {value}, ¬ binding.Accepts value →
    ∃ label ty, history.cell.write value = .error (.returnType label ty value)
  unchanged : ∀ {value}, ¬ binding.Accepts value → history.next (.write value) = history

theorem Faithful.heldTo (faithful : history.Faithful) (mem : binding ∈ history.cell.bindings) :
    history.HeldTo binding := by
  have refuses : ∀ {value}, ¬ binding.Accepts value →
      ∃ label ty, history.cell.write value = .error (.returnType label ty value) := by
    intro value unfit
    obtain ⟨b, -, -, ty, -, refused⟩ := Cell.exists_refusal mem unfit
    exact ⟨b.member, ty, refused⟩
  refine ⟨faithful.fits binding mem, refuses, fun unfit => ?_⟩
  obtain ⟨label, ty, refused⟩ := refuses unfit
  rw [CellHistory.next, refused]

/-- Once a binding has succeeded before all others of its label, the cell is held to it, whatever
    is done to the cell. A write is refused for no other reason than such a binding. -/
theorem keeps_first {initial : Value} {before later : List CellOperation}
    (first : binding.FirstIn ((start initial).after before).bound) :
    ((start initial).after (before ++ later)).HeldTo binding ∧
      ∀ value fault, ((start initial).after (before ++ later)).cell.write value = .error fault →
        ∃ b : CellBinding, b.FirstIn ((start initial).after (before ++ later)).bound ∧
          ¬ b.Accepts value := by
  have faithful := (faithful_start initial).after (before ++ later)
  constructor
  · obtain ⟨more, bound⟩ := exists_bound_after ((start initial).after before) later
    refine faithful.heldTo ((faithful.held binding).2 ?_)
    rw [after, List.foldl_append, ← after, ← after, bound]
    exact first.append more
  · intro value fault refused
    obtain ⟨b, mem, unfit⟩ := Cell.exists_unfit refused
    exact ⟨b, (faithful.held b).1 mem, unfit⟩

end CellHistory

/-- A property that mocks of one type and one name have under one label, whatever is declared. -/
def Sample.answer (name : String) (ty : Ty) : CellBinding :=
  ⟨"Deep#" ++ name ++ ".answer", some ty, .lossless⟩

/-- A cell is held to two properties, and then to a third one of a label that is known. -/
def Sample.bindings : List CellOperation :=
  [.bind (answer "x" (.optional .int)), .bind (answer "y" .int), .bind (answer "y" .any)]

namespace CellHistory

theorem keeps_first_answer :
    CellBinding.FirstIn (Sample.answer "y" .int) ((start (.int 1)).after Sample.bindings).bound ∧
      HeldTo ((start (.int 1)).after (Sample.bindings ++ [.write .nil, .write (.int 2)]))
        (Sample.answer "y" .int) := by
  have first : CellBinding.FirstIn (Sample.answer "y" .int)
      ((start (.int 1)).after Sample.bindings).bound := rfl
  exact ⟨first, (keeps_first first).1⟩

/-- A second binding of a label is forgotten: the cell is written with what it does not accept. -/
theorem forgets_second :
    Sample.answer "x" .int ∈ ((start (.int 1)).after
        [.bind (Sample.answer "x" .any), .bind (Sample.answer "x" .int)]).bound ∧
      ((start (.int 1)).after [.bind (Sample.answer "x" .any), .bind (Sample.answer "x" .int),
        .write (.str "two")]).cell.value = .str "two" ∧
      ¬ (Sample.answer "x" .int).Accepts (.str "two") :=
  ⟨List.mem_cons_of_mem _ List.mem_cons_self, rfl, Bool.false_ne_true⟩

end CellHistory

end Understudy
