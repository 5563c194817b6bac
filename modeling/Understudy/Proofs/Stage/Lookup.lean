import Understudy.Stage.Basic

/-!
# Looking up members after a change

Everything that an operation changes on a mock is the state of one member, and perhaps the number
of the next record. So it is enough to know what a stage answers about a member once such a change
was put in place: the new state under the name that was changed, and what it was everywhere else.

* `Mock.stateOf?_setState`, `Stage.stateOf?_putMock`: the two halves of that.
* `Mock.setState_members`: where names are distinct, the change is made in one place.
-/

namespace Understudy

namespace Mock

variable {mock : Mock} {name other : String} {state : MemberState} {m : MockMember}

/-- The state of the member of the given name. -/
def stateOf? (mock : Mock) (name : String) : Option MemberState :=
  (mock.members.find? (·.spec.name == name)).map (·.state)

@[simp] theorem setState_surface : (mock.setState name state).surface = mock.surface := rfl
@[simp] theorem reset_surface : mock.reset.surface = mock.surface := rfl

theorem member_eq_ok_iff :
    mock.member name = .ok m ↔ mock.members.find? (·.spec.name == name) = some m := by
  unfold member
  cases mock.members.find? (·.spec.name == name) <;> simp

theorem name_of_member (h : mock.member name = .ok m) : m.spec.name = name := by
  have := List.find?_some (member_eq_ok_iff.1 h)
  simpa using this

theorem mem_of_member (h : mock.member name = .ok m) : m ∈ mock.members :=
  List.mem_of_find?_eq_some (member_eq_ok_iff.1 h)

theorem stateOf?_of_member (h : mock.member name = .ok m) : mock.stateOf? name = some m.state := by
  rw [stateOf?, member_eq_ok_iff.1 h, Option.map_some]

/-- A change of states leaves the names, so it is found where it was before. -/
theorem find?_map_state (name : String) (f : MockMember → MockMember)
    (hf : ∀ m, (f m).spec = m.spec) (members : List MockMember) :
    (members.map f).find? (·.spec.name == name) =
      (members.find? (·.spec.name == name)).map f := by
  rw [List.find?_map]
  congr 2
  funext m
  simp [hf]

theorem stateOf?_setState (h : mock.member name = .ok m) :
    (mock.setState name state).stateOf? other =
      if other = name then some state else mock.stateOf? other := by
  rw [stateOf?, setState, find?_map_state _ _ (by intro m; split <;> rfl)]
  by_cases same : other = name
  · subst same
    rw [member_eq_ok_iff.1 h]
    simp [name_of_member h]
  · rw [if_neg same, stateOf?]
    cases found : mock.members.find? (·.spec.name == other) with
    | none => rfl
    | some k =>
      have := List.find?_some found
      simp_all

theorem stateOf?_reset : mock.reset.stateOf? name = (mock.stateOf? name).map (·.reset) := by
  have found := find?_map_state name (fun m => { m with state := m.state.reset })
    (fun _ => rfl) mock.members
  rw [stateOf?, reset, found, stateOf?]
  cases mock.members.find? (·.spec.name == name) <;> rfl

/-- The members of a new mock are those of its surface, and nothing has happened to them. -/
theorem stateOf?_create (id : MockId) (surface : Shared Surface) (settings : Settings) :
    (Mock.create id surface settings).stateOf? name =
      (surface.value.members.find? (·.name == name)).map fun spec => .fresh spec.kind := by
  rw [stateOf?, create, List.find?_map, Option.map_map]
  rfl

theorem setState_members (distinct : mock.members.Pairwise fun m n => m.spec.name ≠ n.spec.name)
    (h : mock.member name = .ok m) :
    ∃ before after, mock.members = before ++ m :: after ∧
      ∀ state, (mock.setState name state).members = before ++ { m with state } :: after := by
  obtain ⟨before, after, split⟩ := List.append_of_mem (mem_of_member h)
  refine ⟨before, after, split, fun state => ?_⟩
  rw [split, List.pairwise_append, List.pairwise_cons] at distinct
  obtain ⟨_, ⟨behind, _⟩, across⟩ := distinct
  have named := name_of_member h
  -- No other member has the name, so the change passes over both sides.
  have keep : ∀ k ∈ before ++ after,
      (if k.spec.name == name then { k with state } else k) = k := by
    intro k mem
    have : k.spec.name ≠ name := by
      rcases List.mem_append.1 mem with mem | mem
      · exact named ▸ across k mem m List.mem_cons_self
      · exact named ▸ (behind k mem).symm
    simp [this]
  rw [setState, split]
  simp only [List.map_append, List.map_cons, named, beq_self_eq_true, if_true]
  rw [List.map_congr_left fun k mem => keep k (List.mem_append_left _ mem),
    List.map_congr_left fun k mem => keep k (List.mem_append_right _ mem)]
  simp

end Mock

namespace Stage

variable {stage : Stage} {mock old : Mock} {id : MockId} {name : String}

/-- The member of the given name, on the mock of the given id. -/
def At (stage : Stage) (id : MockId) (name : String) (mock : Mock) (m : MockMember) : Prop :=
  stage.mock id = .ok mock ∧ mock.member name = .ok m

theorem At.unique {mock' : Mock} {m m' : MockMember} (h : stage.At id name mock m)
    (h' : stage.At id name mock' m') : mock = mock' ∧ m = m' := by
  obtain rfl := Except.ok.inj (h.1.symm.trans h'.1)
  exact ⟨rfl, Except.ok.inj (h.2.symm.trans h'.2)⟩

/-- The state of the member of the given name on the mock of the given id. -/
def stateOf? (stage : Stage) (id : MockId) (name : String) : Option MemberState :=
  stage.mocks[id.index]?.bind (·.stateOf? name)

theorem mock_eq_ok_iff : stage.mock id = .ok mock ↔ stage.mocks[id.index]? = some mock := by
  unfold Stage.mock
  cases stage.mocks[id.index]? <;> simp

theorem cell_eq_ok_iff {id : CellId} {cell : Cell} :
    stage.cell id = .ok cell ↔ stage.cells[id.index]? = some cell := by
  unfold Stage.cell
  cases stage.cells[id.index]? <;> simp

@[simp] theorem putMock_cell {id : CellId} : (stage.putMock mock).cell id = stage.cell id := rfl

theorem stateOf?_of_at {m : MockMember} (h : stage.At id name mock m) :
    stage.stateOf? id name = some m.state := by
  rw [stateOf?, mock_eq_ok_iff.1 h.1]
  exact Mock.stateOf?_of_member h.2

/-- A member that has a state is there. -/
theorem exists_at {state : MemberState} (here : stage.stateOf? id name = some state) :
    ∃ mock m, stage.At id name mock m ∧ m.state = state := by
  obtain ⟨mock, there, here⟩ := Option.bind_eq_some_iff.1 here
  obtain ⟨m, found, rfl⟩ := Option.map_eq_some_iff.1 here
  exact ⟨mock, m, ⟨mock_eq_ok_iff.2 there, Mock.member_eq_ok_iff.2 found⟩, rfl⟩

theorem stateOf?_of_mock (h : stage.mock id = .ok mock) :
    stage.stateOf? id name = mock.stateOf? name := by
  rw [stateOf?, mock_eq_ok_iff.1 h, Option.bind_some]

theorem index_ne {a b : MockId} (h : a ≠ b) : a.index ≠ b.index := by
  intro index
  cases a
  cases b
  simp_all

theorem getElem?_putMock (h : stage.mock mock.id = .ok old) (i : Nat) :
    (stage.putMock mock).mocks[i]? = if i = mock.id.index then some mock else stage.mocks[i]? := by
  have bound : mock.id.index < stage.mocks.length :=
    (List.getElem?_eq_some_iff.1 (mock_eq_ok_iff.1 h)).1
  rw [putMock, List.getElem?_set]
  by_cases same : mock.id.index = i
  · subst same
    simp [bound]
  · rw [if_neg same, if_neg (Ne.symm same)]

theorem mock_putMock (h : stage.mock mock.id = .ok old) :
    (stage.putMock mock).mock id = if id = mock.id then .ok mock else stage.mock id := by
  rw [Stage.mock, getElem?_putMock h]
  by_cases same : id = mock.id
  · subst same
    simp
  · rw [if_neg (index_ne same), if_neg same, Stage.mock]

theorem stateOf?_putMock (h : stage.mock mock.id = .ok old) :
    (stage.putMock mock).stateOf? id name =
      if id = mock.id then mock.stateOf? name else stage.stateOf? id name := by
  rw [stateOf?, getElem?_putMock h]
  by_cases same : id = mock.id
  · subst same
    simp
  · rw [if_neg (index_ne same), if_neg same, stateOf?]

/-- A mock that is made brings members that nothing has happened to. -/
theorem stateOf?_createMock (stage : Stage) (surface : Shared Surface) (settings : Settings)
    (id : MockId) (name : String) :
    (stage.createMock surface settings).2.stateOf? id name = stage.stateOf? id name ∨
      stage.stateOf? id name = none ∧
        ∃ kind, (stage.createMock surface settings).2.stateOf? id name = some (.fresh kind) := by
  rw [stateOf?, stateOf?, createMock, List.getElem?_append]
  split
  · exact .inl rfl
  · next behind =>
    rw [List.getElem?_eq_none (Nat.le_of_not_lt behind), List.getElem?_singleton]
    split
    · rw [Option.bind_none, Option.bind_some, Mock.stateOf?_create]
      cases surface.value.members.find? (·.name == name) with
      | none => exact .inl rfl
      | some spec => exact .inr ⟨rfl, spec.kind, rfl⟩
    · exact .inl rfl

end Stage

end Understudy
