import Understudy.Proofs.Stage.History

/-!
# What members hold

A field holds a value and a property a cell, and nothing else that happens to a member or a mock
matters to that. So there is little that an operation can do to it: a field is written, a property
gets another cell, a cell is written or held to one more property. What a mock is called, what it
was made of and its settings never change.

* `Stage.Effect.keeps`: a mock that is there stays, and stays alike.
* `Stage.Effect.holds`: how what a member holds may change.
* `Stage.Effect.cellMoves`: how a cell may change.
-/

namespace Understudy

/-! ## Cells -/

namespace Cell

variable {cell after : Cell} {value : Value} {binding : CellBinding}

/-- A cell is written with what all its properties accept, and nothing else changes. -/
theorem write_eq_ok_iff : cell.write value = .ok after ↔
    (∀ b ∈ cell.bindings, b.fault? value = none) ∧ after = { cell with value } := by
  unfold write
  cases refusal : cell.bindings.findSome? (·.fault? value) with
  | none =>
    have accepted := List.findSome?_eq_none_iff.1 refusal
    constructor
    · exact fun h => ⟨accepted, (Except.ok.inj h).symm⟩
    · exact fun h => congrArg Except.ok h.2.symm
  | some fault =>
    obtain ⟨b, mem, refused⟩ := List.exists_of_findSome?_eq_some refusal
    constructor
    · intro h
      cases h
    · intro h
      rw [h.1 b mem] at refused
      cases refused

/-- A cell is held to one more property if that accepts its value; the value stays. -/
theorem of_bind (h : cell.bind binding = .ok after) :
    binding.fault? cell.value = none ∧ after.value = cell.value ∧
      (∃ b ∈ after.bindings, b.member = binding.member) ∧
      (∀ b ∈ cell.bindings, b ∈ after.bindings) ∧
      ∀ b ∈ after.bindings, b ∈ cell.bindings ∨ b = binding := by
  unfold bind at h
  cases accepted : binding.fault? cell.value with
  | some fault =>
    rw [accepted] at h
    cases h
  | none =>
    simp only [accepted] at h
    split at h
    · next there =>
      obtain rfl := Except.ok.inj h
      exact ⟨rfl, rfl, by simpa using there, fun _ mem => mem, fun _ mem => .inl mem⟩
    · obtain rfl := Except.ok.inj h
      simp only [List.mem_append, List.mem_singleton]
      exact ⟨trivial, trivial, ⟨binding, .inr rfl, rfl⟩, fun _ mem => .inl mem, fun _ mem => mem⟩

end Cell

namespace Stage

variable {stage : Stage} {old : Cell} {id : CellId}

theorem getElem?_putCell (h : stage.cell id = .ok old) (cell : Cell) (i : Nat) :
    (stage.putCell id cell).cells[i]? = if i = id.index then some cell else stage.cells[i]? := by
  have bound := (List.getElem?_eq_some_iff.1 (cell_eq_ok_iff.1 h)).1
  rw [putCell, List.getElem?_set]
  by_cases same : id.index = i
  · subst same
    simp [bound]
  · rw [if_neg same, if_neg (Ne.symm same)]

theorem getElem?_createCell (stage : Stage) (cell : Cell) (i : Nat) :
    (stage.createCell cell).2.cells[i]? =
      if i = stage.cells.length then some cell else stage.cells[i]? := by
  rw [createCell, List.getElem?_append]
  by_cases same : i = stage.cells.length
  · simp [same]
  · rw [if_neg same, List.getElem?_singleton]
    split
    · rfl
    · rw [if_neg (by omega), List.getElem?_eq_none (by omega)]

end Stage

/-! ## Mocks stay alike -/

/-- Whether two mocks differ in the states of their members and their next number only. -/
structure Mock.Alike (a b : Mock) : Prop where
  id : a.id = b.id
  label : a.label = b.label
  surface : a.surface = b.surface
  settings : a.settings = b.settings

namespace Mock

theorem Alike.refl (mock : Mock) : mock.Alike mock := ⟨rfl, rfl, rfl, rfl⟩

theorem Alike.trans {a b c : Mock} (h : a.Alike b) (h' : b.Alike c) : a.Alike c :=
  ⟨h.id.trans h'.id, h.label.trans h'.label, h.surface.trans h'.surface,
    h.settings.trans h'.settings⟩

theorem Alike.advance {a b : Mock} (h : a.Alike b) : a.advance.Alike b :=
  ⟨h.id, h.label, h.surface, h.settings⟩

theorem alike_setState (mock : Mock) (name : String) (state : MemberState) :
    (mock.setState name state).Alike mock := ⟨rfl, rfl, rfl, rfl⟩

theorem alike_reset (mock : Mock) : mock.reset.Alike mock := ⟨rfl, rfl, rfl, rfl⟩

end Mock

namespace Stage

variable {stage after : Stage} {operation : Operation} {progress : Progress} {id target : MockId}
  {name member : String} {mock old : Mock} {m : MockMember} {state : MemberState}

/-- Where one mock is changed into an alike one, all mocks stay alike. -/
theorem keeps_putMock (h : stage.WellFormed) (found : stage.mock target = .ok old)
    (alike : mock.Alike old) {here : Mock} (there : stage.mock id = .ok here) :
    ∃ mock', (stage.putMock mock).mock id = .ok mock' ∧ mock'.Alike here := by
  rw [h.mock_putMock found mock alike.id]
  by_cases same : id = target
  · subst same
    obtain rfl := Except.ok.inj (there.symm.trans found)
    exact ⟨mock, if_pos rfl, alike⟩
  · exact ⟨here, (if_neg same).trans there, .refl here⟩

/-- A mock stays where it is and alike. -/
theorem Effect.keeps (effect : Effect stage operation progress after) (h : stage.WellFormed)
    (there : stage.mock id = .ok mock) :
    ∃ mock', after.mock id = .ok mock' ∧ mock'.Alike mock := by
  cases effect with
  | refused | readField | peek | records | createCell | write | writeBacked =>
    exact ⟨mock, there, .refl mock⟩
  | createMock =>
    refine ⟨mock, ?_, .refl mock⟩
    rw [mock_eq_ok_iff] at there ⊢
    rw [List.getElem?_append_left (List.getElem?_eq_some_iff.1 there).1, there]
  | call found | readProperty found =>
    exact keeps_putMock h found.1 (Mock.alike_setState _ _ _).advance there
  | writeField found | declare found =>
    exact keeps_putMock h found.1 (Mock.alike_setState _ _ _) there
  | @writeUnbacked _ _ _ _ _ _ cell found =>
    have behind : (stage.createCell cell).2.WellFormed := h.of_mocks_eq rfl
    exact keeps_putMock behind found.1 (Mock.alike_setState _ _ _) there
  | @attach _ _ cellId _ _ _ _ _ cell found =>
    have behind : (stage.putCell cellId cell).WellFormed := h.of_mocks_eq rfl
    exact keeps_putMock behind found.1 (Mock.alike_setState _ _ _) there
  | reset hmock => exact keeps_putMock h hmock (Mock.alike_reset _) there

end Stage

/-! ## What a member holds -/

/-- What a field or a property holds. -/
inductive Held where
  /-- The value of a field. -/
  | value (value : Value)
  /-- The cell of a property. -/
  | cell (id : CellId)

/-- What the member holds, if it holds something. -/
def MemberState.held? : MemberState → Option Held
  | .field (some value) => some (.value value)
  | .property (some cellId) _ => some (.cell cellId)
  | .callable _ _ | .field none | .property none _ => none

theorem MemberState.held?_reset (state : MemberState) : state.reset.held? = state.held? := by
  rcases state with _ | (_ | _) | (_ | _) <;> rfl

namespace Stage

variable {stage after : Stage} {operation : Operation} {progress : Progress} {id target : MockId}
  {name member : String} {mock : Mock} {m : MockMember} {state : MemberState}

/-- What the member of the given name on the mock of the given id holds. -/
def held? (stage : Stage) (id : MockId) (name : String) : Option Held :=
  (stage.stateOf? id name).bind (·.held?)

theorem held?_of_at (found : stage.At id name mock m) :
    stage.held? id name = m.state.held? := by
  rw [held?, stateOf?_of_at found, Option.bind_some]

/-- What a member may hold behind an operation: what it held before, a value that it accepts, or a
    cell that is held to it. -/
inductive Holds (stage after : Stage) (id : MockId) (name : String) : Prop
  | same : after.held? id name = stage.held? id name → Holds stage after id name
  | value {mock : Mock} {m : MockMember} {value : Value} : stage.At id name mock m →
      mock.fieldFault? m value = none → after.held? id name = some (.value value) →
      Holds stage after id name
  | cell {mock : Mock} {m : MockMember} {cellId : CellId} {cell : Cell} : stage.At id name mock m →
      after.cell cellId = .ok cell → (∃ b ∈ cell.bindings, b.member = mock.memberLabel name) →
      after.held? id name = some (.cell cellId) → Holds stage after id name

/-- The binding of a member is labelled by it. -/
theorem bindingOf_member (found : stage.At id name mock m) :
    (mock.bindingOf m).member = mock.memberLabel name := by
  rw [Mock.bindingOf, Mock.name_of_member found.2]

/-- A change of the state of one member matters to what that member holds only. -/
theorem Holds.of_put {target : MockId} {member : String} {state : MemberState}
    (put : after.stateOf? id name =
      if target = id ∧ member = name then some state else stage.stateOf? id name)
    (here : target = id → member = name → after.held? id name = state.held? →
      Holds stage after id name) : Holds stage after id name := by
  by_cases same : target = id ∧ member = name
  · rw [if_pos same] at put
    refine here same.1 same.2 ?_
    rw [held?, put, Option.bind_some]
  · rw [if_neg same] at put
    refine .same ?_
    rw [held?, held?, put]

/-- A member whose state changes may hold what it held. -/
theorem Holds.of_put_same {target : MockId} {member : String} {state : MemberState}
    (found : stage.At target member mock m)
    (put : after.stateOf? id name =
      if target = id ∧ member = name then some state else stage.stateOf? id name)
    (kept : state.held? = m.state.held?) : Holds stage after id name := by
  refine .of_put put ?_
  rintro rfl rfl held
  exact .same (held.trans (kept.trans (held?_of_at found).symm))

/-- An operation changes what a member holds in one of these ways. -/
theorem Effect.holds (effect : Effect stage operation progress after) (h : stage.WellFormed)
    (id : MockId) (name : String) : Holds stage after id name := by
  cases effect with
  | refused | readField | peek | records | createCell | write | writeBacked => exact .same rfl
  | @createMock surface settings =>
    -- A new member holds nothing, like one that is not there.
    refine .same ?_
    change (stage.createMock surface settings).2.held? id name = _
    rw [held?, held?]
    rcases stage.stateOf?_createMock surface settings id name with same | ⟨absent, kind, fresh⟩
    · rw [same]
    · rw [absent, fresh]
      cases kind <;> rfl
  | call found state => exact .of_put_same found (stateOf?_advance h found) (state ▸ rfl)
  | readProperty found state =>
    exact .of_put_same found (stateOf?_advance h found) (state ▸ rfl)
  | declare found state => exact .of_put_same found (stateOf?_setState h found) (state ▸ rfl)
  | writeField found state fits =>
    refine .of_put (stateOf?_setState h found) ?_
    rintro rfl rfl held
    exact .value found fits held
  | @writeUnbacked _ _ _ _ _ _ cell found state bound =>
    have behind : (stage.createCell cell).2.WellFormed := h.of_mocks_eq rfl
    have there : (stage.createCell cell).2.cell ⟨stage.cells.length⟩ = .ok cell := by
      rw [cell_eq_ok_iff, getElem?_createCell, if_pos rfl]
    refine .of_put (stateOf?_setState behind found) ?_
    rintro rfl rfl held
    exact .cell found there (bindingOf_member found ▸ (Cell.of_bind bound).2.2.1) held
  | @attach _ _ cellId _ _ _ _ _ cell found state hcell bound =>
    have behind : (stage.putCell cellId cell).WellFormed := h.of_mocks_eq rfl
    have there : (stage.putCell cellId cell).cell cellId = .ok cell := by
      rw [cell_eq_ok_iff, getElem?_putCell hcell, if_pos rfl]
    refine .of_put (stateOf?_setState behind found) ?_
    rintro rfl rfl held
    exact .cell found there (bindingOf_member found ▸ (Cell.of_bind bound).2.2.1) held
  | @reset _ mock hmock =>
    refine .same ?_
    change Option.bind _ _ = _
    rw [held?, stateOf?_reset h hmock]
    split
    · rw [Option.bind_map]
      congr 1
      exact funext MemberState.held?_reset
    · rfl

/-! ## What happens to cells -/

/-- What may happen to a cell, or to its place before it is made. A cell is held to properties
    only. -/
inductive CellMoves (stage : Stage) : Option Cell → Option Cell → Prop
  | stays {cell : Option Cell} : CellMoves stage cell cell
  | made {value : Value} : CellMoves stage none (some (.ofValue value))
  | written {cell after : Cell} {value : Value} : cell.write value = .ok after →
      CellMoves stage (some cell) (some after)
  | bound {cell after : Cell} {id : MockId} {name : String} {mock : Mock} {m : MockMember} :
      stage.At id name mock m → m.spec.kind = .property →
      cell.bind (mock.bindingOf m) = .ok after → CellMoves stage (some cell) (some after)
  | madeBound {value : Value} {after : Cell} {id : MockId} {name : String} {mock : Mock}
      {m : MockMember} : stage.At id name mock m → m.spec.kind = .property →
      (Cell.ofValue value).bind (mock.bindingOf m) = .ok after →
      CellMoves stage none (some after)

theorem CellMoves.put {cellId : CellId} {cell new : Cell} (h : stage.cell cellId = .ok cell)
    (move : CellMoves stage (some cell) (some new)) (i : Nat) :
    CellMoves stage stage.cells[i]? (stage.putCell cellId new).cells[i]? := by
  rw [getElem?_putCell h]
  split
  · next here =>
    rw [here, cell_eq_ok_iff.1 h]
    exact move
  · exact .stays

theorem CellMoves.create {new : Cell} (move : CellMoves stage none (some new)) (i : Nat) :
    CellMoves stage stage.cells[i]? (stage.createCell new).2.cells[i]? := by
  rw [getElem?_createCell]
  split
  · next here =>
    rw [here, List.getElem?_eq_none (Nat.le_refl _)]
    exact move
  · exact .stays

/-- An operation changes cells in these ways. -/
theorem Effect.cellMoves (effect : Effect stage operation progress after) (h : stage.WellFormed)
    (i : Nat) : CellMoves stage stage.cells[i]? after.cells[i]? := by
  cases effect with
  | refused | readField | peek | records | createMock | call | readProperty | writeField | declare
  | reset => exact .stays
  | createCell => exact CellMoves.made.create i
  | write hcell written => exact (CellMoves.written written).put hcell i
  | writeBacked _ _ hcell written => exact (CellMoves.written written).put hcell i
  | writeUnbacked found state bound =>
    exact (CellMoves.madeBound found (h.fits found state) bound).create i
  | attach found state hcell bound =>
    exact (CellMoves.bound found (h.fits found state) bound).put hcell i

end Stage

end Understudy
