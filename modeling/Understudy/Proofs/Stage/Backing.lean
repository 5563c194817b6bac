import Understudy.Proofs.Cell.Constraint
import Understudy.Proofs.Stage.InPlace
import Understudy.Proofs.Stage.Viewpoint

/-!
# What a cell is held to by the properties that it has backed

A property that gets another cell leaves the one it had, but that cell stays held to the property:
what a cell was held to once it is held to for the rest of the session. So a cell is not held to
the properties that it backs, but to those that it has ever backed.

* `Stage.Effect.mem_bindings`: a cell is held to one more property where it begins to back it.
* `Session.refuses_iff`: where labels are distinct, a cell refuses what some property does not
  accept that it has ever backed, and nothing else.
* `Session.refuses_unheld`: that may be a cell that backs nothing any more.
-/

namespace Understudy

/-- Whether a property in the state has the cell. -/
def MemberState.hasCell (cellId : CellId) : MemberState → Bool
  | .property (some own) _ => own == cellId
  | .property none _ | .field _ | .callable _ _ => false

namespace Stage

variable {stage after : Stage} {operation : Operation} {progress : Progress} {id : MockId}
  {name : String} {mock : Mock} {m : MockMember} {binding : CellBinding} {cellId : CellId}
  {value : Value}

/-! ## Who has a cell -/

/-- What has a cell is a property. -/
theorem exists_property_of_held (h : stage.WellFormed)
    (held : stage.held? id name = some (.cell cellId)) :
    ∃ mock m records, stage.At id name mock m ∧ m.state = .property (some cellId) records ∧
      stage.DeclaresAt id name .property (mock.bindingOf m) := by
  obtain ⟨state, here, holds⟩ := Option.bind_eq_some_iff.1 held
  obtain ⟨mock, m, found, rfl⟩ := exists_at here
  rcases state : m.state with _ | (_ | _) | ⟨_ | own, records⟩ <;> rw [state] at holds <;>
    cases holds
  exact ⟨mock, m, records, found, state, mock, m, found, h.fits found state, rfl⟩

/-- Whether a property of the stage has the cell. -/
def isHeld (stage : Stage) (cellId : CellId) : Bool :=
  stage.mocks.any fun mock => mock.members.any (·.state.hasCell cellId)

theorem WellFormed.isHeld_of_held (h : stage.WellFormed)
    (held : stage.held? id name = some (.cell cellId)) : stage.isHeld cellId = true := by
  obtain ⟨mock, m, _, found, state, -⟩ := exists_property_of_held h held
  refine List.any_eq_true.2 ⟨mock, List.mem_of_getElem? (mock_eq_ok_iff.1 found.1),
    List.any_eq_true.2 ⟨m, Mock.mem_of_member found.2, ?_⟩⟩
  rw [state]
  exact beq_self_eq_true cellId

/-! ## What one operation does -/

/-- Where the state of one member is put, that member holds what the state holds. -/
theorem held?_put {target : MockId} {member : String} {state : MemberState}
    (put : after.stateOf? id name =
      if target = id ∧ member = name then some state else stage.stateOf? id name) :
    after.held? id name =
      if target = id ∧ member = name then state.held? else stage.held? id name := by
  rw [held?, put]
  split <;> rfl

theorem held?_setState_eq {target : MockId} {member : String} (h : stage.WellFormed)
    (found : stage.At target member mock m) (state : MemberState) (id : MockId) (name : String) :
    (stage.putMock (mock.setState member state)).held? id name =
      if target = id ∧ member = name then state.held? else stage.held? id name :=
  held?_put (stateOf?_setState h found)

/-- A property whose state is put in place holds what the state holds. -/
theorem held?_setState (h : stage.WellFormed) (found : stage.At id name mock m)
    (state : MemberState) :
    (stage.putMock (mock.setState name state)).held? id name = state.held? :=
  (held?_setState_eq h found state id name).trans (if_pos ⟨rfl, rfl⟩)

/-- A cell is held to what it was held to before, and to a property where it begins to back it. -/
theorem Effect.mem_bindings (effect : Effect stage operation progress after) (h : stage.WellFormed)
    {i : Nat} {cell : Cell} (there : after.cells[i]? = some cell) (mem : binding ∈ cell.bindings) :
    (∃ old, stage.cells[i]? = some old ∧ binding ∈ old.bindings) ∨
      ∃ id name, after.held? id name = some (.cell ⟨i⟩) ∧
        stage.DeclaresAt id name .property binding := by
  cases effect with
  | refused | readField | peek | records | createMock | call | readProperty | writeField | declare
  | reset => exact .inl ⟨cell, there, mem⟩
  | @createCell value =>
    have put := getElem?_createCell stage (.ofValue value) i
    split at put
    · -- A new cell is held to nothing.
      obtain rfl := Option.some.inj (there.symm.trans put)
      exact absurd mem List.not_mem_nil
    · exact .inl ⟨cell, put.symm.trans there, mem⟩
  | @write _ _ old new hcell written | @writeBacked _ _ _ _ _ _ _ old new _ _ hcell written =>
    have put := getElem?_putCell hcell new i
    split at put
    · next here =>
      obtain rfl := Option.some.inj (there.symm.trans put)
      -- A write changes the value only.
      obtain ⟨-, rfl⟩ := Cell.write_eq_ok_iff.1 written
      exact .inl ⟨old, here ▸ cell_eq_ok_iff.1 hcell, mem⟩
    · exact .inl ⟨cell, put.symm.trans there, mem⟩
  | @writeUnbacked id name value mock m _ new found state bound =>
    have put := getElem?_createCell stage new i
    split at put
    · next last =>
      obtain rfl := Option.some.inj (there.symm.trans put)
      obtain rfl := last
      rcases (Cell.of_bind bound).2.2.2.2 binding mem with none | rfl
      · exact absurd none List.not_mem_nil
      · have behind : (stage.createCell cell).2.WellFormed := h.of_mocks_eq rfl
        exact .inr ⟨id, name, held?_setState behind found _,
          mock, m, found, h.fits found state, rfl⟩
    · exact .inl ⟨cell, put.symm.trans there, mem⟩
  | @attach id name cellId mock m _ _ old new found state hcell bound =>
    have put := getElem?_putCell hcell new i
    split at put
    · next here =>
      obtain rfl := Option.some.inj (there.symm.trans put)
      obtain rfl := here
      rcases (Cell.of_bind bound).2.2.2.2 binding mem with known | rfl
      · exact .inl ⟨old, cell_eq_ok_iff.1 hcell, known⟩
      · have behind : (stage.putCell cellId cell).WellFormed := h.of_mocks_eq rfl
        exact .inr ⟨id, name, held?_setState behind found _,
          mock, m, found, h.fits found state, rfl⟩
    · exact .inl ⟨cell, put.symm.trans there, mem⟩

/-! ## Writing a cell -/

/-- Whether the operation writes the value to the cell: under its own name, or as the cell of a
    property. -/
inductive Writes (stage : Stage) (cellId : CellId) (value : Value) : Operation → Prop
  | byName {cell : Cell} : stage.cell cellId = .ok cell →
      Writes stage cellId value (.write cellId value)
  | byProperty {id : MockId} {name : String} : stage.held? id name = some (.cell cellId) →
      Writes stage cellId value (.set id name value)

/-- Whether the operation is refused. -/
def Refuses (stage : Stage) (operation : Operation) : Prop :=
  ∃ fault, (stage.begin operation).1 = .finished (.error fault)

/-- Both ways of writing a cell come to the same. -/
theorem Writes.begin_eq (writes : stage.Writes cellId value operation) (h : stage.WellFormed) :
    stage.begin operation = stage.begin (.write cellId value) := by
  cases writes with
  | byName => rfl
  | byProperty held =>
    obtain ⟨mock, m, records, found, state, -⟩ := exists_property_of_held h held
    simp only [begin, set, found.1, found.2, state, ok_bind]

theorem Writes.exists_cell (writes : stage.Writes cellId value operation) (h : stage.WellFormed)
    (sound : stage.Sound) : ∃ cell, stage.cell cellId = .ok cell := by
  cases writes with
  | byName there => exact ⟨_, there⟩
  | byProperty held =>
    obtain ⟨mock, m, -, -, -, declared⟩ := exists_property_of_held h held
    obtain ⟨cell, there, -⟩ := sound.properties declared held
    exact ⟨cell, there⟩

/-- A cell refuses what a property that it is held to does not accept. -/
theorem refuses_write_iff {cell : Cell} (there : stage.cell cellId = .ok cell) :
    stage.Refuses (.write cellId value) ↔ ∃ b ∈ cell.bindings, ¬ b.Accepts value := by
  have begun : stage.begin (.write cellId value) =
      stage.settled ((cell.write value).map fun cell => (.done, stage.putCell cellId cell)) := by
    simp only [begin, write, there, ok_bind]
    cases cell.write value <;> rfl
  rw [Refuses, begun]
  constructor
  · rintro ⟨fault, refused⟩
    cases written : cell.write value with
    | ok after =>
      rw [written] at refused
      cases refused
    | error _ => exact Cell.exists_unfit written
  · rintro ⟨b, mem, unfit⟩
    obtain ⟨refusing, -, -, ty, -, refused⟩ := Cell.exists_refusal mem unfit
    exact ⟨.returnType refusing.member ty value, by rw [refused]; rfl⟩

end Stage

/-! ## Sessions -/

/-- Whether the cell backs the property of the name on the mock of the id on the stage of a session,
    or has backed it on one before. -/
inductive HasBacked (cellId : CellId) (id : MockId) (name : String) : List Step → Stage → Prop
  | now {steps : List Step} {stage : Stage} : Session steps stage →
      stage.held? id name = some (.cell cellId) → HasBacked cellId id name steps stage
  | before {steps : List Step} {stage : Stage} (operation : Operation) :
      HasBacked cellId id name steps stage →
      HasBacked cellId id name (⟨operation, (stage.begin operation).1⟩ :: steps)
        (stage.begin operation).2

variable {steps : List Step} {stage : Stage} {operation : Operation} {cellId : CellId}
  {id : MockId} {name : String} {value : Value} {binding : CellBinding}

namespace HasBacked

theorem session (backed : HasBacked cellId id name steps stage) : Session steps stage := by
  induction backed with
  | now session => exact session
  | before operation _ ih => exact ih.step operation

/-- What a cell has backed is a property, and the cell is held to one of its label. -/
theorem exists_binding (backed : HasBacked cellId id name steps stage) :
    ∃ declared, stage.DeclaresAt id name .property declared ∧
      ∃ cell, stage.cell cellId = .ok cell ∧ ∃ b ∈ cell.bindings, b.member = declared.member := by
  induction backed with
  | now session held =>
    obtain ⟨mock, m, -, -, -, declared⟩ := Stage.exists_property_of_held session.wellFormed held
    exact ⟨mock.bindingOf m, declared, session.sound.properties declared held⟩
  | @before _ stage operation backed ih =>
    obtain ⟨declared, here, cell, there, b, mem, label⟩ := ih
    have h := backed.session.wellFormed
    have effect := stage.begin_effect operation
    have move := effect.cellMoves h cellId.index
    rw [Stage.cell_eq_ok_iff.1 there] at move
    obtain ⟨cell', there', kept⟩ := move.keeps
    exact ⟨declared, effect.declaresAt h here, cell', Stage.cell_eq_ok_iff.2 there', b,
      kept b mem, label⟩

end HasBacked

namespace Session

/-- A cell is held to properties that it has backed. -/
theorem exists_hasBacked (session : Session steps stage) {cell : Cell}
    (there : stage.cell cellId = .ok cell) (mem : binding ∈ cell.bindings) :
    ∃ id name, HasBacked cellId id name steps stage ∧
      stage.DeclaresAt id name .property binding := by
  induction session generalizing cell with
  | start =>
    rw [Stage.cell_eq_ok_iff] at there
    simp [Stage.empty] at there
  | @step steps stage operation session ih =>
    have h := session.wellFormed
    have effect := stage.begin_effect operation
    -- Either the cell was held to the property before, or this operation made it back the property.
    rcases effect.mem_bindings h (Stage.cell_eq_ok_iff.1 there) mem with
      ⟨old, there, mem⟩ | ⟨id, name, held, declared⟩
    · obtain ⟨id, name, backed, declared⟩ := ih (Stage.cell_eq_ok_iff.2 there) mem
      exact ⟨id, name, .before operation backed, effect.declaresAt h declared⟩
    · exact ⟨id, name, .now (session.step operation) held, effect.declaresAt h declared⟩

/-- Where labels are distinct, a cell is held to the properties that it has backed. -/
theorem mem_bindings_iff (session : Session steps stage) (distinct : stage.propertyLabels.Nodup)
    {cell : Cell} (there : stage.cell cellId = .ok cell) :
    binding ∈ cell.bindings ↔ ∃ id name, HasBacked cellId id name steps stage ∧
      stage.DeclaresAt id name .property binding := by
  refine ⟨session.exists_hasBacked there, ?_⟩
  rintro ⟨id, name, backed, declared⟩
  obtain ⟨_, declared', cell', there', b, mem, label⟩ := backed.exists_binding
  obtain rfl := Except.ok.inj (there.symm.trans there')
  obtain ⟨-, rfl⟩ := declared.unique declared'
  -- The label is that of the property, so the cell is held to the property itself.
  have known := (session.sound.cells (Stage.cell_eq_ok_iff.1 there) b mem).1
  obtain rfl := Stage.binding_eq_of_label distinct known ⟨id, name, declared⟩ label
  exact mem

/-- Where labels are distinct, a cell refuses what some property does not accept that it has ever
    backed, and nothing else. So it is held to the properties that it backs as long as each of
    those that it has backed still has it. -/
theorem refuses_iff (session : Session steps stage) (distinct : stage.propertyLabels.Nodup)
    (writes : stage.Writes cellId value operation) :
    (stage.Refuses operation ↔ ∃ id name b, HasBacked cellId id name steps stage ∧
      stage.DeclaresAt id name .property b ∧ ¬ b.Accepts value) ∧
    ((∀ id name, HasBacked cellId id name steps stage →
        stage.held? id name = some (.cell cellId)) →
      (stage.Refuses operation ↔ ∃ id name b, stage.held? id name = some (.cell cellId) ∧
        stage.DeclaresAt id name .property b ∧ ¬ b.Accepts value)) := by
  have ever : stage.Refuses operation ↔ ∃ id name b, HasBacked cellId id name steps stage ∧
      stage.DeclaresAt id name .property b ∧ ¬ b.Accepts value := by
    obtain ⟨cell, there⟩ := writes.exists_cell session.wellFormed session.sound
    rw [Stage.Refuses, writes.begin_eq session.wellFormed, ← Stage.Refuses,
      Stage.refuses_write_iff there]
    constructor
    · rintro ⟨b, mem, unfit⟩
      obtain ⟨id, name, backed, declared⟩ := (session.mem_bindings_iff distinct there).1 mem
      exact ⟨id, name, b, backed, declared, unfit⟩
    · rintro ⟨id, name, b, backed, declared, unfit⟩
      exact ⟨b, (session.mem_bindings_iff distinct there).2 ⟨id, name, backed, declared⟩, unfit⟩
  refine ⟨ever, fun still => ever.trans ?_⟩
  constructor
  · rintro ⟨id, name, b, backed, rest⟩
    exact ⟨id, name, b, still id name backed, rest⟩
  · rintro ⟨id, name, b, held, rest⟩
    exact ⟨id, name, b, .now session held, rest⟩

end Session

/-- A property that gets another cell, in place of the one it had. -/
def Sample.replacing : List Operation :=
  [.attach ⟨0⟩ "meaning_of_life" ⟨1⟩,
    .attach ⟨0⟩ "meaning_of_life" ⟨0⟩,
    .createCell (.str "virtue"),
    .createCell (.str "justice"),
    .createMock ⟨0, philosopherSurface⟩ (.named none)]

namespace Session

theorem refuses_iff_replacing :
    (performed Sample.replacing).2.propertyLabels.Nodup ∧
      (performed Sample.replacing).2.Writes ⟨1⟩ (.int 42)
        (.set ⟨0⟩ "meaning_of_life" (.int 42)) ∧
      (performed Sample.replacing).2.Refuses (.set ⟨0⟩ "meaning_of_life" (.int 42)) := by
  have session := of_performed Sample.replacing
  have distinct : (performed Sample.replacing).2.propertyLabels.Nodup := by decide +kernel
  have held : (performed Sample.replacing).2.held? ⟨0⟩ "meaning_of_life" = some (.cell ⟨1⟩) := rfl
  refine ⟨distinct, .byProperty held, (session.refuses_iff distinct (.byProperty held)).1.2 ?_⟩
  exact ⟨⟨0⟩, "meaning_of_life", _, .now session held, ⟨_, _, ⟨rfl, rfl⟩, rfl, rfl⟩,
    Bool.false_ne_true⟩

/-- The cell that the property had backs nothing any more, and still refuses a value that the
    property does not accept. -/
theorem refuses_unheld :
    (performed Sample.replacing).2.propertyLabels.Nodup ∧
      (∀ id name, (performed Sample.replacing).2.held? id name ≠ some (.cell ⟨0⟩)) ∧
      (performed Sample.replacing).2.Refuses (.write ⟨0⟩ (.int 42)) := by
  refine ⟨by decide +kernel, ?_, _, rfl⟩
  exact fun id name held => Bool.false_ne_true ((of_performed _).wellFormed.isHeld_of_held held)

end Session

end Understudy
