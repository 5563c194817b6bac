import Mathlib.Data.List.Nodup
import Understudy.Proofs.Stage.Holding

/-!
# Fields and properties are well typed

Whatever happens on a stage, a field holds a value of its declared type, and so does the cell of a
property, although the cell may be written through other properties and under its own name. A cell
knows its properties by their labels, so this needs properties of distinct labels. What is kept by
every operation needs no such condition: a cell fits all that it is held to, it is held to
properties of the stage only, and the cell of a property is held to some property of that label.

* `Stage.Effect.sound`: that is kept by every operation.
* `Session.typed`: on every stage of a session whose properties have distinct labels, fields and
  properties are well typed, and so is all that is read from them.
-/

namespace Understudy

/-- The property accepts the value. -/
def CellBinding.Accepts (binding : CellBinding) (value : Value) : Prop :=
  Ty.acceptsDeclared binding.coercion binding.ty value = true

theorem CellBinding.fault?_eq_none_iff {binding : CellBinding} {value : Value} :
    binding.fault? value = none ↔ binding.Accepts value := by
  rw [fault?, Fault.ofResult?, Option.map_eq_none_iff, Ty.refusing?_eq_none_iff, Accepts]

/-- A field accepts what a property in its place would accept. -/
theorem Mock.fieldFault?_eq_none_iff {mock : Mock} {m : MockMember} {value : Value} :
    mock.fieldFault? m value = none ↔ (mock.bindingOf m).Accepts value := by
  rw [fieldFault?, Option.map_eq_none_iff, Ty.refusing?_eq_none_iff]
  rfl

/-! ## Members stay as they are declared -/

namespace Mock.Alike

variable {a b : Mock} {name : String} {m : MockMember}

theorem symm (alike : a.Alike b) : b.Alike a :=
  ⟨alike.id.symm, alike.label.symm, alike.surface.symm, alike.settings.symm⟩

/-- Alike mocks have the same members. -/
theorem member (alike : a.Alike b) (ha : a.WellFormed) (hb : b.WellFormed)
    (found : b.member name = .ok m) : ∃ m', a.member name = .ok m' ∧ m'.spec = m.spec := by
  have same : a.members.map (·.spec) = b.members.map (·.spec) := by
    rw [ha.declared, hb.declared, alike.surface]
  have specs := congrArg (List.find? (·.name == name)) same
  rw [List.find?_map, List.find?_map] at specs
  have there : b.members.find? ((fun spec : Member => spec.name == name) ∘ (·.spec)) = some m :=
    member_eq_ok_iff.1 found
  rw [there, Option.map_some, Option.map_eq_some_iff] at specs
  obtain ⟨m', found', spec⟩ := specs
  exact ⟨m', member_eq_ok_iff.2 found', spec⟩

/-- Members that are declared alike are bound alike. -/
theorem bindingOf (alike : a.Alike b) {m' : MockMember} (spec : m'.spec = m.spec) :
    a.bindingOf m' = b.bindingOf m := by
  rw [Mock.bindingOf, Mock.bindingOf, memberLabel, memberLabel, alike.label, alike.settings, spec]

end Mock.Alike

namespace Stage

variable {stage after : Stage} {operation : Operation} {progress : Progress} {id : MockId}
  {name : String} {mock mock' : Mock} {m m' : MockMember} {binding : CellBinding}

/-- The member of the given name on the mock of the given id, as a cell would be held to it. -/
def DeclaresAt (stage : Stage) (id : MockId) (name : String) (kind : MemberKind)
    (binding : CellBinding) : Prop :=
  ∃ mock m, stage.At id name mock m ∧ m.spec.kind = kind ∧ mock.bindingOf m = binding

theorem DeclaresAt.unique {kind kind' : MemberKind} {binding' : CellBinding}
    (h : stage.DeclaresAt id name kind binding) (h' : stage.DeclaresAt id name kind' binding') :
    kind = kind' ∧ binding = binding' := by
  obtain ⟨mock, m, found, rfl, rfl⟩ := h
  obtain ⟨mock', m', found', rfl, rfl⟩ := h'
  obtain ⟨rfl, rfl⟩ := found.unique found'
  exact ⟨rfl, rfl⟩

/-- What is declared stays declared. -/
theorem Effect.declaresAt {kind : MemberKind} (effect : Effect stage operation progress after)
    (h : stage.WellFormed) (declared : stage.DeclaresAt id name kind binding) :
    after.DeclaresAt id name kind binding := by
  obtain ⟨mock, m, found, rfl, rfl⟩ := declared
  obtain ⟨mock', there, alike⟩ := effect.keeps h found.1
  obtain ⟨m', found', spec⟩ :=
    alike.member ((effect.wellFormed h).of_mock there) (h.of_mock found.1) found.2
  exact ⟨mock', m', ⟨there, found'⟩, by rw [spec], alike.bindingOf spec⟩

/-- A member that holds something is declared. -/
theorem exists_declaresAt_of_held {held : Held} (holds : stage.held? id name = some held) :
    ∃ kind binding, stage.DeclaresAt id name kind binding := by
  obtain ⟨state, here, -⟩ := Option.bind_eq_some_iff.1 holds
  obtain ⟨mock, m, found, -⟩ := exists_at here
  exact ⟨_, _, mock, m, found, rfl, rfl⟩

/-! ## What is kept -/

/-- Whether a property of the stage is bound in that way. -/
def DeclaresProperty (stage : Stage) (binding : CellBinding) : Prop :=
  ∃ id name, stage.DeclaresAt id name .property binding

/-- What is kept of fields, properties and cells. -/
structure Sound (stage : Stage) : Prop where
  /-- A field holds what it accepts. -/
  fields : ∀ {id name kind binding value}, stage.DeclaresAt id name kind binding →
    stage.held? id name = some (.value value) → binding.Accepts value
  /-- The cell of a property is held to some property of its label. -/
  properties : ∀ {id name kind binding cellId}, stage.DeclaresAt id name kind binding →
    stage.held? id name = some (.cell cellId) →
    ∃ cell, stage.cell cellId = .ok cell ∧ ∃ b ∈ cell.bindings, b.member = binding.member
  /-- What a cell is held to are properties of the stage, and all accept its value. -/
  cells : ∀ {i : Nat} {cell}, stage.cells[i]? = some cell →
    ∀ b ∈ cell.bindings, stage.DeclaresProperty b ∧ b.Accepts cell.value

/-- A cell stays, and is held to what it was held to. -/
theorem CellMoves.keeps {after : Option Cell} {cell : Cell}
    (move : CellMoves stage (some cell) after) :
    ∃ cell', after = some cell' ∧ ∀ b ∈ cell.bindings, b ∈ cell'.bindings := by
  cases move with
  | stays => exact ⟨cell, rfl, fun _ mem => mem⟩
  | written written =>
    obtain ⟨_, rfl⟩ := Cell.write_eq_ok_iff.1 written
    exact ⟨_, rfl, fun _ mem => mem⟩
  | bound _ _ bound => exact ⟨_, rfl, (Cell.of_bind bound).2.2.2.1⟩

/-- A cell that is held to one more property accepts its value everywhere. -/
theorem accepts_of_bind {cell after : Cell} (found : stage.At id name mock m)
    (property : m.spec.kind = .property) (bound : cell.bind (mock.bindingOf m) = .ok after)
    (old : ∀ b ∈ cell.bindings, stage.DeclaresProperty b ∧ b.Accepts cell.value) :
    ∀ b ∈ after.bindings, stage.DeclaresProperty b ∧ b.Accepts after.value := by
  obtain ⟨accepted, value, -, -, known⟩ := Cell.of_bind bound
  rw [value]
  intro b mem
  rcases known b mem with mem | rfl
  · exact old b mem
  · exact ⟨⟨id, name, mock, m, found, property, rfl⟩, CellBinding.fault?_eq_none_iff.1 accepted⟩

theorem CellMoves.accepts {before : Option Cell} {cell : Cell}
    (move : CellMoves stage before (some cell))
    (old : ∀ cell, before = some cell →
      ∀ b ∈ cell.bindings, stage.DeclaresProperty b ∧ b.Accepts cell.value) :
    ∀ b ∈ cell.bindings, stage.DeclaresProperty b ∧ b.Accepts cell.value := by
  cases move with
  | stays => exact old cell rfl
  | made => exact fun _ mem => absurd mem List.not_mem_nil
  | written written =>
    obtain ⟨accepted, rfl⟩ := Cell.write_eq_ok_iff.1 written
    exact fun b mem => ⟨(old _ rfl b mem).1, CellBinding.fault?_eq_none_iff.1 (accepted b mem)⟩
  | bound found property bound => exact accepts_of_bind found property bound (old _ rfl)
  | madeBound found property bound =>
    exact accepts_of_bind found property bound fun _ mem => absurd mem List.not_mem_nil

/-- Every operation keeps it. -/
theorem Effect.sound (effect : Effect stage operation progress after) (h : stage.WellFormed)
    (sound : stage.Sound) : after.Sound := by
  constructor
  case fields =>
    intro id name kind binding value declared held
    cases effect.holds h id name with
    | same same =>
      -- What held the value before was declared already, and is declared alike.
      rw [same] at held
      obtain ⟨_, _, old⟩ := exists_declaresAt_of_held held
      obtain ⟨-, rfl⟩ := declared.unique (effect.declaresAt h old)
      exact sound.fields old held
    | @value mock m value' found fits held' =>
      obtain ⟨-, rfl⟩ := declared.unique (effect.declaresAt h ⟨mock, m, found, rfl, rfl⟩)
      obtain rfl : value' = value := by simpa using held'.symm.trans held
      exact Mock.fieldFault?_eq_none_iff.1 fits
    | cell _ _ _ held' =>
      rw [held'] at held
      cases held
  case properties =>
    intro id name kind binding cellId declared held
    cases effect.holds h id name with
    | same same =>
      rw [same] at held
      obtain ⟨_, _, old⟩ := exists_declaresAt_of_held held
      obtain ⟨-, rfl⟩ := declared.unique (effect.declaresAt h old)
      obtain ⟨cell, there, b, mem, label⟩ := sound.properties old held
      have move := effect.cellMoves h cellId.index
      rw [cell_eq_ok_iff.1 there] at move
      obtain ⟨cell', there', kept⟩ := move.keeps
      exact ⟨cell', cell_eq_ok_iff.2 there', b, kept b mem, label⟩
    | value _ _ held' =>
      rw [held'] at held
      cases held
    | @cell mock m cellId' cell found there bound held' =>
      obtain ⟨-, rfl⟩ := declared.unique (effect.declaresAt h ⟨mock, m, found, rfl, rfl⟩)
      obtain rfl : cellId' = cellId := by simpa using held'.symm.trans held
      exact ⟨cell, there, bindingOf_member found ▸ bound⟩
  case cells =>
    intro i cell there b mem
    have move := effect.cellMoves h i
    rw [there] at move
    obtain ⟨⟨id, name, declared⟩, accepts⟩ := move.accepts (fun _ old => sound.cells old) b mem
    exact ⟨⟨id, name, effect.declaresAt h declared⟩, accepts⟩

end Stage

/-! ## Labels -/

/-- The labels of the properties of a mock. -/
def Mock.propertyLabels (mock : Mock) : List String :=
  (mock.members.filter (·.spec.kind = .property)).map (mock.memberLabel ·.spec.name)

namespace Stage

variable {stage : Stage} {id id' : MockId} {name name' : String} {mock mock' : Mock}
  {m m' : MockMember} {binding binding' : CellBinding}

/-- The labels of all properties of all mocks. -/
def propertyLabels (stage : Stage) : List String :=
  stage.mocks.flatMap (·.propertyLabels)

/-- The members of a mock that are properties. -/
theorem mem_properties (found : stage.At id name mock m) (property : m.spec.kind = .property) :
    m ∈ mock.members.filter (·.spec.kind = .property) :=
  List.mem_filter.2 ⟨Mock.mem_of_member found.2, by simpa using property⟩

theorem mem_propertyLabels (found : stage.At id name mock m) (property : m.spec.kind = .property) :
    mock.memberLabel m.spec.name ∈ mock.propertyLabels :=
  List.mem_map.2 ⟨m, mem_properties found property, rfl⟩

/-- Where labels are distinct, a property of an earlier mock has another label. -/
theorem not_lt_of_label (distinct : stage.propertyLabels.Nodup)
    (found : stage.At id name mock m) (property : m.spec.kind = .property)
    (found' : stage.At id' name' mock' m') (property' : m'.spec.kind = .property)
    (label : mock.memberLabel m.spec.name = mock'.memberLabel m'.spec.name) :
    ¬ id.index < id'.index := by
  intro before
  obtain ⟨bound, rfl⟩ := List.getElem?_eq_some_iff.1 (mock_eq_ok_iff.1 found.1)
  obtain ⟨bound', rfl⟩ := List.getElem?_eq_some_iff.1 (mock_eq_ok_iff.1 found'.1)
  have apart := List.pairwise_iff_getElem.1 (List.nodup_flatMap.1 distinct).2
  have shared := mem_propertyLabels found property
  rw [label] at shared
  exact apart _ _ bound bound' before shared (mem_propertyLabels found' property')

/-- Where labels are distinct a property is known by its label. -/
theorem binding_eq_of_label (distinct : stage.propertyLabels.Nodup)
    (declared : stage.DeclaresProperty binding) (declared' : stage.DeclaresProperty binding')
    (label : binding.member = binding'.member) : binding = binding' := by
  obtain ⟨id, name, mock, m, found, property, rfl⟩ := declared
  obtain ⟨id', name', mock', m', found', property', rfl⟩ := declared'
  have notBefore := not_lt_of_label distinct found property found' property' label
  have notBehind := not_lt_of_label distinct found' property' found property label.symm
  -- They are of one mock then, and its own labels are distinct.
  have place : id.index = id'.index := by omega
  have there := mock_eq_ok_iff.1 found.1
  rw [place, mock_eq_ok_iff.1 found'.1] at there
  obtain rfl := Option.some.inj there
  have labels := (List.nodup_flatMap.1 distinct).1 _
    (List.mem_of_getElem? (mock_eq_ok_iff.1 found'.1))
  obtain rfl := List.inj_on_of_nodup_map labels (mem_properties found property)
    (mem_properties found' property') label
  rfl

/-! ## Sessions -/

theorem Sound.empty : Stage.empty.Sound := by
  have nothing : ∀ id name, Stage.empty.held? id name = none := fun _ _ => rfl
  constructor
  case fields =>
    intro id name _ _ _ _ held
    rw [nothing] at held
    cases held
  case properties =>
    intro id name _ _ _ _ held
    rw [nothing] at held
    cases held
  case cells =>
    intro i cell there
    simp [Stage.empty] at there

/-- Fields and properties hold values of their declared types, and no others are read. -/
structure Typed (stage : Stage) : Prop where
  /-- The value of a field is of its type. -/
  fields : ∀ {id name mock m value}, stage.At id name mock m →
    m.state = .field (some value) →
    Ty.acceptsDeclared mock.settings.coercion m.spec.result value = true
  /-- A property that has a cell has one whose value is of its type. -/
  properties : ∀ {id name mock m cellId records}, stage.At id name mock m →
    m.state = .property (some cellId) records →
    ∃ cell, stage.cell cellId = .ok cell ∧
      Ty.acceptsDeclared mock.settings.coercion m.spec.result cell.value = true
  /-- What reading a member tells is a value of its type. -/
  reads : ∀ {id name reply}, (stage.begin (.get id name)).1 = .finished (.ok reply) →
    ∃ mock m value, stage.At id name mock m ∧ reply = .value value ∧
      Ty.acceptsDeclared mock.settings.coercion m.spec.result value = true

/-- Where labels are distinct, what is kept makes fields and properties well typed. -/
theorem Sound.wellTyped (sound : stage.Sound) (h : stage.WellFormed)
    (distinct : stage.propertyLabels.Nodup) : stage.Typed := by
  have fields : ∀ {id name mock m value}, stage.At id name mock m →
      m.state = .field (some value) →
      Ty.acceptsDeclared mock.settings.coercion m.spec.result value = true := by
    intro id name mock m value found state
    refine sound.fields ⟨mock, m, found, rfl, rfl⟩ ?_
    rw [held?_of_at found, state]
    rfl
  have properties : ∀ {id name mock m cellId records}, stage.At id name mock m →
      m.state = .property (some cellId) records →
      ∃ cell, stage.cell cellId = .ok cell ∧
        Ty.acceptsDeclared mock.settings.coercion m.spec.result cell.value = true := by
    intro id name mock m cellId records found state
    have declared : stage.DeclaresAt id name .property (mock.bindingOf m) :=
      ⟨mock, m, found, h.fits found state, rfl⟩
    obtain ⟨cell, there, b, mem, label⟩ :=
      sound.properties declared (by rw [held?_of_at found, state]; rfl)
    -- The label is that of the property, so the cell is held to the property itself.
    obtain ⟨known, accepts⟩ := sound.cells (cell_eq_ok_iff.1 there) b mem
    obtain rfl := binding_eq_of_label distinct known ⟨id, name, declared⟩ label
    exact ⟨cell, there, accepts⟩
  refine ⟨fields, properties, ?_⟩
  intro id name reply answered
  have effect := stage.begin_effect (.get id name)
  rw [answered] at effect
  generalize (stage.begin (.get id name)).2 = after at effect
  cases effect with
  | readField found state => exact ⟨_, _, _, found, rfl, fields found state⟩
  | readProperty found state there =>
    obtain ⟨cell, here, accepts⟩ := properties found state
    obtain rfl := Except.ok.inj (there.symm.trans here)
    exact ⟨_, _, _, found, rfl, accepts⟩

end Stage

namespace Session

variable {steps : List Step} {stage : Stage}

theorem sound (session : Session steps stage) : stage.Sound := by
  induction session with
  | start => exact .empty
  | @step _ stage operation session ih =>
    exact (stage.begin_effect operation).sound session.wellFormed ih

/-- On every stage of a session whose properties have distinct labels, fields and properties are
    well typed. -/
theorem typed (session : Session steps stage) (distinct : stage.propertyLabels.Nodup) :
    stage.Typed :=
  session.sound.wellTyped session.wellFormed distinct

end Session

/-- A session with two mocks that share a cell. It was the cell of one of them before it was
    attached to the other one, which had a cell of its own, and is written through that. -/
def Sample.sharing : List Operation :=
  [.set ⟨1⟩ "meaning_of_life" (.str "reflection"),
    .attach ⟨1⟩ "meaning_of_life" ⟨0⟩,
    .set ⟨1⟩ "meaning_of_life" (.str "none"),
    .set ⟨0⟩ "meaning_of_life" (.str "justice"),
    .set ⟨0⟩ "age" (.int 28),
    .createMock ⟨0, philosopherSurface⟩ (.named (some "Zeno")),
    .createMock ⟨0, philosopherSurface⟩ (.named none)]

theorem Session.typed_sharing :
    (performed Sample.sharing).2.propertyLabels.Nodup ∧
      (performed Sample.sharing).2.held? ⟨1⟩ "meaning_of_life" = some (.cell ⟨0⟩) ∧
      (performed Sample.sharing).2.Typed := by
  have distinct : (performed Sample.sharing).2.propertyLabels.Nodup := by decide +kernel
  exact ⟨distinct, rfl, (Session.of_performed Sample.sharing).typed distinct⟩

end Understudy
