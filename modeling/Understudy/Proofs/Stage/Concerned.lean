import Understudy.Proofs.Stage.Viewpoint

/-!
# Operations that concern a member

Two stages that look alike from a member answer every operation that concerns it alike, and look
alike behind it. Other mocks, other members and other cells have no part in it: what the member is
asked is settled by its own mock, its own state and its own cells.

* `Viewpoint.Agrees.coincide`: the same concern comes to the same on both stages.
-/

namespace Understudy

/-! ## Mocks that are alike -/

namespace Mock.Alike

variable {a b : Mock} {m n : MockMember}

theorem memberLabel (alike : a.Alike b) (name : String) :
    a.memberLabel name = b.memberLabel name := by
  rw [Mock.memberLabel, Mock.memberLabel, alike.label]

theorem wrongKind (alike : a.Alike b) (spec : m.spec = n.spec) (expected : Expectation) :
    a.wrongKind m expected = b.wrongKind n expected := by
  rw [Mock.wrongKind, Mock.wrongKind, alike.memberLabel, spec]

theorem matcherOf (alike : a.Alike b) (name : String) (pattern : Pattern) :
    a.matcherOf name pattern = b.matcherOf name pattern := by
  cases pattern <;> simp only [Mock.matcherOf, alike.memberLabel, alike.id]

theorem outcomeFault? (alike : a.Alike b) (spec : m.spec = n.spec) :
    a.outcomeFault? m = b.outcomeFault? n := by
  funext outcome
  cases outcome <;> simp only [Mock.outcomeFault?, alike.memberLabel, alike.settings, spec]

theorem fieldFault? (alike : a.Alike b) (spec : m.spec = n.spec) (value : Value) :
    a.fieldFault? m value = b.fieldFault? n value := by
  simp only [Mock.fieldFault?, alike.memberLabel, alike.settings, spec]

/-- What is missing on one of them is missing on the other. -/
theorem missing (alike : a.Alike b) (ha : a.WellFormed) (hb : b.WellFormed) {name : String}
    {fault : Fault} (missing : a.member name = .error fault) : b.member name = .error fault := by
  cases there : b.member name with
  | ok m =>
    obtain ⟨_, found, -⟩ := alike.member ha hb there
    cases missing.symm.trans found
  | error other =>
    unfold Mock.member at missing there
    split at missing
    · cases missing
    · split at there
      · cases there
      · rw [← missing, ← there, alike.label, alike.surface]

end Mock.Alike

theorem MockMember.draw_of_spec {m n : MockMember} (spec : m.spec = n.spec) (rules : Rules)
    (arguments : Arguments) : m.draw rules arguments = n.draw rules arguments := by
  rw [draw, draw, spec]

/-- Whether a cell may be held to a property is a matter of its value. -/
theorem Cell.bind_cases {cell cell' : Cell} (same : cell.value = cell'.value)
    (binding : CellBinding) :
    (∃ fault, cell.bind binding = .error fault ∧ cell'.bind binding = .error fault) ∨
      ∃ after after', cell.bind binding = .ok after ∧ cell'.bind binding = .ok after' := by
  simp only [bind, same]
  cases binding.fault? cell'.value with
  | some fault => exact .inl ⟨fault, rfl, rfl⟩
  | none =>
    simp only
    split <;> split <;> exact .inr ⟨_, _, rfl, rfl⟩

namespace Viewpoint

variable {view : Viewpoint} {names names' : Naming} {stage stage' : Stage}
  {mock mock' : Mock} {m m' : MockMember} {place place' : CellId}

/-! ## Changes that leave stages alike -/

namespace Agrees

theorem putMock (h : view.Agrees names names' stage stage') (wf : stage.WellFormed)
    (wf' : stage'.WellFormed) (there : stage.mock view.id = .ok mock)
    (there' : stage'.mock view.id = .ok mock') (alike : mock.Alike mock') {new new' : Mock}
    (keeps : new.Alike mock) (keeps' : new'.Alike mock')
    (state : MemberState.Twin (names.Same names') (new.stateOf? view.name)
      (new'.stateOf? view.name)) :
    view.Agrees names names' (stage.putMock new) (stage'.putMock new') := by
  constructor
  case mock =>
    refine .inl ⟨new, new', ?_, ?_, (keeps.trans alike).trans keeps'.symm⟩
    · rw [wf.mock_putMock there new keeps.id, if_pos rfl]
    · rw [wf'.mock_putMock there' new' keeps'.id, if_pos rfl]
  case state =>
    rw [wf.stateOf?_putMock there new keeps.id, wf'.stateOf?_putMock there' new' keeps'.id,
      if_pos rfl, if_pos rfl]
    exact state
  case cells => exact h.cells

/-- A member gets another state, with a record or without. -/
theorem setState (h : view.Agrees names names' stage stage') (wf : stage.WellFormed)
    (wf' : stage'.WellFormed) (found : stage.At view.id view.name mock m)
    (found' : stage'.At view.id view.name mock' m') (alike : mock.Alike mock')
    {state state' : MemberState}
    (twin : MemberState.Twin (names.Same names') (some state) (some state')) :
    view.Agrees names names' (stage.putMock (mock.setState view.name state))
        (stage'.putMock (mock'.setState view.name state')) ∧
      view.Agrees names names' (stage.putMock (mock.setState view.name state).advance)
        (stage'.putMock (mock'.setState view.name state').advance) := by
  have put : (mock.setState view.name state).stateOf? view.name = some state := by
    rw [Mock.stateOf?_setState found.2, if_pos rfl]
  have put' : (mock'.setState view.name state').stateOf? view.name = some state' := by
    rw [Mock.stateOf?_setState found'.2, if_pos rfl]
  have keeps := mock.alike_setState view.name state
  have keeps' := mock'.alike_setState view.name state'
  rw [← put, ← put'] at twin
  exact ⟨h.putMock wf wf' found.1 found'.1 alike keeps keeps' twin,
    h.putMock wf wf' found.1 found'.1 alike keeps.advance keeps'.advance twin⟩

/-- The cells of one name hold the same once they are made. -/
theorem exists_cell (h : view.Agrees names names' stage stage')
    (same : names.Same names' place place') (there : place.index < stage.cells.length)
    (there' : place'.index < stage'.cells.length) :
    ∃ cell, stage.cell place = .ok cell ∧ stage'.cell place' = .ok cell := by
  obtain ⟨x, named, named'⟩ := same
  have contents := h.cells named named'
  rw [cellAs, cellAs, List.getElem?_eq_getElem there, List.getElem?_eq_getElem there'] at contents
  refine ⟨stage.cells[place.index], ?_, ?_⟩
  · exact Stage.cell_eq_ok_iff.2 (List.getElem?_eq_getElem there)
  · rw [Stage.cell_eq_ok_iff, List.getElem?_eq_getElem there']
    exact congrArg some contents.symm

/-- A cell may be put under one name in both. -/
theorem put_cells (h : view.Agrees names names' stage stage')
    (same : names.Same names' place place') {after after' : Stage} {new : Cell}
    (put : ∀ i, after.cells[i]? = if i = place.index then some new else stage.cells[i]?)
    (put' : ∀ i, after'.cells[i]? = if i = place'.index then some new else stage'.cells[i]?)
    {cell cell' : CellId} {x : CellName} (named : names.name? cell = some x)
    (named' : names'.name? cell' = some x) :
    view.cellAs after cell x = view.cellAs after' cell' x := by
  obtain ⟨y, called, called'⟩ := same
  rw [cellAs, cellAs, put, put']
  by_cases here : x = y
  · subst here
    obtain rfl := names.injective named called
    obtain rfl := names'.injective named' called'
    rw [if_pos rfl, if_pos rfl]
  · have other : cell.index ≠ place.index := fun index => by
      obtain rfl := CellId.ext index
      exact here (Option.some.inj (named.symm.trans called))
    have other' : cell'.index ≠ place'.index := fun index => by
      obtain rfl := CellId.ext index
      exact here (Option.some.inj (named'.symm.trans called'))
    rw [if_neg other, if_neg other']
    exact h.cells named named'

theorem putCell (h : view.Agrees names names' stage stage')
    (same : names.Same names' place place') {old old' : Cell} (there : stage.cell place = .ok old)
    (there' : stage'.cell place' = .ok old') (new : Cell) :
    view.Agrees names names' (stage.putCell place new) (stage'.putCell place' new) :=
  ⟨h.mock, h.state, h.put_cells same (Stage.getElem?_putCell there new)
    (Stage.getElem?_putCell there' new)⟩

theorem createCell (h : view.Agrees names names' stage stage')
    (same : names.Same names' ⟨stage.cells.length⟩ ⟨stage'.cells.length⟩) (new : Cell) :
    view.Agrees names names' (stage.createCell new).2 (stage'.createCell new).2 :=
  ⟨h.mock, h.state, h.put_cells same (Stage.getElem?_createCell stage new)
    (Stage.getElem?_createCell stage' new)⟩

end Agrees

/-! ## Operations on the member -/

/-- Two operations come to the same as far as the member is concerned. -/
structure Coincide (view : Viewpoint) (names names' : Naming)
    (one other : Stage.Progress × Stage) : Prop where
  progress : one.1.unnumbered = other.1.unnumbered
  agrees : view.Agrees names names' one.2 other.2

namespace Agrees

variable {operation operation' : Operation}

/-- Both operations are refused alike, or find the member alike. -/
theorem coincide_of_at (h : view.Agrees names names' stage stage') (wf : stage.WellFormed)
    (wf' : stage'.WellFormed) (target : operation.target? = some (view.id, view.name))
    (target' : operation'.target? = some (view.id, view.name))
    (present : ∀ mock mock' m m', stage.At view.id view.name mock m →
      stage'.At view.id view.name mock' m' → mock.Alike mock' → m.spec = m'.spec →
      MemberState.Twin (names.Same names') (some m.state) (some m'.state) →
      view.Coincide names names' (stage.begin operation) (stage'.begin operation')) :
    view.Coincide names names' (stage.begin operation) (stage'.begin operation') := by
  -- Without the mock or the member both operations end the same way.
  rcases h.mock with ⟨mock, mock', there, there', alike⟩ | ⟨absent, absent'⟩
  · have ok := wf.of_mock there
    have ok' := wf'.of_mock there'
    rcases hm : mock.member view.name with fault | m
    · rw [Stage.begin_of_missing target there hm,
        Stage.begin_of_missing target' there' (alike.missing ok ok' hm)]
      exact ⟨rfl, h⟩
    · obtain ⟨m', hm', spec⟩ := alike.symm.member ok' ok hm
      have state := h.state
      rw [Stage.stateOf?_of_at ⟨there, hm⟩, Stage.stateOf?_of_at ⟨there', hm'⟩] at state
      exact present mock mock' m m' ⟨there, hm⟩ ⟨there', hm'⟩ alike spec.symm state
  · have unknown : stage.mock view.id = .error .unknownMock := by
      rw [Stage.mock, List.getElem?_eq_none absent]
    have unknown' : stage'.mock view.id = .error .unknownMock := by
      rw [Stage.mock, List.getElem?_eq_none absent']
    rw [Stage.begin_of_unknown target unknown, Stage.begin_of_unknown target' unknown']
    exact ⟨rfl, h⟩

theorem call (h : view.Agrees names names' stage stage') (wf : stage.WellFormed)
    (wf' : stage'.WellFormed) (arguments : Arguments) :
    view.Coincide names names' (stage.begin (.call view.id view.name arguments))
      (stage'.begin (.call view.id view.name arguments)) := by
  refine h.coincide_of_at wf wf' rfl rfl fun mock mock' m m' found found' alike spec twin => ?_
  generalize hs : m.state = s at twin
  generalize hs' : m'.state = s' at twin
  cases twin with
  | @callable records records' rules args =>
    rcases fits : m.spec.mismatch? mock.settings.coercion arguments with _ | mismatch
    · have fits' : m'.spec.mismatch? mock'.settings.coercion arguments = none := by
        rw [← spec, ← alike.settings, fits]
      rw [Stage.begin_call_of_fits found hs fits, Stage.begin_call_of_fits found' hs' fits',
        MockMember.draw_of_spec spec]
      refine ⟨rfl, (h.setState wf wf' found found' alike (.callable ?_)).2⟩
      simp [args, Mock.recordOf]
    · have fits' : m'.spec.mismatch? mock'.settings.coercion arguments = some mismatch := by
        rw [← spec, ← alike.settings, fits]
      rw [Stage.begin_call_of_mismatch found hs fits, Stage.begin_call_of_mismatch found' hs' fits',
        alike.memberLabel]
      exact ⟨rfl, h⟩
  | field | unbacked | backed =>
    simp only [Stage.begin, Stage.beginCall, Mock.acceptCall, found.1, found.2, found'.1, found'.2,
      hs, hs', Stage.ok_bind, Stage.error_bind, alike.wrongKind spec]
    exact ⟨rfl, h⟩

/-- What a member is backed by is there, and known by name. -/
theorem backing (h : view.Agrees names names' stage stage') (apart : view.Apart names stage)
    (apart' : view.Apart names' stage') (found : stage.At view.id view.name mock m)
    (found' : stage'.At view.id view.name mock' m') {records records' : List Record}
    (state : m.state = .property (some place) records)
    (state' : m'.state = .property (some place') records')
    (same : names.Same names' place place') :
    ∃ cell, stage.cell place = .ok cell ∧ stage'.cell place' = .ok cell := by
  have held : stage.held? view.id view.name = some (.cell place) := by
    rw [Stage.held?_of_at found, state]
    rfl
  have held' : stage'.held? view.id view.name = some (.cell place') := by
    rw [Stage.held?_of_at found', state']
    rfl
  exact h.exists_cell same (apart.held held).1 (apart'.held held').1

theorem get (h : view.Agrees names names' stage stage') (wf : stage.WellFormed)
    (wf' : stage'.WellFormed) (apart : view.Apart names stage)
    (apart' : view.Apart names' stage') :
    view.Coincide names names' (stage.begin (.get view.id view.name))
      (stage'.begin (.get view.id view.name)) := by
  refine h.coincide_of_at wf wf' rfl rfl fun mock mock' m m' found found' alike spec twin => ?_
  generalize hs : m.state = s at twin
  generalize hs' : m'.state = s' at twin
  simp only [Stage.begin, Stage.get, found.1, found.2, found'.1, found'.2, hs, hs', Stage.ok_bind]
  cases twin with
  | callable =>
    rw [alike.wrongKind spec]
    exact ⟨rfl, h⟩
  | @field value =>
    cases value with
    | none =>
      rw [alike.memberLabel]
      exact ⟨rfl, h⟩
    | some value => exact ⟨rfl, h⟩
  | unbacked =>
    rw [alike.memberLabel]
    exact ⟨rfl, h⟩
  | backed args same =>
    obtain ⟨cell, there, there'⟩ := h.backing apart apart' found found' hs hs' same
    simp only [there, there', Stage.ok_bind]
    refine ⟨rfl, (h.setState wf wf' found found' alike (.backed ?_ same)).2⟩
    simp [args, Mock.recordOf]

/-- The cell that the member makes for itself is called so. -/
theorem own_of_unbacked {records : List Record} {value : Value} {cell : Cell}
    (found : stage.At view.id view.name mock m) (state : m.state = .property none records)
    (bound : (Cell.ofValue value).bind (mock.bindingOf m) = .ok cell)
    (admits : view.Admits names stage (.set view.id view.name value)) :
    names.name? ⟨stage.cells.length⟩ = some .own := by
  have more : (stage.begin (.set view.id view.name value)).2.cells.length =
      stage.cells.length + 1 := by
    simp only [Stage.begin, Stage.set, found.1, found.2, state, Stage.ok_bind, bound]
    exact List.length_append ..
  rw [admits (by omega), if_pos ⟨rfl, rfl⟩]

/-- A cell of the member is written. -/
theorem writeCell (h : view.Agrees names names' stage stage')
    (same : names.Same names' place place') {cell : Cell} (there : stage.cell place = .ok cell)
    (there' : stage'.cell place' = .ok cell) (value : Value) :
    view.Coincide names names' (stage.settled ((stage.write place value).map (.done, ·)))
      (stage'.settled ((stage'.write place' value).map (.done, ·))) := by
  simp only [Stage.write, there, there', Stage.ok_bind]
  cases cell.write value with
  | error fault => exact ⟨rfl, h⟩
  | ok after => exact ⟨rfl, h.putCell same there there' after⟩

theorem set (h : view.Agrees names names' stage stage') (wf : stage.WellFormed)
    (wf' : stage'.WellFormed) (apart : view.Apart names stage)
    (apart' : view.Apart names' stage') {value : Value}
    (admits : view.Admits names stage (.set view.id view.name value))
    (admits' : view.Admits names' stage' (.set view.id view.name value)) :
    view.Coincide names names' (stage.begin (.set view.id view.name value))
      (stage'.begin (.set view.id view.name value)) := by
  refine h.coincide_of_at wf wf' rfl rfl fun mock mock' m m' found found' alike spec twin => ?_
  generalize hs : m.state = s at twin
  generalize hs' : m'.state = s' at twin
  simp only [Stage.begin, Stage.set, found.1, found.2, found'.1, found'.2, hs, hs', Stage.ok_bind]
  cases twin with
  | callable =>
    rw [alike.wrongKind spec]
    exact ⟨rfl, h⟩
  | field =>
    rw [alike.fieldFault? spec]
    simp only
    cases mock'.fieldFault? m' value with
    | some fault => exact ⟨rfl, h⟩
    | none => exact ⟨rfl, (h.setState wf wf' found found' alike .field).1⟩
  | unbacked args =>
    have binding := alike.bindingOf spec
    rcases bound : (Cell.ofValue value).bind (mock.bindingOf m) with fault | cell
    · rw [← binding, bound]
      exact ⟨rfl, h⟩
    · have bound' := bound
      rw [binding] at bound'
      -- Both stages make a cell of their own for the member, under one name.
      have same := own_of_unbacked found hs bound admits
      have same' := own_of_unbacked found' hs' bound' admits'
      rw [bound']
      have made := h.createCell ⟨.own, same, same'⟩ cell
      have behind : (stage.createCell cell).2.WellFormed := wf.of_mocks_eq rfl
      have behind' : (stage'.createCell cell).2.WellFormed := wf'.of_mocks_eq rfl
      exact ⟨rfl, (made.setState behind behind' found found' alike
        (.backed args ⟨.own, same, same'⟩)).1⟩
  | backed args same =>
    obtain ⟨cell, there, there'⟩ := h.backing apart apart' found found' hs hs' same
    exact h.writeCell same there there' value

theorem declare (h : view.Agrees names names' stage stage') (wf : stage.WellFormed)
    (wf' : stage'.WellFormed) (pattern : Pattern) (outcomes : List Outcome) :
    view.Coincide names names' (stage.begin (.declare view.id view.name pattern outcomes))
      (stage'.begin (.declare view.id view.name pattern outcomes)) := by
  refine h.coincide_of_at wf wf' rfl rfl fun mock mock' m m' found found' alike spec twin => ?_
  generalize hs : m.state = s at twin
  generalize hs' : m'.state = s' at twin
  simp only [Stage.begin, Stage.declare, Mock.declare, found.1, found.2, found'.1, found'.2, hs,
    hs', Stage.ok_bind]
  cases twin with
  | callable args =>
    simp only [alike.matcherOf, alike.outcomeFault? spec, alike.memberLabel]
    rcases mock'.matcherOf view.name pattern with fault | matcher
    · exact ⟨rfl, h⟩
    · simp only [Stage.ok_bind]
      rcases outcomes.findSome? (mock'.outcomeFault? m') with _ | fault
      · rcases OutcomeQueue.ofList? outcomes with _ | queue
        · exact ⟨rfl, h⟩
        · exact ⟨rfl, (h.setState wf wf' found found' alike (.callable args)).1⟩
      · exact ⟨rfl, h⟩
  | field | unbacked | backed =>
    rw [alike.wrongKind spec]
    exact ⟨rfl, h⟩

theorem attach (h : view.Agrees names names' stage stage') (wf : stage.WellFormed)
    (wf' : stage'.WellFormed) (same : names.Same names' place place')
    (there : place.index < stage.cells.length) (there' : place'.index < stage'.cells.length) :
    view.Coincide names names' (stage.begin (.attach view.id view.name place))
      (stage'.begin (.attach view.id view.name place')) := by
  refine h.coincide_of_at wf wf' rfl rfl fun mock mock' m m' found found' alike spec twin => ?_
  generalize hs : m.state = s at twin
  generalize hs' : m'.state = s' at twin
  obtain ⟨cell, here, here'⟩ := h.exists_cell same there there'
  -- Whatever the property was backed by before, it is backed by the cell now.
  have backed : ∀ {after records records'}, List.map Record.arguments records =
      List.map Record.arguments records' → view.Agrees names names'
        ((stage.putCell place after).putMock
          (mock.setState view.name (.property (some place) records)))
        ((stage'.putCell place' after).putMock
          (mock'.setState view.name (.property (some place') records'))) := by
    intro after records records' args
    have put := h.putCell same here here' after
    have behind : (stage.putCell place after).WellFormed := wf.of_mocks_eq rfl
    have behind' : (stage'.putCell place' after).WellFormed := wf'.of_mocks_eq rfl
    exact (put.setState behind behind' found found' alike (.backed args same)).1
  simp only [Stage.begin, Stage.attach, found.1, found.2, found'.1, found'.2, hs, hs', here, here',
    Stage.ok_bind, alike.bindingOf spec]
  cases twin with
  | callable | field =>
    rw [alike.wrongKind spec]
    exact ⟨rfl, h⟩
  | unbacked args | backed args =>
    simp only
    cases cell.bind (mock'.bindingOf m') with
    | error fault => exact ⟨rfl, h⟩
    | ok after => exact ⟨rfl, backed args⟩

/-- A cell that the member is not given is refused, for what it holds. -/
theorem offer (h : view.Agrees names names' stage stage') (wf : stage.WellFormed)
    (wf' : stage'.WellFormed) (admits : view.Admits names stage (.attach view.id view.name place))
    (admits' : view.Admits names' stage' (.attach view.id view.name place'))
    (unnamed : ∀ n, names.name? place ≠ some (.given n))
    (unnamed' : ∀ n, names'.name? place' ≠ some (.given n))
    (same : stage.cells[place.index]?.map (·.value) = stage'.cells[place'.index]?.map (·.value)) :
    view.Coincide names names' (stage.begin (.attach view.id view.name place))
      (stage'.begin (.attach view.id view.name place')) := by
  -- It would be one of its cells otherwise, and have a name.
  have refused : ∀ {names : Naming} {stage : Stage} {place : CellId},
      view.Admits names stage (.attach view.id view.name place) →
      (∀ n, names.name? place ≠ some (.given n)) →
      (stage.begin (.attach view.id view.name place)).1 ≠ .finished (.ok .done) := by
    intro names stage place admits unnamed done
    obtain ⟨x, named⟩ := Option.isSome_iff_exists.1 ((admits.2 done).2 ⟨rfl, rfl⟩)
    cases x with
    | own => exact (admits.1 _ named).1 rfl
    | given n => exact unnamed n named
  have undone := refused admits unnamed
  have undone' := refused admits' unnamed'
  refine h.coincide_of_at wf wf' rfl rfl fun mock mock' m m' found found' alike spec twin => ?_
  generalize hs : m.state = s at twin
  generalize hs' : m'.state = s' at twin
  simp only [Stage.begin, Stage.attach, found.1, found.2, found'.1, found'.2, hs, hs', Stage.cell,
    Stage.ok_bind, alike.bindingOf spec] at undone undone' ⊢
  cases twin with
  | callable | field =>
    rw [alike.wrongKind spec]
    exact ⟨rfl, h⟩
  | unbacked | backed =>
    cases there : stage.cells[place.index]? <;> cases there' : stage'.cells[place'.index]? <;>
      rw [there, there'] at same <;> simp only [there, there', Stage.ok_bind] at undone undone' ⊢
    · exact ⟨rfl, h⟩
    · cases same
    · cases same
    · next cell cell' =>
      obtain ⟨fault, refusal, refusal'⟩ | ⟨after, after', bound, bound'⟩ :=
        Cell.bind_cases (Option.some.inj same) (mock'.bindingOf m')
      · rw [refusal, refusal']
        exact ⟨rfl, h⟩
      · rw [bound] at undone
        exact absurd rfl undone

theorem records (h : view.Agrees names names' stage stage') (wf : stage.WellFormed)
    (wf' : stage'.WellFormed) :
    view.Coincide names names' (stage.begin (.records view.id view.name))
      (stage'.begin (.records view.id view.name)) := by
  refine h.coincide_of_at wf wf' rfl rfl fun mock mock' m m' found found' alike spec twin => ?_
  simp only [Stage.begin, Stage.records, found.1, found.2, found'.1, found'.2, Stage.ok_bind,
    alike.memberLabel]
  refine ⟨?_, h⟩
  have log : m.state.records.map Record.unnumbered = m'.state.records.map Record.unnumbered := by
    generalize m.state = s at twin
    generalize m'.state = s' at twin
    cases twin with
    | field => rfl
    | callable args | unbacked args | backed args => exact Record.unnumbered_eq args
  exact congrArg (fun records => Stage.Progress.finished (.ok (.records _ records))) log

theorem reset (h : view.Agrees names names' stage stage') (wf : stage.WellFormed)
    (wf' : stage'.WellFormed) :
    view.Coincide names names' (stage.begin (.reset view.id))
      (stage'.begin (.reset view.id)) := by
  simp only [Stage.begin]
  rcases h.mock with ⟨mock, mock', there, there', alike⟩ | ⟨absent, absent'⟩
  · rw [there, there']
    refine ⟨rfl, h.putMock wf wf' there there' alike mock.alike_reset mock'.alike_reset ?_⟩
    have state := h.state.reset
    rw [Stage.stateOf?_of_mock there, Stage.stateOf?_of_mock there'] at state
    rw [Mock.stateOf?_reset, Mock.stateOf?_reset]
    exact state
  · rw [Stage.mock, Stage.mock, List.getElem?_eq_none absent, List.getElem?_eq_none absent']
    exact ⟨rfl, h⟩

/-- The mock of the member is made in both. -/
theorem createMock (h : view.Agrees names names' stage stage') (surface : Shared Surface)
    (settings : Settings) (next : stage.mocks.length = view.id.index)
    (next' : stage'.mocks.length = view.id.index) :
    view.Coincide names names' (stage.begin (.createMock surface settings))
      (stage'.begin (.createMock surface settings)) := by
  have made : ∀ {stage : Stage}, stage.mocks.length = view.id.index →
      (stage.createMock surface settings).2.mock view.id =
        .ok (Mock.create view.id surface settings) := by
    intro stage next
    rw [Stage.mock_eq_ok_iff, Stage.createMock, ← next, List.getElem?_concat_length]
    simp [next]
  refine ⟨?_, ⟨.inl ⟨_, _, made next, made next', .refl _⟩, ?_, h.cells⟩⟩
  · simp only [Stage.begin, Stage.createMock, next, next']
  · change MemberState.Twin _ ((stage.createMock surface settings).2.stateOf? view.id view.name)
      ((stage'.createMock surface settings).2.stateOf? view.id view.name)
    rw [Stage.stateOf?_of_mock (made next), Stage.stateOf?_of_mock (made next'),
      Mock.stateOf?_create]
    cases surface.value.members.find? (·.name == view.name) with
    | none => exact .absent
    | some spec =>
      rw [Option.map_some]
      cases spec.kind with
      | method | callable => exact .callable rfl
      | field => exact .field
      | property => exact .unbacked rfl

/-- A cell that the member is given is written. -/
theorem write (h : view.Agrees names names' stage stage')
    (same : names.Same names' place place') (there : place.index < stage.cells.length)
    (there' : place'.index < stage'.cells.length) (value : Value) :
    view.Coincide names names' (stage.begin (.write place value))
      (stage'.begin (.write place' value)) := by
  obtain ⟨cell, here, here'⟩ := h.exists_cell same there there'
  exact h.writeCell same here here' value

end Agrees

/-! ## All of them -/

/-- What an operation is that concerns the member. -/
inductive Concerns (view : Viewpoint) (names : Naming) (stage : Stage) :
    Operation → Concern → Prop
  | operation {operation : Operation} : Concerns view names stage operation (.operation operation)
  | attach {cell : CellId} {n : Nat} : names.name? cell = some (.given n) →
      Concerns view names stage (.attach view.id view.name cell) (.attach n)
  | offer {cell : CellId} {value : Option Value} : (∀ n, names.name? cell ≠ some (.given n)) →
      value = stage.cells[cell.index]?.map (·.value) →
      Concerns view names stage (.attach view.id view.name cell) (.offer value)
  | write {cell : CellId} {n : Nat} {value : Value} : names.name? cell = some (.given n) →
      Concerns view names stage (.write cell value) (.write n value)

variable {operation operation' : Operation} {concern : Concern}

theorem Concerns.of_concern? (concerns : view.concern? names stage operation = some concern) :
    view.Concerns names stage operation concern := by
  cases operation with
  | attach target member cell =>
    rw [concern?] at concerns
    split at concerns
    · next same =>
      obtain ⟨rfl, rfl⟩ := same
      split at concerns
      · next named => exact Option.some.inj concerns ▸ .attach named
      · next unnamed => exact Option.some.inj concerns ▸ .offer unnamed rfl
    · cases concerns
  | write cell value =>
    rw [concern?] at concerns
    split at concerns
    · next named => exact Option.some.inj concerns ▸ .write named
    · cases concerns
  | createCell | peek => cases concerns
  | createMock | call | get | set | declare | records | reset =>
    obtain ⟨-, same⟩ := Option.ite_none_right_eq_some.1 concerns
    exact Option.some.inj same ▸ .operation

/-- The same concern comes to the same on both stages. -/
theorem Agrees.coincide (h : view.Agrees names names' stage stage') (wf : stage.WellFormed)
    (wf' : stage'.WellFormed) (apart : view.Apart names stage) (apart' : view.Apart names' stage')
    (admits : view.Admits names stage operation) (admits' : view.Admits names' stage' operation')
    (concerns : view.concern? names stage operation = some concern)
    (concerns' : view.concern? names' stage' operation' = some concern) :
    view.Coincide names names' (stage.begin operation) (stage'.begin operation') := by
  have shape := Concerns.of_concern? concerns
  have shape' := Concerns.of_concern? concerns'
  cases shape with
  | operation =>
    cases shape'
    cases operation with
    | call | get | set | declare | records =>
      have target := (Option.ite_none_right_eq_some.1 concerns).1
      obtain ⟨rfl, rfl⟩ := Prod.mk.inj (Option.some.inj target)
      first
        | exact h.call wf wf' _
        | exact h.get wf wf' apart apart'
        | exact h.set wf wf' apart apart' admits admits'
        | exact h.declare wf wf' _ _
        | exact h.records wf wf'
    | createMock surface settings =>
      exact h.createMock surface settings (Option.ite_none_right_eq_some.1 concerns).1
        (Option.ite_none_right_eq_some.1 concerns').1
    | reset =>
      obtain rfl := (Option.ite_none_right_eq_some.1 concerns).1
      exact h.reset wf wf'
    -- These are told as concerns of their own.
    | attach | write =>
      simp only [concern?] at concerns
      (repeat' split at concerns) <;> cases concerns
    | createCell | peek => cases concerns
  | attach named =>
    cases shape' with
    | attach named' =>
      exact h.attach wf wf' ⟨_, named, named'⟩ (admits.1 _ named).2 (admits'.1 _ named').2
  | offer unnamed offered =>
    cases shape' with
    | offer unnamed' offered' =>
      exact h.offer wf wf' admits admits' unnamed unnamed' (offered.symm.trans offered')
  | write named =>
    cases shape' with
    | write named' =>
      exact h.write ⟨_, named, named'⟩ (admits _ named).2 (admits' _ named').2 _

end Viewpoint

end Understudy
