import Understudy.Proofs.Stage.Backing
import Understudy.Proofs.Stage.Nesting

/-!
# What is read back

What a field or a property tells when it is read is known from the steps of the session alone,
without a look at the stage. A field tells what it was last set to. The value of a property is kept
in a cell: in the one that was last attached to it, or in one of its own that was made when it was
set and had none. Whoever writes to that cell, under its own name or through any of the properties
that have it, writes what the property tells.

The stage knows cells by numbers, and nothing keeps an operation from naming the number of a cell
that a property has made for itself. So the steps have to name only cells that were handed out.

* `Remembers`: where the stage keeps what the steps have written.
* `Session.exists_remembers`: it is kept somewhere on every stage of a session, each thing apart.
* `Session.readsBack`: what is read is what was last written.
-/

namespace Understudy

/-! ## What the steps tell -/

/-- Where a value is kept. -/
inductive Slot where
  /-- A cell that was handed out. -/
  | handle (cell : CellId)
  /-- What the member made for itself when it was set. -/
  | own (id : MockId) (name : String)
deriving DecidableEq

namespace Step

/-- The cell that the step has handed out. -/
def handsOut? : Step → Option CellId
  | ⟨_, .finished (.ok (.cell cell))⟩ => some cell
  | _ => none

/-- The value that the step has set the member to. -/
def set? (id : MockId) (name : String) : Step → Option Value
  | ⟨.set target member value, .finished (.ok .done)⟩ =>
    if target = id ∧ member = name then some value else none
  | _ => none

/-- The cell that the step has attached to the member. -/
def attached? (id : MockId) (name : String) : Step → Option CellId
  | ⟨.attach target member cell, .finished (.ok .done)⟩ =>
    if target = id ∧ member = name then some cell else none
  | _ => none

/-- Whether the step has made a cell, written something or attached something. -/
def stores : Step → Bool
  | ⟨.createCell _, .finished (.ok (.cell _))⟩ | ⟨.set _ _ _, .finished (.ok .done)⟩
  | ⟨.attach _ _ _, .finished (.ok .done)⟩ | ⟨.write _ _, .finished (.ok .done)⟩ => true
  | _ => false

end Step

/-- The value that the member was last set to. -/
def lastSet? (id : MockId) (name : String) (steps : List Step) : Option Value :=
  steps.findSome? (·.set? id name)

/-- Where the value of the member is kept: in the cell that was last attached to it or else, once it
    was set, in what it made for itself. -/
def slot? (id : MockId) (name : String) (steps : List Step) : Option Slot :=
  match steps.findSome? (·.attached? id name) with
  | some cell => some (.handle cell)
  | none => (lastSet? id name steps).map fun _ => .own id name

/-- What the step has written behind the others, and where. A cell is made with a value. -/
def Step.written? (before : List Step) : Step → Option (Slot × Value)
  | ⟨.createCell value, .finished (.ok (.cell cell))⟩ => some (.handle cell, value)
  | ⟨.write cell value, .finished (.ok .done)⟩ => some (.handle cell, value)
  | ⟨.set id name value, .finished (.ok .done)⟩ =>
    some ((slot? id name before).getD (.own id name), value)
  | _ => none

/-- The value that was last written to the slot. -/
def lastWritten? (slot : Slot) : List Step → Option Value
  | [] => none
  | step :: before =>
    match step.written? before with
    | some (there, value) => if there = slot then some value else lastWritten? slot before
    | none => lastWritten? slot before

/-- Whether the cell was handed out. -/
def HandedOut (cell : CellId) (steps : List Step) : Prop := cell ∈ steps.filterMap Step.handsOut?

/-- The cell that the operation names. -/
def Operation.cell? : Operation → Option CellId
  | .attach _ _ cell | .write cell _ | .peek cell => some cell
  | _ => none

/-- Whether the operations of the steps name only cells that were handed out before. -/
def NamesHandedOut : List Step → Prop
  | [] => True
  | step :: before =>
    (∀ cell ∈ step.operation.cell?, HandedOut cell before) ∧ NamesHandedOut before

instance (cell : CellId) (steps : List Step) : Decidable (HandedOut cell steps) :=
  inferInstanceAs (Decidable (cell ∈ steps.filterMap Step.handsOut?))

instance NamesHandedOut.decidable : (steps : List Step) → Decidable (NamesHandedOut steps)
  | [] => .isTrue trivial
  | step :: before =>
    have := NamesHandedOut.decidable before
    inferInstanceAs (Decidable ((∀ cell ∈ step.operation.cell?, HandedOut cell before) ∧
      NamesHandedOut before))

section

variable {step : Step} {before : List Step} {id : MockId} {name : String} {slot there : Slot}
  {value : Value} {cell : CellId}

theorem Step.set?_self :
    Step.set? id name ⟨.set id name value, .finished (.ok .done)⟩ = some value :=
  if_pos ⟨rfl, rfl⟩

theorem Step.set?_other {target : MockId} {member : String}
    (different : ¬ (target = id ∧ member = name)) :
    Step.set? id name ⟨.set target member value, .finished (.ok .done)⟩ = none :=
  if_neg different

theorem Step.attached?_self :
    Step.attached? id name ⟨.attach id name cell, .finished (.ok .done)⟩ = some cell :=
  if_pos ⟨rfl, rfl⟩

theorem Step.attached?_other {target : MockId} {member : String}
    (different : ¬ (target = id ∧ member = name)) :
    Step.attached? id name ⟨.attach target member cell, .finished (.ok .done)⟩ = none :=
  if_neg different

theorem lastSet?_cons (set : step.set? id name = none) :
    lastSet? id name (step :: before) = lastSet? id name before := by
  rw [lastSet?, List.findSome?_cons, set]
  rfl

theorem slot?_cons (attached : step.attached? id name = none) (set : step.set? id name = none) :
    slot? id name (step :: before) = slot? id name before := by
  rw [slot?, List.findSome?_cons, attached, lastSet?_cons set]
  rfl

/-- A member that is set keeps its value where it kept it before, if it had one. -/
theorem slot?_cons_set (attached : step.attached? id name = none)
    (set : step.set? id name = some value) :
    slot? id name (step :: before) = some ((slot? id name before).getD (.own id name)) := by
  rw [slot?, slot?, List.findSome?_cons, attached, lastSet?, List.findSome?_cons, set]
  simp only
  cases before.findSome? (·.attached? id name) with
  | some cell => rfl
  | none => cases lastSet? id name before <;> rfl

theorem slot?_cons_attached (attached : step.attached? id name = some cell) :
    slot? id name (step :: before) = some (.handle cell) := by
  rw [slot?, List.findSome?_cons, attached]

/-- A member whose value is kept nowhere was never attached to or set. -/
theorem slot?_eq_none_iff : slot? id name before = none ↔
    ∀ step ∈ before, step.attached? id name = none ∧ step.set? id name = none := by
  rw [slot?]
  cases attached : before.findSome? (·.attached? id name) with
  | some cell =>
    obtain ⟨step, mem, there⟩ := List.exists_of_findSome?_eq_some attached
    simp only [reduceCtorEq, false_iff]
    intro none
    rw [(none step mem).1] at there
    cases there
  | none =>
    rw [Option.map_eq_none_iff, lastSet?, List.findSome?_eq_none_iff]
    exact ⟨fun set step mem => ⟨List.findSome?_eq_none_iff.1 attached step mem, set step mem⟩,
      fun none step mem => (none step mem).2⟩

theorem lastSet?_of_nowhere (nowhere : slot? id name before = none) :
    lastSet? id name before = none :=
  List.findSome?_eq_none_iff.2 fun step mem => (slot?_eq_none_iff.1 nowhere step mem).2

/-- What a member makes for itself is kept for no other. -/
theorem eq_of_slot?_own {target : MockId} {member : String}
    (kept : slot? id name before = some (.own target member)) : id = target ∧ name = member := by
  rw [slot?] at kept
  split at kept
  · cases kept
  · obtain ⟨_, _, same⟩ := Option.map_eq_some_iff.1 kept
    exact ⟨(Slot.own.inj same).1, (Slot.own.inj same).2⟩

theorem lastWritten?_cons (written : step.written? before = none) :
    lastWritten? slot (step :: before) = lastWritten? slot before := by
  rw [lastWritten?, written]

theorem lastWritten?_cons_written (written : step.written? before = some (there, value)) :
    lastWritten? slot (step :: before) =
      if there = slot then some value else lastWritten? slot before := by
  rw [lastWritten?, written]

/-- A step that stores nothing leaves what the steps tell. -/
theorem Step.of_idle (idle : step.stores = false) :
    step.set? id name = none ∧ step.attached? id name = none ∧ step.written? before = none := by
  unfold Step.stores at idle
  unfold Step.set? Step.attached? Step.written?
  split at idle <;> simp_all

theorem NamesHandedOut.of_append {more : List Step} (known : NamesHandedOut (more ++ before)) :
    NamesHandedOut before := by
  induction more with
  | nil => exact known
  | cons step more ih => exact ih known.2

theorem handedOut_cons : HandedOut cell (step :: before) ↔
    step.handsOut? = some cell ∨ HandedOut cell before := by
  rw [HandedOut, List.filterMap_cons]
  cases step.handsOut? with
  | none => simp [HandedOut]
  | some other => simp [HandedOut, eq_comm]

end

/-! ## Reading -/

/-- The kind of the members that hold such things: only fields hold values, and only properties
    hold cells. -/
def Held.kind : Held → MemberKind
  | .value _ => .field
  | .cell _ => .property

namespace Stage

variable {stage after : Stage} {operation : Operation} {progress : Progress} {id target : MockId}
  {name member : String} {mock : Mock} {m : MockMember} {state : MemberState}

/-- What reading a member tells, of which only its label, its kind and what it holds is known. -/
def reading (stage : Stage) (label : String) : MemberKind → Option Held → Answer
  | .field, some (.value value) => .ok (.value value)
  | .field, _ => .error (.unsetField label)
  | .property, some (.cell cellId) => (stage.cell cellId).map fun cell => .value cell.value
  | .property, _ => .error (.propertyNotStubbed label)
  | kind, _ => .error (.wrongMemberKind label kind .readable)

theorem begin_get (h : stage.WellFormed) (found : stage.At id name mock m) :
    (stage.begin (.get id name)).1 = .finished
      (stage.reading (mock.memberLabel name) m.spec.kind (stage.held? id name)) := by
  have fits := h.fits found rfl
  rw [held?_of_at found]
  simp only [begin, get, found.1, found.2, ok_bind]
  rcases state : m.state with ⟨records, rules⟩ | (_ | value) | ⟨_ | cellId, records⟩ <;>
    rw [state] at fits
  · rw [← Mock.name_of_member found.2]
    cases kind : m.spec.kind <;> simp_all [MemberState.Fits, MemberKind.isCallable, reading,
      settled, Except.map, Mock.wrongKind]
  · rw [show m.spec.kind = .field from fits]
    rfl
  · rw [show m.spec.kind = .field from fits]
    rfl
  · rw [show m.spec.kind = .property from fits]
    rfl
  · rw [show m.spec.kind = .property from fits]
    simp only [MemberState.held?, reading]
    cases stage.cell cellId <;> rfl

theorem kind_of_held? (h : stage.WellFormed) (found : stage.At id name mock m) (held : Held)
    (holds : stage.held? id name = some held) : m.spec.kind = held.kind := by
  have fits := h.fits found rfl
  rw [held?_of_at found] at holds
  rcases state : m.state with _ | (_ | _) | (_ | _) <;> rw [state] at fits holds <;>
    cases holds <;> exact fits

/-- A member whose state changes may go on holding what it held. -/
theorem held?_put_same (found : stage.At target member mock m)
    (put : after.stateOf? id name =
      if target = id ∧ member = name then some state else stage.stateOf? id name)
    (kept : state.held? = m.state.held?) : after.held? id name = stage.held? id name := by
  rw [held?_put put]
  split
  · next same =>
    obtain ⟨rfl, rfl⟩ := same
    rw [kept, held?_of_at found]
  · rfl

/-- An operation that stores nothing leaves the cells and what is held. -/
theorem Effect.of_idle (effect : Effect stage operation progress after) (h : stage.WellFormed)
    (idle : Step.stores ⟨operation, progress⟩ = false) :
    after.cells = stage.cells ∧ (∀ id name, after.held? id name = stage.held? id name) ∧
      Step.handsOut? ⟨operation, progress⟩ = none := by
  cases effect with
  | refused => exact ⟨rfl, fun _ _ => rfl, rfl⟩
  | createCell | writeField | writeBacked | writeUnbacked | attach | write => cases idle
  | readField | peek | records => exact ⟨rfl, fun _ _ => rfl, rfl⟩
  | @createMock surface settings =>
    refine ⟨rfl, fun id name => ?_, rfl⟩
    change (stage.createMock surface settings).2.held? id name = _
    rw [held?, held?]
    -- A new member holds nothing, like one that is not there.
    rcases stage.stateOf?_createMock surface settings id name with same | ⟨absent, kind, fresh⟩
    · rw [same]
    · rw [absent, fresh]
      cases kind <;> rfl
  | @call _ _ _ _ m _ rules found state =>
    refine ⟨rfl, fun id name => held?_put_same found (stateOf?_advance h found) (state ▸ rfl), ?_⟩
    cases (m.draw rules _).1 <;> rfl
  | readProperty found state =>
    exact ⟨rfl, fun id name => held?_put_same found (stateOf?_advance h found) (state ▸ rfl), rfl⟩
  | declare found state =>
    exact ⟨rfl, fun id name => held?_put_same found (stateOf?_setState h found) (state ▸ rfl), rfl⟩
  | @reset _ mock hmock =>
    refine ⟨rfl, fun id name => ?_, rfl⟩
    rw [held?, stateOf?_reset h hmock, held?]
    split
    · rw [Option.bind_map]
      congr 1
      exact funext MemberState.held?_reset
    · rfl

/-- What reads alike behind an operation that stores nothing reads alike behind many. -/
theorem Performs.reads_same {more : List Step} (performs : stage.Performs more after)
    (h : stage.WellFormed) (idle : ∀ step ∈ more, step.stores = false)
    (found : stage.At id name mock m) :
    (after.begin (.get id name)).1 = (stage.begin (.get id name)).1 := by
  induction more generalizing stage mock m with
  | nil => rw [performs_nil.1 performs]
  | cons step more ih =>
    obtain ⟨here, behind⟩ := performs_cons.1 performs
    have effect := stage.begin_effect step.operation
    have wf := effect.wellFormed h
    obtain ⟨mock', there, alike⟩ := effect.keeps h found.1
    obtain ⟨m', found', spec⟩ := alike.member (wf.of_mock there) (h.of_mock found.1) found.2
    rw [here] at effect
    obtain ⟨cells, held, -⟩ := effect.of_idle h (idle step List.mem_cons_self)
    rw [ih behind wf (fun step mem => idle step (List.mem_cons_of_mem _ mem)) ⟨there, found'⟩,
      begin_get h found, begin_get wf ⟨there, found'⟩, held, spec, Mock.memberLabel, alike.label,
      Mock.memberLabel]
    unfold reading Stage.cell
    rw [cells]

end Stage

/-! ## Where it is kept -/

/-- What a member holds if its value is kept as the steps tell. The place is the cell of the stage
    that a slot stands for. -/
inductive Kept (place : Slot → Option CellId) (steps : List Step) (id : MockId) (name : String) :
    Option Held → Prop
  | nothing : slot? id name steps = none → Kept place steps id name none
  | value {value : Value} : slot? id name steps = some (.own id name) →
      lastSet? id name steps = some value → Kept place steps id name (some (.value value))
  | cell {slot : Slot} {cellId : CellId} : slot? id name steps = some slot →
      place slot = some cellId → Kept place steps id name (some (.cell cellId))

/-- Where the stage keeps what the steps have written. -/
structure Remembers (steps : List Step) (stage : Stage) (place : Slot → Option CellId) :
    Prop where
  /-- Members hold what their slots stand for. -/
  kept : ∀ id name, Kept place steps id name (stage.held? id name)
  /-- A cell holds what was last written to the slot. -/
  written : ∀ {slot cellId}, place slot = some cellId →
    ∃ cell, stage.cell cellId = .ok cell ∧ lastWritten? slot steps = some cell.value
  /-- No cell stands for two slots. -/
  injective : ∀ {slot other cellId}, place slot = some cellId → place other = some cellId →
    slot = other
  /-- The cells that were handed out stand for themselves. -/
  handles : ∀ {cell cellId}, place (.handle cell) = some cellId ↔
    cellId = cell ∧ HandedOut cell steps
  /-- What has made a cell for itself has a cell. -/
  owners : ∀ {id name cellId}, place (.own id name) = some cellId →
    ∃ there, stage.held? id name = some (.cell there)

section

variable {steps : List Step} {stage after : Stage} {place : Slot → Option CellId} {step : Step}
  {operation : Operation} {progress : Stage.Progress} {id : MockId} {name : String} {slot : Slot}
  {cellId : CellId} {value : Value} {held : Option Held}

theorem Kept.cons (kept : Kept place steps id name held) (attached : step.attached? id name = none)
    (set : step.set? id name = none) : Kept place (step :: steps) id name held := by
  cases kept with
  | nothing none => exact .nothing ((slot?_cons attached set).trans none)
  | value slot last =>
    exact .value ((slot?_cons attached set).trans slot) ((lastSet?_cons set).trans last)
  | cell slot there => exact .cell ((slot?_cons attached set).trans slot) there

theorem Kept.mono {place' : Slot → Option CellId} (kept : Kept place steps id name held)
    (mono : ∀ {slot cellId}, place slot = some cellId → place' slot = some cellId) :
    Kept place' steps id name held := by
  cases kept with
  | nothing none => exact .nothing none
  | value slot last => exact .value slot last
  | cell slot there => exact .cell slot (mono there)

namespace Remembers

theorem start : Remembers [] .empty fun _ => none where
  kept _ _ := .nothing rfl
  written there := by cases there
  injective there := by cases there
  handles := by simp [HandedOut]
  owners there := by cases there

theorem lt_length (remembers : Remembers steps stage place) (there : place slot = some cellId) :
    cellId.index < stage.cells.length := by
  obtain ⟨cell, found, -⟩ := remembers.written there
  exact (List.getElem?_eq_some_iff.1 (Stage.cell_eq_ok_iff.1 found)).1

/-- The next cell stands for nothing. -/
theorem place_ne_length (remembers : Remembers steps stage place) (slot : Slot) :
    place slot ≠ some ⟨stage.cells.length⟩ :=
  fun there => Nat.lt_irrefl _ (remembers.lt_length there)

theorem handles_cons (remembers : Remembers steps stage place) (handsOut : step.handsOut? = none)
    {cell cellId : CellId} : place (.handle cell) = some cellId ↔
      cellId = cell ∧ HandedOut cell (step :: steps) := by
  rw [handedOut_cons, handsOut, remembers.handles]
  simp

/-- What has no cell has made none for itself. -/
theorem place_own_eq_none (remembers : Remembers steps stage place)
    (bare : ∀ cellId, stage.held? id name ≠ some (.cell cellId)) : place (.own id name) = none := by
  refine Option.eq_none_iff_forall_ne_some.2 fun cellId there => ?_
  obtain ⟨own, held⟩ := remembers.owners there
  exact bare own held

/-- An operation that stores nothing is not remembered. -/
theorem idle (remembers : Remembers steps stage place) (h : stage.WellFormed)
    (effect : stage.Effect operation progress after)
    (idle : Step.stores ⟨operation, progress⟩ = false) :
    Remembers (⟨operation, progress⟩ :: steps) after place := by
  obtain ⟨cells, holds, handsOut⟩ := effect.of_idle h idle
  constructor
  case kept =>
    intro id name
    have same := @Step.of_idle _ steps id name idle
    rw [holds]
    exact (remembers.kept id name).cons same.2.1 same.1
  case written =>
    intro slot cellId there
    rw [lastWritten?_cons (@Step.of_idle _ steps ⟨0⟩ "" idle).2.2, Stage.cell, cells]
    exact remembers.written there
  case injective => exact remembers.injective
  case handles => exact remembers.handles_cons handsOut
  case owners =>
    intro id name cellId there
    rw [holds]
    exact remembers.owners there

/-- A write to the cell of a slot is remembered there. -/
theorem putCell (remembers : Remembers steps stage place) (there : place slot = some cellId)
    {old new : Cell} (found : stage.cell cellId = .ok old)
    (written : step.written? steps = some (slot, new.value)) (handsOut : step.handsOut? = none)
    (kept : ∀ id name, Kept place (step :: steps) id name (stage.held? id name)) :
    Remembers (step :: steps) (stage.putCell cellId new) place where
  kept := kept
  written := by
    intro other cell here
    rw [lastWritten?_cons_written written]
    by_cases same : other = slot
    · subst same
      obtain rfl := Option.some.inj (there.symm.trans here)
      refine ⟨new, ?_, if_pos rfl⟩
      rw [Stage.cell_eq_ok_iff, Stage.getElem?_putCell found, if_pos rfl]
    · obtain ⟨kept, known, last⟩ := remembers.written here
      refine ⟨kept, ?_, (if_neg (Ne.symm same)).trans last⟩
      rw [Stage.cell_eq_ok_iff, Stage.getElem?_putCell found, if_neg, Stage.cell_eq_ok_iff.1 known]
      exact fun index => same (remembers.injective here (CellId.ext index ▸ there))
  injective := remembers.injective
  handles := remembers.handles_cons handsOut
  owners := remembers.owners

/-- A new cell is remembered as the place of a slot that had none. -/
theorem grow (remembers : Remembers steps stage place) (fresh : place slot = none) {new : Cell}
    (cells : after.cells = (stage.createCell new).2.cells)
    (written : step.written? steps = some (slot, new.value))
    (kept : ∀ id name, Kept (Function.update place slot (some ⟨stage.cells.length⟩))
      (step :: steps) id name (after.held? id name))
    (handles : ∀ {cell cellId}, Function.update place slot (some ⟨stage.cells.length⟩)
      (.handle cell) = some cellId ↔ cellId = cell ∧ HandedOut cell (step :: steps))
    (owners : ∀ {id name cellId}, Function.update place slot (some ⟨stage.cells.length⟩)
      (.own id name) = some cellId → ∃ there, after.held? id name = some (.cell there)) :
    Remembers (step :: steps) after
      (Function.update place slot (some ⟨stage.cells.length⟩)) where
  kept := kept
  written := by
    intro other cellId here
    rw [lastWritten?_cons_written written]
    by_cases same : other = slot
    · subst same
      rw [Function.update_self] at here
      obtain rfl := Option.some.inj here
      refine ⟨new, ?_, if_pos rfl⟩
      rw [Stage.cell_eq_ok_iff, cells, Stage.getElem?_createCell, if_pos rfl]
    · rw [Function.update_of_ne same] at here
      obtain ⟨cell, found, last⟩ := remembers.written here
      refine ⟨cell, ?_, (if_neg (Ne.symm same)).trans last⟩
      rw [Stage.cell_eq_ok_iff, cells, Stage.getElem?_createCell,
        if_neg (Nat.ne_of_lt (remembers.lt_length here)), Stage.cell_eq_ok_iff.1 found]
  injective := by
    intro a b cellId ha hb
    -- The new place is the next cell of the stage, for which nothing stood before.
    by_cases same : a = slot <;> by_cases same' : b = slot
    · exact same.trans same'.symm
    · rw [same, Function.update_self] at ha
      rw [Function.update_of_ne same'] at hb
      exact absurd (hb.trans ha.symm) (remembers.place_ne_length b)
    · rw [same', Function.update_self] at hb
      rw [Function.update_of_ne same] at ha
      exact absurd (ha.trans hb.symm) (remembers.place_ne_length a)
    · rw [Function.update_of_ne same] at ha
      rw [Function.update_of_ne same'] at hb
      exact remembers.injective ha hb
  handles := handles
  owners := owners

/-- What had a place keeps it where another slot gets one. -/
theorem update_mono (fresh : place slot = none) {other : Slot} {cell : CellId}
    (there : place other = some cell) :
    Function.update place slot (some cellId) other = some cell := by
  rwa [Function.update_of_ne]
  rintro rfl
  cases fresh.symm.trans there

/-- A cell that is made and handed out stands for itself. -/
theorem createCell (remembers : Remembers steps stage place) (value : Value) :
    ∃ place', (∀ {slot cellId}, place slot = some cellId → place' slot = some cellId) ∧
      Remembers (⟨.createCell value, .finished (.ok (.cell ⟨stage.cells.length⟩))⟩ :: steps)
        (stage.createCell (.ofValue value)).2 place' := by
  have unknown : ¬ HandedOut ⟨stage.cells.length⟩ steps := fun known =>
    remembers.place_ne_length _ (remembers.handles.2 ⟨rfl, known⟩)
  have fresh : place (.handle ⟨stage.cells.length⟩) = none := by
    refine Option.eq_none_iff_forall_ne_some.2 fun cellId there => ?_
    exact unknown (remembers.handles.1 there).2
  refine ⟨_, update_mono fresh, remembers.grow fresh rfl rfl (fun id name => ?_) ?_ ?_⟩
  · exact ((remembers.kept id name).cons rfl rfl).mono (update_mono fresh)
  · intro cell cellId
    rw [handedOut_cons, Step.handsOut?, Option.some.injEq]
    by_cases same : cell = ⟨stage.cells.length⟩
    · subst same
      simp [eq_comm]
    · rw [Function.update_of_ne (by simpa using same), remembers.handles]
      simp [Ne.symm same]
  · intro id name cellId there
    rw [Function.update_of_ne (by simp)] at there
    exact remembers.owners there

variable {mock : Mock} {m : MockMember} {records : List Record} {cell new : Cell}

/-- A field is remembered to hold what it is set to. -/
theorem writeField (remembers : Remembers steps stage place) (h : stage.WellFormed)
    (found : stage.At id name mock m) {old : Option Value} (state : m.state = .field old) :
    Remembers (⟨.set id name value, .finished (.ok .done)⟩ :: steps)
      (stage.putMock (mock.setState name (.field (some value)))) place := by
  have put := Stage.held?_setState_eq h found (.field (some value))
  have field : ∀ there, stage.held? id name ≠ some (.cell there) := by
    intro there
    rw [Stage.held?_of_at found, state]
    cases old <;> simp [MemberState.held?]
  have nowhere := remembers.place_own_eq_none field
  have own : (slot? id name steps).getD (.own id name) = .own id name := by
    have kept := remembers.kept id name
    generalize stage.held? id name = held at kept field
    cases kept with
    | nothing none => rw [none, Option.getD_none]
    | value slot => rw [slot, Option.getD_some]
    | cell => exact absurd rfl (field _)
  constructor
  case kept =>
    intro other member
    rw [put]
    split
    · next same =>
      obtain ⟨rfl, rfl⟩ := same
      refine .value ?_ ?_
      · rw [slot?_cons_set rfl Step.set?_self, own]
      · rw [lastSet?, List.findSome?_cons, Step.set?_self]
    · next different => exact (remembers.kept other member).cons rfl (Step.set?_other different)
  case written =>
    intro slot cellId there
    rw [lastWritten?_cons_written (by rw [Step.written?, own]), if_neg]
    · exact remembers.written there
    · rintro rfl
      cases nowhere.symm.trans there
  case injective => exact remembers.injective
  case handles => exact remembers.handles_cons rfl
  case owners =>
    intro other member cellId there
    rw [put, if_neg]
    · exact remembers.owners there
    · rintro ⟨rfl, rfl⟩
      cases nowhere.symm.trans there

/-- The cell of a property is remembered to hold what the property is set to. -/
theorem writeBacked (remembers : Remembers steps stage place)
    (found : stage.At id name mock m) (state : m.state = .property (some cellId) records)
    (there : stage.cell cellId = .ok cell) (written : cell.write value = .ok new) :
    Remembers (⟨.set id name value, .finished (.ok .done)⟩ :: steps) (stage.putCell cellId new)
      place := by
  obtain ⟨-, rfl⟩ := Cell.write_eq_ok_iff.1 written
  have held : stage.held? id name = some (.cell cellId) := by
    rw [Stage.held?_of_at found, state]
    rfl
  obtain ⟨slot, here, place⟩ :
      ∃ slot, slot? id name steps = some slot ∧ place slot = some cellId := by
    have kept := remembers.kept id name
    rw [held] at kept
    cases kept with
    | cell slot place => exact ⟨_, slot, place⟩
  refine remembers.putCell place there (by rw [Step.written?, here, Option.getD_some]) rfl ?_
  intro other member
  by_cases same : id = other ∧ name = member
  · obtain ⟨rfl, rfl⟩ := same
    rw [held]
    refine .cell ?_ place
    rw [slot?_cons_set rfl Step.set?_self, here, Option.getD_some]
  · exact (remembers.kept other member).cons rfl (Step.set?_other same)

/-- The cell that a property makes for itself is remembered as its own. -/
theorem writeUnbacked (remembers : Remembers steps stage place) (h : stage.WellFormed)
    (found : stage.At id name mock m) (state : m.state = .property none records)
    (bound : (Cell.ofValue value).bind (mock.bindingOf m) = .ok cell) :
    ∃ place', (∀ {slot cellId}, place slot = some cellId → place' slot = some cellId) ∧
      Remembers (⟨.set id name value, .finished (.ok .done)⟩ :: steps)
        ((stage.createCell cell).2.putMock
          (mock.setState name (.property (some ⟨stage.cells.length⟩) records))) place' := by
  have behind : (stage.createCell cell).2.WellFormed := h.of_mocks_eq rfl
  have put := Stage.held?_setState_eq behind found (.property (some ⟨stage.cells.length⟩) records)
  have nothing : stage.held? id name = none := by
    rw [Stage.held?_of_at found, state]
    rfl
  have fresh := remembers.place_own_eq_none fun _ held => by cases nothing.symm.trans held
  have nowhere : slot? id name steps = none := by
    have kept := remembers.kept id name
    rw [nothing] at kept
    cases kept with
    | nothing none => exact none
  have written : Step.written? steps ⟨.set id name value, .finished (.ok .done)⟩ =
      some (.own id name, cell.value) := by
    rw [Step.written?, nowhere, Option.getD_none, (Cell.of_bind bound).2.1]
    rfl
  refine ⟨_, update_mono fresh, remembers.grow fresh rfl written (fun other member => ?_) ?_ ?_⟩
  · rw [put]
    split
    · next same =>
      obtain ⟨rfl, rfl⟩ := same
      refine .cell ?_ (Function.update_self ..)
      rw [slot?_cons_set rfl Step.set?_self, nowhere, Option.getD_none]
    · next different =>
      exact ((remembers.kept other member).cons rfl (Step.set?_other different)).mono
        (update_mono fresh)
  · intro cell cellId
    rw [Function.update_of_ne (by simp)]
    exact remembers.handles_cons rfl
  · intro other member cellId there
    rw [put]
    split
    · exact ⟨_, rfl⟩
    · next different =>
      rw [Function.update_of_ne] at there
      · exact remembers.owners there
      · rintro ⟨rfl, rfl⟩
        exact different ⟨rfl, rfl⟩

/-- A property that gets a cell is remembered to have it, and the cell to hold what it held. -/
theorem attach (remembers : Remembers steps stage place) (h : stage.WellFormed)
    (found : stage.At id name mock m) (there : stage.cell cellId = .ok cell)
    (bound : cell.bind (mock.bindingOf m) = .ok new) (known : HandedOut cellId steps) :
    Remembers (⟨.attach id name cellId, .finished (.ok .done)⟩ :: steps)
      ((stage.putCell cellId new).putMock
        (mock.setState name (.property (some cellId) records))) place := by
  have behind : (stage.putCell cellId new).WellFormed := h.of_mocks_eq rfl
  have put := Stage.held?_setState_eq behind found (.property (some cellId) records)
  constructor
  case kept =>
    intro other member
    rw [put]
    split
    · next same =>
      obtain ⟨rfl, rfl⟩ := same
      exact .cell (slot?_cons_attached Step.attached?_self) (remembers.handles.2 ⟨rfl, known⟩)
    · next different =>
      exact (remembers.kept other member).cons (Step.attached?_other different) rfl
  case written =>
    intro slot here place
    obtain ⟨kept, held, last⟩ := remembers.written place
    rw [lastWritten?_cons rfl, Stage.putMock_cell, Stage.cell, Stage.getElem?_putCell there]
    by_cases same : here.index = cellId.index
    · obtain rfl := CellId.ext same
      obtain rfl := Except.ok.inj (held.symm.trans there)
      exact ⟨new, by rw [if_pos rfl], by rw [last, (Cell.of_bind bound).2.1]⟩
    · exact ⟨kept, by rw [if_neg same]; exact held, last⟩
  case injective => exact remembers.injective
  case handles => exact remembers.handles_cons rfl
  case owners =>
    intro other member cellId there
    rw [put]
    split
    · exact ⟨_, rfl⟩
    · exact remembers.owners there

/-- A cell is remembered to hold what is written to it under its own name. -/
theorem write (remembers : Remembers steps stage place) (there : stage.cell cellId = .ok cell)
    (written : cell.write value = .ok new) (known : HandedOut cellId steps) :
    Remembers (⟨.write cellId value, .finished (.ok .done)⟩ :: steps) (stage.putCell cellId new)
      place := by
  obtain ⟨-, rfl⟩ := Cell.write_eq_ok_iff.1 written
  exact remembers.putCell (remembers.handles.2 ⟨rfl, known⟩) there rfl rfl
    fun id name => (remembers.kept id name).cons rfl rfl

/-- Every operation is remembered, and nothing else gets another place. -/
theorem next (remembers : Remembers steps stage place) (h : stage.WellFormed)
    (effect : stage.Effect operation progress after)
    (known : ∀ cell ∈ operation.cell?, HandedOut cell steps) :
    ∃ place', (∀ {slot cellId}, place slot = some cellId → place' slot = some cellId) ∧
      Remembers (⟨operation, progress⟩ :: steps) after place' := by
  -- What stores nothing is alike; the places grow where a cell is made.
  cases idle : Step.stores ⟨operation, progress⟩ with
  | false => exact ⟨place, id, remembers.idle h effect idle⟩
  | true =>
    cases effect with
    | refused => cases operation <;> cases idle
    | createMock | call | readField | readProperty | declare | peek | records | reset => cases idle
    | createCell => exact remembers.createCell _
    | writeField found state => exact ⟨place, id, remembers.writeField h found state⟩
    | writeBacked found state there written =>
      exact ⟨place, id, remembers.writeBacked found state there written⟩
    | writeUnbacked found state bound => exact remembers.writeUnbacked h found state bound
    | attach found _ there bound =>
      exact ⟨place, id, remembers.attach h found there bound (known _ rfl)⟩
    | write there written => exact ⟨place, id, remembers.write there written (known _ rfl)⟩

/-- What has a place keeps it on the stages behind. -/
theorem performs (remembers : Remembers steps stage place) (h : stage.WellFormed)
    {more : List Step} (performs : stage.Performs more after)
    (known : NamesHandedOut (more.reverse ++ steps)) :
    ∃ place', (∀ {slot cellId}, place slot = some cellId → place' slot = some cellId) ∧
      Remembers (more.reverse ++ steps) after place' := by
  induction more generalizing steps stage place with
  | nil => exact ⟨place, id, Stage.performs_nil.1 performs ▸ remembers⟩
  | cons step more ih =>
    obtain ⟨here, behind⟩ := Stage.performs_cons.1 performs
    have effect := stage.begin_effect step.operation
    rw [List.reverse_cons, List.append_assoc] at known ⊢
    rw [here] at effect
    obtain ⟨between, mono, remembers⟩ := remembers.next h effect known.of_append.1
    obtain ⟨last, mono', remembers⟩ := ih remembers (effect.wellFormed h) behind known
    exact ⟨last, fun there => mono' (mono there), remembers⟩

/-- A cell that a property makes for itself is new and is remembered as its own. -/
theorem exists_own (remembers : Remembers steps stage place) (h : stage.WellFormed)
    (found : stage.At id name mock m) (property : m.spec.kind = .property)
    (nowhere : slot? id name steps = none)
    (done : (stage.begin (.set id name value)).1 = .finished (.ok .done)) :
    ∃ cellId place', stage.cell cellId = .error .unknownCell ∧
      (stage.begin (.set id name value)).2.held? id name = some (.cell cellId) ∧
      place' (.own id name) = some cellId ∧
      Remembers (⟨.set id name value, .finished (.ok .done)⟩ :: steps)
        (stage.begin (.set id name value)).2 place' := by
  have effect := stage.begin_effect (.set id name value)
  rw [done] at effect
  obtain ⟨place', -, remembers'⟩ := remembers.next h effect nofun
  have fits := h.fits found rfl
  have kept := remembers.kept id name
  have kept' := remembers'.kept id name
  generalize (stage.begin (.set id name value)).2 = next at effect remembers' kept' ⊢
  rw [Stage.held?_of_at found] at kept
  cases effect with
  | writeField found' state =>
    obtain ⟨rfl, rfl⟩ := found.unique found'
    rw [state, property] at fits
    cases fits
  | writeBacked found' state =>
    obtain ⟨rfl, rfl⟩ := found.unique found'
    rw [state] at kept
    cases kept with
    | cell slot => cases nowhere.symm.trans slot
  | @writeUnbacked _ _ _ _ _ records cell found' state =>
    have behind : (stage.createCell cell).2.WellFormed := h.of_mocks_eq rfl
    have held := Stage.held?_setState behind found'
      (.property (some ⟨stage.cells.length⟩) records)
    refine ⟨⟨stage.cells.length⟩, place', ?_, held, ?_, remembers'⟩
    · rw [Stage.cell, List.getElem?_eq_none (Nat.le_refl _)]
    · rw [held] at kept'
      cases kept' with
      | cell slot there =>
        rw [slot?_cons_set rfl Step.set?_self, nowhere, Option.getD_none] at slot
        exact Option.some.inj slot ▸ there

end Remembers

end

/-- Steps that store nothing are not told of. -/
theorem told_filter (steps : List Step) :
    (∀ id name, lastSet? id name (steps.filter (·.stores)) = lastSet? id name steps) ∧
      (∀ id name, slot? id name (steps.filter (·.stores)) = slot? id name steps) ∧
      ∀ slot, lastWritten? slot (steps.filter (·.stores)) = lastWritten? slot steps := by
  induction steps with
  | nil => exact ⟨fun _ _ => rfl, fun _ _ => rfl, fun _ => rfl⟩
  | cons step before ih =>
    obtain ⟨sets, slots, writes⟩ := ih
    cases stores : step.stores with
    | false =>
      rw [List.filter_cons_of_neg (by rw [stores]; exact Bool.false_ne_true)]
      have idle := fun id name => @Step.of_idle step before id name stores
      refine ⟨fun id name => ?_, fun id name => ?_, fun slot => ?_⟩
      · rw [sets, lastSet?_cons (idle id name).1]
      · rw [slots, slot?_cons (idle id name).2.1 (idle id name).1]
      · rw [writes, lastWritten?_cons (idle ⟨0⟩ "").2.2]
    | true =>
      rw [List.filter_cons_of_pos stores]
      have written : step.written? (before.filter (·.stores)) = step.written? before := by
        unfold Step.written?
        split <;> simp only [slots]
      refine ⟨fun id name => ?_, fun id name => ?_, fun slot => ?_⟩
      · have sets : (before.filter (·.stores)).findSome? (·.set? id name) =
            before.findSome? (·.set? id name) := sets id name
        rw [lastSet?, lastSet?, List.findSome?_cons, List.findSome?_cons, sets]
      · cases attached : step.attached? id name with
        | some cell => rw [slot?_cons_attached attached, slot?_cons_attached attached]
        | none =>
          cases set : step.set? id name with
          | some value => rw [slot?_cons_set attached set, slot?_cons_set attached set, slots]
          | none => rw [slot?_cons attached set, slot?_cons attached set, slots]
      · rw [lastWritten?, lastWritten?, written, writes]

/-- What holds of reading on the stage that the steps lead to. -/
structure ReadsBack (steps : List Step) (stage : Stage) : Prop where
  /-- A field tells what it was last set to, and is unset if it never was set. -/
  field : ∀ {id name mock m}, stage.At id name mock m → m.spec.kind = .field →
    (stage.begin (.get id name)).1 = .finished (match lastSet? id name steps with
      | some value => .ok (.value value)
      | none => .error (.unsetField (mock.memberLabel name)))
  /-- A property is not stubbed if no cell was ever attached to it and it never was set. -/
  unbacked : ∀ {id name mock m}, stage.At id name mock m → m.spec.kind = .property →
    ((stage.begin (.get id name)).1 =
        .finished (.error (.propertyNotStubbed (mock.memberLabel name))) ↔
      ∀ step ∈ steps, step.attached? id name = none ∧ step.set? id name = none)
  /-- Any other property tells what was last written where its value is kept. -/
  backed : ∀ {id name mock m slot}, stage.At id name mock m → m.spec.kind = .property →
    slot? id name steps = some slot → ∃ value, lastWritten? slot steps = some value ∧
      (stage.begin (.get id name)).1 = .finished (.ok (.value value))
  /-- A property that is set and has no cell gets a new one, which no other property ever has and
      which is never handed out. -/
  own : ∀ {id name mock m value}, stage.At id name mock m → m.spec.kind = .property →
    slot? id name steps = none →
    (stage.begin (.set id name value)).1 = .finished (.ok .done) →
    ∃ cell, stage.cell cell = .error .unknownCell ∧
      (stage.begin (.set id name value)).2.held? id name = some (.cell cell) ∧
      ∀ {more after}, (stage.begin (.set id name value)).2.Performs more after →
        NamesHandedOut (more.reverse ++ ⟨.set id name value, .finished (.ok .done)⟩ :: steps) →
        (∀ other member, after.held? other member = some (.cell cell) →
          other = id ∧ member = name) ∧
        ¬ HandedOut cell (more.reverse ++ ⟨.set id name value, .finished (.ok .done)⟩ :: steps)
  /-- What is told does not depend on the steps that store nothing. -/
  told : ∀ id name slot,
    lastSet? id name (steps.filter (·.stores)) = lastSet? id name steps ∧
      slot? id name (steps.filter (·.stores)) = slot? id name steps ∧
      lastWritten? slot (steps.filter (·.stores)) = lastWritten? slot steps
  /-- Reading goes on to tell the same as long as nothing is stored. -/
  idle : ∀ {more after}, stage.Performs more after → (∀ step ∈ more, step.stores = false) →
    ∀ {id name mock m}, stage.At id name mock m →
      (after.begin (.get id name)).1 = (stage.begin (.get id name)).1

namespace Session

variable {steps : List Step} {stage : Stage}

theorem exists_remembers (session : Session steps stage) (known : NamesHandedOut steps) :
    ∃ place, Remembers steps stage place := by
  induction session with
  | start => exact ⟨_, .start⟩
  | @step _ stage operation session ih =>
    obtain ⟨place, remembers⟩ := ih known.2
    obtain ⟨place', -, remembers⟩ :=
      remembers.next session.wellFormed (stage.begin_effect operation) known.1
    exact ⟨place', remembers⟩

/-- What is read is what was last written, whatever way it was written in: a field tells what it was
    last set to, and a property what was last written to the cell that it has. Nothing else that
    happens matters, nor does what a function does that runs for a call, unless it writes. -/
theorem readsBack (session : Session steps stage) (known : NamesHandedOut steps) :
    ReadsBack steps stage := by
  have h := session.wellFormed
  obtain ⟨place, remembers⟩ := session.exists_remembers known
  constructor
  case field =>
    intro id name mock m found field
    have kept := remembers.kept id name
    have kind := Stage.kind_of_held? h found
    rw [Stage.begin_get h found, field]
    generalize stage.held? id name = held at kept kind
    cases kept with
    | nothing nowhere =>
      rw [lastSet?_of_nowhere nowhere]
      rfl
    | value _ last =>
      rw [last]
      rfl
    | cell => cases field.symm.trans (kind _ rfl)
  case unbacked =>
    intro id name mock m found property
    have kept := remembers.kept id name
    have kind := Stage.kind_of_held? h found
    rw [← slot?_eq_none_iff, Stage.begin_get h found, property]
    generalize stage.held? id name = held at kept kind
    cases kept with
    | nothing nowhere => exact iff_of_true rfl nowhere
    | value => cases property.symm.trans (kind _ rfl)
    | cell slot there =>
      obtain ⟨cell, found, -⟩ := remembers.written there
      simp [Stage.reading, found, slot, Except.map]
  case backed =>
    intro id name mock m slot found property here
    have kept := remembers.kept id name
    have kind := Stage.kind_of_held? h found
    rw [Stage.begin_get h found, property]
    generalize stage.held? id name = held at kept kind
    cases kept with
    | nothing nowhere => cases nowhere.symm.trans here
    | value => cases property.symm.trans (kind _ rfl)
    | cell slot there =>
      obtain rfl := Option.some.inj (here.symm.trans slot)
      obtain ⟨cell, found, last⟩ := remembers.written there
      refine ⟨cell.value, last, ?_⟩
      rw [Stage.reading, found]
      rfl
  case own =>
    intro id name mock m value found property nowhere done
    obtain ⟨cell, place', unknown, held, own, remembers'⟩ :=
      remembers.exists_own h found property nowhere done
    refine ⟨cell, unknown, held, fun performs known => ?_⟩
    have effect := stage.begin_effect (.set id name value)
    obtain ⟨last, mono, remembers''⟩ := remembers'.performs (effect.wellFormed h) performs known
    -- Later places keep the new cell for the member's own slot, which no other slot shares.
    refine ⟨fun other member held => ?_, fun handed => ?_⟩
    · have kept := remembers''.kept other member
      rw [held] at kept
      cases kept with
      | cell slot there =>
        rw [remembers''.injective there (mono own)] at slot
        exact eq_of_slot?_own slot
    · cases remembers''.injective (mono own) (remembers''.handles.2 ⟨rfl, handed⟩)
  case told =>
    obtain ⟨sets, slots, writes⟩ := told_filter steps
    exact fun id name slot => ⟨sets id name, slots id name, writes slot⟩
  case idle => exact fun performs idle _ _ _ _ found => performs.reads_same h idle found

end Session

/-- A session with a cell that two mocks share. It is written under its own name and through one of
    its properties, and is read through the other one behind a reset. -/
def Sample.relaying : List Operation :=
  [.reset ⟨0⟩,
    .set ⟨1⟩ "meaning_of_life" (.str "virtue"),
    .set ⟨1⟩ "meaning_of_life" (.int 42),
    .write ⟨0⟩ (.str "reflection"),
    .attach ⟨1⟩ "meaning_of_life" ⟨0⟩,
    .attach ⟨0⟩ "meaning_of_life" ⟨0⟩,
    .createCell (.str "justice"),
    .createMock ⟨0, philosopherSurface⟩ (.named none),
    .createMock ⟨0, philosopherSurface⟩ (.named none)]

theorem Session.readsBack_relaying :
    NamesHandedOut (performed Sample.relaying).1 ∧
      ((performed Sample.relaying).2.begin (.get ⟨0⟩ "meaning_of_life")).1 =
        .finished (.ok (.value (.str "virtue"))) := by
  have known : NamesHandedOut (performed Sample.relaying).1 := by decide +kernel
  refine ⟨known, ?_⟩
  have found : (performed Sample.relaying).2.At ⟨0⟩ "meaning_of_life" _ _ := ⟨rfl, rfl⟩
  have shared : slot? ⟨0⟩ "meaning_of_life" (performed Sample.relaying).1 =
      some (.handle ⟨0⟩) := rfl
  obtain ⟨value, last, told⟩ :=
    ((Session.of_performed Sample.relaying).readsBack known).backed found rfl shared
  obtain rfl : .str "virtue" = value := Option.some.inj last
  exact told

end Understudy
