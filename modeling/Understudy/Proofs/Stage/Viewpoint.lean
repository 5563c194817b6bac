import Understudy.Proofs.Stage.Shift
import Understudy.Proofs.Stage.Typed

/-!
# What concerns a member

A session as it is seen from one member. Most of what happens on a stage does not concern the
member: it is done to other members, to other mocks or to cells that the member never had. What
cells are called does not matter either, as long as it is known which ones are given to the
member; a cell that a property makes for itself nobody else gets hold of.

* `Viewpoint.concern?`: which operations concern a member.
* `Viewpoint.Admits`: what is asked of operations on cells.
* `Viewpoint.Agrees`: when two stages look alike from a member.
* `Viewpoint.Apart.agrees`: what does not concern a member leaves a stage alike.
-/

namespace Understudy

/-! ## What is seen -/

theorem CellId.ext {a b : CellId} (h : a.index = b.index) : a = b := by
  cases a
  cases b
  exact congrArg CellId.mk h

/-- What a cell is to a member. -/
inductive CellName where
  /-- The one that the member made for itself. -/
  | own
  /-- One of those that the member may be given. -/
  | given (n : Nat)

/-- Which cell of a session is which. Other cells have no name. -/
structure Naming where
  name? : CellId → Option CellName
  injective : ∀ {a b x}, name? a = some x → name? b = some x → a = b

/-- A member that is looked from. -/
structure Viewpoint where
  /-- The mock of the member. -/
  id : MockId
  /-- The name of the member. -/
  name : String
  /-- The values that the cells are made with that the member may be given. -/
  made : Nat → Value

/-- What concerns a member. -/
inductive Concern where
  /-- An operation in which no cell is mentioned. -/
  | operation (operation : Operation)
  /-- The member is to be backed by a cell that it is given. -/
  | attach (n : Nat)
  /-- It is to be backed by another cell, which holds the value if there is such a cell. -/
  | offer (value : Option Value)
  /-- A cell that the member is given is written. -/
  | write (n : Nat) (value : Value)

namespace Viewpoint

variable (view : Viewpoint) (names : Naming)

/-- How an operation concerns the member, if it does: it is one on the member, the making or the
    reset of its mock, or a write to one of its cells. -/
def concern? (stage : Stage) : Operation → Option Concern
  | .attach target member cell =>
    if target = view.id ∧ member = view.name then
      match names.name? cell with
      | some (.given n) => some (.attach n)
      | _ => some (.offer (stage.cells[cell.index]?.map (·.value)))
    else none
  | .write cell value =>
    match names.name? cell with
    | some (.given n) => some (.write n value)
    | _ => none
  | .createMock surface settings =>
    if stage.mocks.length = view.id.index then some (.operation (.createMock surface settings))
    else none
  | .reset target => if target = view.id then some (.operation (.reset target)) else none
  | operation =>
    if operation.target? = some (view.id, view.name) then some (.operation operation) else none

/-- What is asked of an operation. The names of cells have to be right: a cell is given to the
    member only if it was made with the value of its name, and the cells that properties make for
    themselves are nobody's but theirs. Only cells are mentioned that were handed out before. And
    no cell is attached both to the member and to another property. -/
def Admits (stage : Stage) : Operation → Prop
  | .createCell value => ∀ x, names.name? ⟨stage.cells.length⟩ = some x →
      ∃ n, x = .given n ∧ view.made n = value
  | .set target member value =>
    (stage.begin (.set target member value)).2.cells.length ≠ stage.cells.length →
      names.name? ⟨stage.cells.length⟩ =
        if target = view.id ∧ member = view.name then some .own else none
  | .write cell _ => ∀ x, names.name? cell = some x → x ≠ .own ∧ cell.index < stage.cells.length
  | .attach target member cell =>
    (∀ x, names.name? cell = some x → x ≠ .own ∧ cell.index < stage.cells.length) ∧
      ((stage.begin (.attach target member cell)).1 = .finished (.ok .done) →
        ((names.name? cell).isSome ↔ target = view.id ∧ member = view.name))
  | _ => True

end Viewpoint

/-! ## Numbers of records aside -/

/-- The record without its number. -/
def Record.unnumbered (record : Record) : Record := { record with seq := 0 }

/-- The reply without the numbers of records. -/
def Reply.unnumbered : Reply → Reply
  | .records member log => .records member (log.map Record.unnumbered)
  | reply => reply

/-- The answer without the numbers of records. -/
def Answer.unnumbered (answer : Answer) : Answer := answer.map Reply.unnumbered

/-- The progress without the numbers of records. -/
def Stage.Progress.unnumbered : Stage.Progress → Stage.Progress
  | .finished answer => .finished answer.unnumbered
  | .running script => .running script

/-- The states, if there are any, are alike but for the numbers of records and for what the cell is
    called. -/
inductive MemberState.Twin (same : CellId → CellId → Prop) :
    Option MemberState → Option MemberState → Prop
  | absent : Twin same none none
  | callable {records records' : List Record} {rules : Rules} :
      records.map (·.arguments) = records'.map (·.arguments) →
      Twin same (some (.callable records rules)) (some (.callable records' rules))
  | field {value : Option Value} : Twin same (some (.field value)) (some (.field value))
  | unbacked {records records' : List Record} :
      records.map (·.arguments) = records'.map (·.arguments) →
      Twin same (some (.property none records)) (some (.property none records'))
  | backed {cell cell' : CellId} {records records' : List Record} :
      records.map (·.arguments) = records'.map (·.arguments) → same cell cell' →
      Twin same (some (.property (some cell) records)) (some (.property (some cell') records'))

namespace MemberState.Twin

variable {same same' there : CellId → CellId → Prop} {a b c : Option MemberState}

theorem reset (h : Twin same a b) : Twin same (a.map (·.reset)) (b.map (·.reset)) := by
  cases h with
  | absent => exact .absent
  | callable => exact .callable rfl
  | field => exact .field
  | unbacked => exact .unbacked rfl
  | backed _ cells => exact .backed rfl cells

theorem symm (h : Twin same a b) (swap : ∀ cell cell', same cell cell' → same' cell' cell) :
    Twin same' b a := by
  cases h with
  | absent => exact .absent
  | callable args => exact .callable args.symm
  | field => exact .field
  | unbacked args => exact .unbacked args.symm
  | backed args cells => exact .backed args.symm (swap _ _ cells)

theorem trans (h : Twin same a b) (h' : Twin same' b c)
    (join : ∀ x y z, same x y → same' y z → there x z) : Twin there a c := by
  cases h with
  | absent =>
    cases h'
    exact .absent
  | callable args =>
    cases h' with
    | callable args' => exact .callable (args.trans args')
  | field =>
    cases h'
    exact .field
  | unbacked args =>
    cases h' with
    | unbacked args' => exact .unbacked (args.trans args')
  | backed args cells =>
    cases h' with
    | backed args' cells' => exact .backed (args.trans args') (join _ _ _ cells cells')

end MemberState.Twin

theorem Record.unnumbered_eq {records records' : List Record}
    (same : records.map (·.arguments) = records'.map (·.arguments)) :
    records.map Record.unnumbered = records'.map Record.unnumbered := by
  have lift : ∀ list : List Record,
      list.map Record.unnumbered = (list.map (·.arguments)).map fun args => ⟨args, 0⟩ := by
    intro list
    rw [List.map_map]
    rfl
  rw [lift, lift, same]

/-! ## Stages that look alike -/

/-- The cells have one name in the two sessions. -/
def Naming.Same (names names' : Naming) (cell cell' : CellId) : Prop :=
  ∃ x, names.name? cell = some x ∧ names'.name? cell' = some x

namespace Viewpoint

variable (view : Viewpoint)

/-- What the cell of the name is before it is made. -/
def initial : CellName → Cell
  | .own => .ofValue .nil
  | .given n => .ofValue (view.made n)

/-- The cell that has the name, which may still have to be made. -/
def cellAs (stage : Stage) (cell : CellId) (x : CellName) : Cell :=
  stage.cells[cell.index]?.getD (view.initial x)

/-- Whether two stages look alike from the member: their mocks of the member are alike or still to
    be made, the member is in the same state, and its cells are the same. -/
structure Agrees (names names' : Naming) (stage stage' : Stage) : Prop where
  mock : (∃ mock mock', stage.mock view.id = .ok mock ∧ stage'.mock view.id = .ok mock' ∧
      mock.Alike mock') ∨
    stage.mocks.length ≤ view.id.index ∧ stage'.mocks.length ≤ view.id.index
  state : MemberState.Twin (names.Same names')
    (stage.stateOf? view.id view.name) (stage'.stateOf? view.id view.name)
  cells : ∀ {cell cell' x}, names.name? cell = some x → names'.name? cell' = some x →
    view.cellAs stage cell x = view.cellAs stage' cell' x

/-- What is kept of the cells of members: they are there, and those with names are held by the
    member and by no other. -/
structure Apart (names : Naming) (stage : Stage) : Prop where
  held : ∀ {target member cell}, stage.held? target member = some (.cell cell) →
    cell.index < stage.cells.length ∧
      ((names.name? cell).isSome ↔ target = view.id ∧ member = view.name)

variable {view} {names names' : Naming} {a b c : Stage}

namespace Agrees

theorem refl (apart : view.Apart names a) : view.Agrees names names a a := by
  constructor
  case mock =>
    by_cases bound : a.mocks.length ≤ view.id.index
    · exact .inr ⟨bound, bound⟩
    · have there := Stage.mock_eq_ok_iff.2 (List.getElem?_eq_getElem (Nat.lt_of_not_le bound))
      exact .inl ⟨_, _, there, there, .refl _⟩
  case state =>
    cases here : a.stateOf? view.id view.name with
    | none => exact .absent
    | some state =>
      rcases state with ⟨records, rules⟩ | value | ⟨_ | cell, records⟩
      · exact .callable rfl
      · exact .field
      · exact .unbacked rfl
      · have held : a.held? view.id view.name = some (.cell cell) := by
          rw [Stage.held?, here]
          rfl
        obtain ⟨x, named⟩ := Option.isSome_iff_exists.1 ((apart.held held).2.2 ⟨rfl, rfl⟩)
        exact .backed rfl ⟨x, named, named⟩
  case cells =>
    intro cell cell' x named named'
    rw [names.injective named named']

theorem symm (h : view.Agrees names names' a b) : view.Agrees names' names b a := by
  constructor
  case mock =>
    rcases h.mock with ⟨mock, mock', there, there', alike⟩ | ⟨absent, absent'⟩
    · exact .inl ⟨mock', mock, there', there, alike.symm⟩
    · exact .inr ⟨absent', absent⟩
  case state => exact h.state.symm fun _ _ ⟨x, named, named'⟩ => ⟨x, named', named⟩
  case cells => exact fun named named' => (h.cells named' named).symm

/-- What looks alike in one session looks alike from another one. -/
theorem trans (h : view.Agrees names names a b) (h' : view.Agrees names names' b c) :
    view.Agrees names names' a c := by
  constructor
  case mock =>
    rcases h.mock with ⟨mock, mock', there, there', alike⟩ | ⟨absent, absent'⟩ <;>
      rcases h'.mock with ⟨k, k', here, here', alike'⟩ | ⟨missing, missing'⟩
    · obtain rfl := Except.ok.inj (there'.symm.trans here)
      exact .inl ⟨mock, k', there, here', alike.trans alike'⟩
    · have := (List.getElem?_eq_some_iff.1 (Stage.mock_eq_ok_iff.1 there')).1
      omega
    · have := (List.getElem?_eq_some_iff.1 (Stage.mock_eq_ok_iff.1 here)).1
      omega
    · exact .inr ⟨absent, missing'⟩
  case state =>
    refine h.state.trans h'.state ?_
    rintro x y z ⟨name, first, second⟩ ⟨name', second', third⟩
    obtain rfl := Option.some.inj (second.symm.trans second')
    exact ⟨name, first, third⟩
  case cells => exact fun named named' => (h.cells named named).trans (h'.cells named named')

/-- Stages that look alike still do behind what leaves each of them alike. -/
theorem behind (h : view.Agrees names names' a b) {a' b' : Stage}
    (left : view.Agrees names names a a') (right : view.Agrees names' names' b b') :
    view.Agrees names names' a' b' :=
  (right.symm.trans (left.symm.trans h).symm).symm

end Agrees

end Viewpoint

/-! ## What does not concern the member -/

namespace Stage

variable {stage after : Stage} {operation : Operation} {progress : Progress}

/-- Where the state of one member is put, what another one holds stays. -/
theorem held?_of_put {target other : MockId} {member name : String} {state : MemberState}
    {held : Held} (put : after.stateOf? other name =
      if target = other ∧ member = name then some state else stage.stateOf? other name)
    (holds : after.held? other name = some held) :
    stage.held? other name = some held ∨
      target = other ∧ member = name ∧ state.held? = some held := by
  rw [held?, put] at holds
  split at holds
  · next same => exact .inr ⟨same.1, same.2, holds⟩
  · exact .inl holds

/-- How cells get to be held: they are attached, or made by a property for itself. -/
theorem Effect.held_cell (effect : Effect stage operation progress after) (h : stage.WellFormed)
    {id : MockId} {name : String} {cell : CellId}
    (held : after.held? id name = some (.cell cell)) :
    stage.held? id name = some (.cell cell) ∨
      (operation = .attach id name cell ∧ progress = .finished (.ok .done) ∧
        cell.index < stage.cells.length) ∨
      (∃ value, operation = .set id name value ∧ cell = ⟨stage.cells.length⟩ ∧
        after.cells.length = stage.cells.length + 1) := by
  cases effect with
  | refused | readField | peek | records | createCell | write | writeBacked => exact .inl held
  | @createMock surface settings =>
    -- A new member holds nothing.
    have held : (stage.createMock surface settings).2.held? id name = some (.cell cell) := held
    rw [held?] at held
    rcases stage.stateOf?_createMock surface settings id name with same | ⟨absent, kind, fresh⟩
    · rw [same] at held
      exact .inl held
    · rw [fresh] at held
      cases kind <;> cases held
  | call found state =>
    rcases held?_of_put (stateOf?_advance h found) held with old | ⟨-, -, none⟩
    · exact .inl old
    · cases none
  | readProperty found state =>
    rcases held?_of_put (stateOf?_advance h found) held with old | ⟨rfl, rfl, same⟩
    · exact .inl old
    · rw [held?_of_at found, state]
      exact .inl same
  | writeField found state =>
    rcases held?_of_put (stateOf?_setState h found) held with old | ⟨-, -, none⟩
    · exact .inl old
    · cases none
  | declare found state =>
    rcases held?_of_put (stateOf?_setState h found) held with old | ⟨-, -, none⟩
    · exact .inl old
    · cases none
  | @writeUnbacked _ _ value _ _ _ made found state =>
    have behind : (stage.createCell made).2.WellFormed := h.of_mocks_eq rfl
    rcases held?_of_put (stateOf?_setState behind found) held with old | ⟨rfl, rfl, new⟩
    · exact .inl old
    · cases new
      exact .inr (.inr ⟨value, rfl, rfl, List.length_append ..⟩)
  | @attach _ _ cellId _ _ _ _ old new found state there =>
    have behind : (stage.putCell cellId new).WellFormed := h.of_mocks_eq rfl
    rcases held?_of_put (stateOf?_setState behind found) held with old | ⟨rfl, rfl, new⟩
    · exact .inl old
    · cases new
      exact .inr (.inl ⟨rfl, rfl, (List.getElem?_eq_some_iff.1 (cell_eq_ok_iff.1 there)).1⟩)
  | reset hmock =>
    rw [held?, stateOf?_reset h hmock] at held
    split at held
    · rw [Option.bind_map, show MemberState.held? ∘ MemberState.reset = MemberState.held? from
        funext MemberState.held?_reset] at held
      exact .inl held
    · exact .inl held

theorem Effect.cells_length_le (effect : Effect stage operation progress after) :
    stage.cells.length ≤ after.cells.length := by
  cases effect with
  | refused | readField | peek | records | createMock | call | readProperty | writeField | declare
  | reset => exact Nat.le_refl _
  | createCell | writeUnbacked => exact (List.length_append ..).symm ▸ Nat.le_add_right _ _
  | write | writeBacked | attach => exact (List.length_set ..).symm ▸ Nat.le_refl _

/-- How a cell gets to be changed. -/
inductive Touches (stage : Stage) (operation : Operation) (progress : Progress) (after : Stage)
    (cell : CellId) : Prop
  | created {value : Value} : operation = .createCell value → cell = ⟨stage.cells.length⟩ →
      after.cells[cell.index]? = some (.ofValue value) →
      Touches stage operation progress after cell
  | own {target : MockId} {member : String} {value : Value} :
      operation = .set target member value → cell = ⟨stage.cells.length⟩ →
      after.cells.length ≠ stage.cells.length → Touches stage operation progress after cell
  | through {target : MockId} {member : String} {value : Value} :
      operation = .set target member value → stage.held? target member = some (.cell cell) →
      Touches stage operation progress after cell
  | attached {target : MockId} {member : String} : operation = .attach target member cell →
      progress = .finished (.ok .done) → Touches stage operation progress after cell
  | written {value : Value} : operation = .write cell value →
      Touches stage operation progress after cell

/-- A cell changes in these ways only. -/
theorem Effect.touches (effect : Effect stage operation progress after)
    (cell : CellId) : after.cells[cell.index]? = stage.cells[cell.index]? ∨
      Touches stage operation progress after cell := by
  cases effect with
  | refused | readField | peek | records | createMock | call | readProperty | writeField | declare
  | reset => exact .inl rfl
  | @createCell value =>
    have put := getElem?_createCell stage (.ofValue value) cell.index
    split at put
    · next new => exact .inr (.created rfl (CellId.ext new) put)
    · exact .inl put
  | @write cellId _ _ new there =>
    have put := getElem?_putCell there new cell.index
    split at put
    · next same =>
      obtain rfl : cell = cellId := CellId.ext same
      exact .inr (.written rfl)
    · exact .inl put
  | @writeBacked _ _ _ _ _ cellId _ _ new found state there =>
    have put := getElem?_putCell there new cell.index
    split at put
    · next same =>
      obtain rfl : cell = cellId := CellId.ext same
      refine .inr (.through rfl ?_)
      rw [held?_of_at found, state]
      rfl
    · exact .inl put
  | @writeUnbacked _ _ _ _ _ _ new found state =>
    have put := getElem?_createCell stage new cell.index
    split at put
    · next last => exact .inr (.own rfl (CellId.ext last) (by simp [Stage.createCell, putMock]))
    · exact .inl put
  | @attach _ _ cellId _ _ _ _ _ new found state there =>
    have put := getElem?_putCell there new cell.index
    split at put
    · next same =>
      obtain rfl : cell = cellId := CellId.ext same
      exact .inr (.attached rfl rfl)
    · exact .inl put

end Stage

namespace Viewpoint

variable {view : Viewpoint} {names : Naming} {stage after : Stage} {operation : Operation}
  {progress : Stage.Progress}

/-- Operations on the member concern it. -/
theorem target?_ne (unconcerned : view.concern? names stage operation = none) :
    operation.target? ≠ some (view.id, view.name) := by
  cases operation with
  | createMock | createCell | write | peek | reset => simp [Operation.target?]
  | call | get | set | declare | records =>
    simpa only [concern?, ite_eq_right_iff, reduceCtorEq, imp_false] using unconcerned
  | attach target member cell =>
    rw [concern?] at unconcerned
    split at unconcerned
    · split at unconcerned <;> cases unconcerned
    · next other =>
      rintro same
      cases same
      exact other ⟨rfl, rfl⟩

/-- What does not concern the member leaves its state. -/
theorem stateOf?_unconcerned (effect : stage.Effect operation progress after)
    (h : stage.WellFormed) (unconcerned : view.concern? names stage operation = none) :
    after.stateOf? view.id view.name = stage.stateOf? view.id view.name := by
  have other := target?_ne unconcerned
  -- The state is put in the place of another member.
  have put : ∀ {target member} {state : MemberState} {changed : Option MemberState},
      operation.target? = some (target, member) →
      changed = (if target = view.id ∧ member = view.name then some state
        else stage.stateOf? view.id view.name) →
      changed = stage.stateOf? view.id view.name := by
    intro target member state changed at' same
    rw [same, if_neg]
    rintro ⟨rfl, rfl⟩
    exact other at'
  cases effect with
  | refused | createCell | readField | writeBacked | write | peek | records => rfl
  | createMock =>
    simp only [concern?, ite_eq_right_iff, reduceCtorEq, imp_false] at unconcerned
    rw [Stage.stateOf?, Stage.stateOf?, List.getElem?_append]
    split
    · rfl
    · rw [List.getElem?_eq_none (l := [_]) (by rw [List.length_singleton]; omega),
        List.getElem?_eq_none (by omega)]
  | call found | readProperty found => exact put rfl (Stage.stateOf?_advance h found)
  | writeField found | declare found => exact put rfl (Stage.stateOf?_setState h found)
  | @writeUnbacked _ _ _ _ _ _ cell found =>
    have behind : (stage.createCell cell).2.WellFormed := h.of_mocks_eq rfl
    exact put rfl (Stage.stateOf?_setState behind found)
  | @attach _ _ cellId _ _ _ _ _ cell found =>
    have behind : (stage.putCell cellId cell).WellFormed := h.of_mocks_eq rfl
    exact put rfl (Stage.stateOf?_setState behind found)
  | reset hmock =>
    simp only [concern?, ite_eq_right_iff, reduceCtorEq, imp_false] at unconcerned
    rw [Stage.stateOf?_reset h hmock, if_neg unconcerned]

namespace Apart

/-- An operation that is admitted keeps the cells of members apart. -/
theorem begin (apart : view.Apart names stage) (h : stage.WellFormed)
    (admits : view.Admits names stage operation) : view.Apart names (stage.begin operation).2 := by
  have effect := stage.begin_effect operation
  constructor
  intro target member cell held
  rcases effect.held_cell h held with old | ⟨rfl, done, there⟩ | ⟨value, rfl, rfl, more⟩
  · obtain ⟨there, named⟩ := apart.held old
    exact ⟨Nat.lt_of_lt_of_le there effect.cells_length_le, named⟩
  · exact ⟨Nat.lt_of_lt_of_le there effect.cells_length_le, admits.2 done⟩
  · refine ⟨Nat.lt_of_lt_of_eq (Nat.lt_succ_self _) more.symm, ?_⟩
    rw [admits (by omega)]
    split <;> simp_all

/-- What does not concern the member leaves the stage alike. -/
theorem agrees (apart : view.Apart names stage) (h : stage.WellFormed)
    (admits : view.Admits names stage operation)
    (unconcerned : view.concern? names stage operation = none) :
    view.Agrees names names stage (stage.begin operation).2 := by
  have effect := stage.begin_effect operation
  have same := Agrees.refl apart
  constructor
  case mock =>
    rcases same.mock with ⟨mock, _, there, -⟩ | ⟨absent, -⟩
    · obtain ⟨mock', there', alike⟩ := effect.keeps h there
      exact .inl ⟨mock, mock', there, there', alike.symm⟩
    · refine .inr ⟨absent, ?_⟩
      rcases effect.mocks with ⟨surface, settings, rfl, mocks⟩ | length
      · simp only [concern?, ite_eq_right_iff, reduceCtorEq, imp_false] at unconcerned
        rw [mocks, List.length_append, List.length_singleton]
        omega
      · omega
  case state =>
    rw [stateOf?_unconcerned effect h unconcerned]
    exact same.state
  case cells =>
    intro cell cell' x named named'
    obtain rfl := names.injective named named'
    rw [cellAs, cellAs]
    rcases effect.touches cell with kept | touched
    · rw [kept]
    · -- No operation that does not concern the member changes a cell that has a name, other than by
      -- making it.
      have mine : ∀ {target member}, operation.target? = some (target, member) →
          ¬ (target = view.id ∧ member = view.name) := by
        rintro target member at' ⟨rfl, rfl⟩
        exact target?_ne unconcerned at'
      have isNamed : (names.name? cell).isSome := by rw [named]; rfl
      cases touched with
      | created made new put =>
        subst made new
        obtain ⟨n, rfl, rfl⟩ := admits x named
        rw [put, List.getElem?_eq_none (Nat.le_refl _)]
        rfl
      | own set new grown =>
        subst set new
        rw [admits grown, if_neg (mine rfl)] at isNamed
        cases isNamed
      | through set held =>
        subst set
        exact absurd ((apart.held held).2.1 isNamed) (mine rfl)
      | attached attach done =>
        subst attach
        exact absurd ((admits.2 done).1 isNamed) (mine rfl)
      | written write =>
        subst write
        have other := (admits x named).1
        cases x with
        | own => exact absurd rfl other
        | given n => simp [concern?, named] at unconcerned

end Apart

end Viewpoint

end Understudy
