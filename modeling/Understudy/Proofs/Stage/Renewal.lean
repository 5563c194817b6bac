import Understudy.Proofs.Stage.Holding
import Understudy.Proofs.Stage.ShiftRun

/-!
# A mock behind a reset

A mock that was reset is as good as new. A new mock in its place, with the same values in its
fields and the same cells behind its properties, would answer everything in the same way, save that
its records would be numbered from zero again, while those of the mock that was reset are numbered
on from where they were.

* `Mock.reset_eq_shift`: a mock that was reset is a renewed mock with shifted numbers.
* `Session.reset_renews`: on every stage of a session, whatever is done behind a reset comes to the
  same as with a renewed mock, but for the numbers of records. The functions that are run meanwhile
  must not look at numbers.
* `Session.reset_observed`: a function that looks at them tells the two apart.
-/

namespace Understudy

/-- The state with what is held put into it, if it is one to hold it. -/
def MemberState.hold : MemberState → Option Held → MemberState
  | .field _, some (.value value) => .field (some value)
  | .property _ records, some (.cell id) => .property (some id) records
  | state, _ => state

/-- What the member of the given name holds. -/
def Mock.held? (mock : Mock) (name : String) : Option Held :=
  (mock.stateOf? name).bind (·.held?)

/-- A new mock of the same surface and settings, whose members hold the same. -/
def Mock.renew (mock : Mock) : Mock :=
  let new := Mock.create mock.id mock.surface mock.settings
  { new with
    members := new.members.map fun m => { m with state := m.state.hold (mock.held? m.spec.name) } }

/-- Numbers that are shifted for one mock only. -/
def Gaps.at (id : MockId) (gap : UInt64) : Gaps := fun other => if other = id then gap else 0

/-- A state without rules and records is a new one that holds the same. -/
theorem MemberState.fresh_hold {state : MemberState} {kind : MemberKind} (h : state.Fits kind) :
    (fresh kind).hold state.held? = state.reset := by
  cases state with
  | callable records rules => cases kind <;> first | rfl | cases h
  | field value =>
    obtain rfl : kind = .field := h
    cases value <;> rfl
  | property cell records =>
    obtain rfl : kind = .property := h
    cases cell <;> rfl

namespace MemberState

variable {state : MemberState} {kind : MemberKind} {held : Option Held}

theorem hold_fits (h : state.Fits kind) : (state.hold held).Fits kind := by
  rcases state with _ | _ | _ <;> rcases held with _ | _ | _ <;> exact h

theorem records_hold : (state.hold held).records = state.records := by
  rcases state with _ | _ | _ <;> rcases held with _ | _ | _ <;> rfl

theorem hold_unnumbered (h : Unnumbered (some state)) : Unnumbered (some (state.hold held)) := by
  rcases state with _ | _ | _ <;> rcases held with _ | _ | _ <;> exact h

theorem fresh_records : (fresh kind).records = [] := by
  cases kind <;> rfl

theorem fresh_unnumbered : Unnumbered (some (fresh kind)) := by
  cases kind with
  | method | callable => exact fun _ mem => absurd mem List.not_mem_nil
  | field | property => trivial

end MemberState

theorem MemberState.shift_of_reset (gap : UInt64) (state : MemberState) :
    state.reset.shift gap = state.reset := by
  cases state <;> rfl

theorem MemberState.held?_shift (gap : UInt64) (state : MemberState) :
    (state.shift gap).held? = state.held? := by
  rcases state with _ | (_ | _) | (_ | _) <;> rfl

namespace Mock

variable {mock : Mock} {m : MockMember}

/-- Where names are distinct, a member is the one of its name. -/
theorem WellFormed.member_of_mem (h : mock.WellFormed) (mem : m ∈ mock.members) :
    mock.member m.spec.name = .ok m := by
  obtain ⟨before, after, split⟩ := List.append_of_mem mem
  have distinct := h.distinct
  rw [split, List.pairwise_append] at distinct
  rw [member_eq_ok_iff, List.find?_eq_some_iff_append]
  refine ⟨beq_self_eq_true _, before, after, split, fun k before => ?_⟩
  simpa using distinct.2.2 k before m List.mem_cons_self

/-- The mock carries the label that a new one would carry. -/
def Labelled (mock : Mock) : Prop :=
  mock.label = (Mock.create mock.id mock.surface mock.settings).label

/-- A mock that was reset is a renewed one that goes on numbering from its next number. -/
theorem reset_eq_shift (h : mock.WellFormed) (labelled : mock.Labelled) (gaps : Gaps)
    (gap : gaps mock.id = mock.nextSeq) : mock.reset = mock.renew.shift gaps := by
  have members : mock.reset.members = (mock.renew.shift gaps).members := by
    simp only [reset, renew, create, shift, ← h.declared, List.map_map]
    refine List.map_congr_left fun m mem => ?_
    have held : mock.held? m.spec.name = m.state.held? := by
      rw [held?, stateOf?_of_member (h.member_of_mem mem), Option.bind_some]
    simp only [Function.comp_apply, MockMember.shift, held, MemberState.fresh_hold (h.fits m mem),
      MemberState.shift_of_reset]
  have next : mock.reset.nextSeq = (mock.renew.shift gaps).nextSeq := by
    change mock.nextSeq = 0 + gaps mock.id
    rw [UInt64.zero_add, gap]
  exact (Mock.mk.injEq ..).mpr ⟨rfl, labelled, rfl, rfl, members, next⟩

theorem held?_reset (mock : Mock) (name : String) : mock.reset.held? name = mock.held? name := by
  rw [held?, stateOf?_reset, held?, Option.bind_map]
  congr 1
  exact funext MemberState.held?_reset

theorem held?_shift (mock : Mock) (gaps : Gaps) (name : String) :
    (mock.shift gaps).held? name = mock.held? name := by
  have found := find?_map_state name (·.shift (gaps mock.id)) (fun _ => rfl) mock.members
  rw [held?, stateOf?, shift, found, held?, stateOf?, Option.map_map, Option.bind_map,
    Option.bind_map]
  congr 1
  funext m
  exact MemberState.held?_shift (gaps mock.id) m.state

/-- A renewed mock is alike the old one, and its members hold the same. -/
theorem renew_alike (h : mock.WellFormed) (labelled : mock.Labelled) :
    mock.renew.Alike mock ∧ ∀ name, mock.renew.held? name = mock.held? name := by
  refine ⟨⟨rfl, labelled.symm, rfl, rfl⟩, fun name => ?_⟩
  have same := reset_eq_shift h labelled (fun _ => mock.nextSeq) rfl
  rw [← held?_reset mock, same, held?_shift]

theorem Alike.labelled {old : Mock} (alike : mock.Alike old) (h : old.Labelled) :
    mock.Labelled := by
  rw [Labelled, alike.label, h, create, create, alike.id, alike.surface, alike.settings]

end Mock

/-! ## Renewed mocks -/

namespace Mock

variable {mock : Mock} {m : MockMember}

/-- The members of a renewed mock are new ones that hold something. -/
theorem of_mem_renew (mem : m ∈ mock.renew.members) :
    ∃ spec ∈ mock.surface.value.members, ∃ held,
      m = ⟨spec, (MemberState.fresh spec.kind).hold held⟩ := by
  obtain ⟨new, made, rfl⟩ := List.mem_map.1 mem
  obtain ⟨spec, declared, rfl⟩ := List.mem_map.1 made
  exact ⟨spec, declared, _, rfl⟩

@[simp] theorem renew_surface (mock : Mock) : mock.renew.surface = mock.surface := rfl

theorem renew_wellFormed (mock : Mock) : mock.renew.WellFormed := by
  constructor
  · simp [renew, create, Function.comp_def]
  · intro m mem
    obtain ⟨spec, _, held, rfl⟩ := of_mem_renew mem
    exact MemberState.hold_fits (MemberState.fresh_fits spec.kind)

theorem ledger_renew (mock : Mock) : ∀ entry ∈ mock.renew.ledger, entry.2 = [] := by
  intro entry mem
  obtain ⟨m, there, rfl⟩ := List.mem_map.1 mem
  obtain ⟨spec, _, held, rfl⟩ := of_mem_renew there
  exact MemberState.records_hold.trans MemberState.fresh_records

theorem renew_unnumbered (mock : Mock) (name : String) :
    MemberState.Unnumbered (mock.renew.stateOf? name) := by
  rcases found : mock.renew.stateOf? name with _ | state
  · trivial
  · obtain ⟨m, there, rfl⟩ := Option.map_eq_some_iff.1 found
    obtain ⟨spec, _, held, rfl⟩ := of_mem_renew (List.mem_of_find?_eq_some there)
    exact MemberState.hold_unnumbered MemberState.fresh_unnumbered

end Mock

/-! ## Where a mock is in a session -/

/-- On every stage of a session a mock carries the label that a new one would carry. -/
theorem Session.labelled {steps : List Step} {stage : Stage} {id : MockId} {mock : Mock}
    (session : Session steps stage) (there : stage.mock id = .ok mock) : mock.Labelled := by
  induction session generalizing mock with
  | start => cases there
  | @step steps stage operation session ih =>
    have effect := stage.begin_effect operation
    by_cases present : ∃ old, stage.mock id = .ok old
    · obtain ⟨old, present⟩ := present
      obtain ⟨mock', there', alike⟩ := effect.keeps session.wellFormed present
      obtain rfl := Except.ok.inj (there.symm.trans there')
      exact alike.labelled (ih present)
    · obtain ⟨surface, settings, -, rfl⟩ := effect.created (not_exists.1 present) there
      rfl

/-- The next number moves on with every record. -/
theorem Ledger.Moves.next_eq {told : String → Option Happening} {ledger after : Ledger}
    {next next' : UInt64} (move : Moves told ledger next after next') :
    next' = next + UInt64.ofNat (recording told ledger.members) := by
  cases move with
  | keeps none =>
    rw [recording_eq_zero none]
    exact (UInt64.add_zero next).symm
  | records numbered recorded others =>
    rw [recording_eq_one recorded others]
    rfl
  | clears forgotten =>
    rw [recording_eq_zero fun m _ => by rw [recorded?, forgotten]; rfl]
    exact (UInt64.add_zero next).symm

/-- The next number of a mock tells how many records were made on it, as far as there are
    numbers. -/
theorem Session.nextSeq_eq {steps : List Step} {stage : Stage} {id : MockId} {mock : Mock}
    (session : Session steps stage) (there : stage.mock id = .ok mock) :
    mock.nextSeq = UInt64.ofNat (made id steps mock.surface.value.members) := by
  induction session generalizing mock with
  | start => cases there
  | @step steps stage operation session ih =>
    have effect := stage.begin_effect operation
    rw [made_cons]
    by_cases present : ∃ old, stage.mock id = .ok old
    · obtain ⟨old, present⟩ := present
      obtain ⟨mock', there', surface, move⟩ := effect.ledgerMoves session.wellFormed present
      obtain rfl := Except.ok.inj (there.symm.trans there')
      rw [move.next_eq, ih present, surface, UInt64.ofNat_add,
        (session.wellFormed.of_mock present).members_ledger]
    · -- Nothing is recorded of a mock before it is made, nor in the step that makes it.
      obtain ⟨surface, settings, rfl, rfl⟩ := effect.created (not_exists.1 present) there
      rw [session.made_eq_zero (not_exists.1 present), Ledger.recording_eq_zero fun _ _ => rfl]
      rfl

/-! ## What is told of records -/

/-- The records that are told of the mock in the step. -/
def Step.told (id : MockId) : Step → List Record
  | ⟨.records target _, .finished (.ok (.records _ records))⟩ =>
    if target = id then records else []
  | _ => []

namespace Stage

variable {stage : Stage} {id : MockId} {mock : Mock}

/-- What is told of a mock are records of the mock. -/
theorem Effect.told_mem {operation : Operation} {progress : Progress} {after : Stage}
    (effect : Effect stage operation progress after) (there : stage.mock id = .ok mock)
    {record : Record} (told : record ∈ Step.told id ⟨operation, progress⟩) :
    record.seq ∈ mock.ledger.seqs := by
  cases effect with
  | refused => cases operation <;> cases told
  | createMock | createCell | call | readField | readProperty | writeField | writeBacked
  | writeUnbacked | declare | attach | write | peek | reset => cases told
  | @records target _ _ m found =>
    simp only [Step.told] at told
    split at told
    · next same =>
      subst same
      obtain rfl := Except.ok.inj (there.symm.trans found.1)
      refine List.mem_flatMap.2 ⟨(m.spec, m.state.records), ?_, List.mem_map_of_mem told⟩
      exact List.mem_map_of_mem (f := fun m : MockMember => (m.spec, m.state.records))
        (Mock.mem_of_member found.2)
    · cases told

/-- If there are numbers for all records, what is told is numbered below the number of records. -/
theorem told_lt (operations : List Operation) {count : Nat} (h : stage.WellFormed)
    (there : stage.mock id = .ok mock) (numbered : mock.ledger.Numbered mock.nextSeq count False)
    (few : count + made id (stage.perform operations).1 mock.surface.value.members < 2 ^ 64) :
    ∀ step ∈ (stage.perform operations).1, ∀ record ∈ step.told id,
      record.seq.toNat <
        count + made id (stage.perform operations).1 mock.surface.value.members := by
  induction operations generalizing stage mock count with
  | nil => exact fun _ mem => absurd mem List.not_mem_nil
  | cons operation later ih =>
    have effect := stage.begin_effect operation
    obtain ⟨mock', there', surface, move⟩ := effect.ledgerMoves h there
    simp only [perform, made_cons] at few ⊢
    have few' := few
    rw [← (h.of_mock there).members_ledger] at few'
    have behind := move.numbered numbered (by omega) (False.elim : False → _)
    rw [(h.of_mock there).members_ledger] at behind
    intro step mem record told
    -- What this step tells was recorded before it; later steps are told from behind it.
    rcases List.mem_cons.1 mem with rfl | mem
    · have below := UInt64.lt_iff_toNat_lt.1 (numbered.below _ (effect.told_mem there told))
      rw [numbered.next_eq] at below
      omega
    · have := ih (effect.wellFormed h) there' behind (by rw [surface]; omega) step mem record told
      rw [surface] at this
      omega

end Stage

/-! ## Behind a reset -/

namespace Stage

variable {stage : Stage} {id : MockId} {mock : Mock}

/-- Where only the mock of the id is shifted, the others are as they were. -/
theorem shift_putMock_at (h : stage.WellFormed) (there : stage.mock id = .ok mock) (new : Mock)
    (same : new.id = mock.id) (gap : UInt64) :
    (stage.putMock new).shift (.at id gap) = stage.putMock (new.shift (.at id gap)) := by
  have own : new.id = id := same.trans (h.id_eq there)
  simp only [putMock, shift, Mock.shift_id, List.map_set, own]
  congr 1
  refine List.ext_getElem? fun i => ?_
  rw [List.getElem?_set, List.getElem?_set, List.length_map, List.getElem?_map]
  split
  · rfl
  · next other =>
    rcases found : stage.mocks[i]? with _ | k
    · rfl
    · -- A mock in another place has another id.
      have place := (h i k found).1
      have unshifted : Gaps.at id gap k.id = 0 :=
        if_neg fun here : k.id = id => other (by rw [← here, place])
      rw [Option.map_some, Mock.shift_zero unshifted]

/-- The stage with a renewed mock in place of the one of the id. -/
def renewed (stage : Stage) (mock : Mock) : Stage := stage.putMock mock.renew

theorem renewed_shiftable (h : stage.WellFormed) (there : stage.mock id = .ok mock)
    (gap : UInt64) : (stage.renewed mock).Shiftable (.at id gap) := by
  refine ⟨h.putMock there rfl mock.renew_wellFormed, fun other bound => if_neg ?_⟩
  rintro rfl
  have inside := (List.getElem?_eq_some_iff.1 (mock_eq_ok_iff.1 there)).1
  rw [renewed, putMock, List.length_set] at bound
  omega

/-- The stage behind a reset is the stage with a renewed mock, which goes on with its numbers. -/
theorem begin_reset (h : stage.WellFormed) (there : stage.mock id = .ok mock)
    (labelled : mock.Labelled) {count : Nat} (next : mock.nextSeq = .ofNat count) :
    stage.begin (.reset id) =
      (.finished (.ok .done), (stage.renewed mock).shift (.at id (.ofNat count))) := by
  have gap : Gaps.at id (.ofNat count) mock.id = mock.nextSeq := by
    rw [next]
    exact if_pos (h.id_eq there)
  rw [renewed, shift_putMock_at h there mock.renew rfl,
    ← Mock.reset_eq_shift (h.of_mock there) labelled _ gap]
  simp only [begin, there]
  rfl

/-- What further operations come to behind a reset of the mock, on which so many records were made
    before: the same as on the stage with a renewed mock in its place, but for the numbers of its
    records. These are larger by the number of records that were made before, as far as there are
    numbers. -/
structure ResetRenews (stage : Stage) (id : MockId) (mock : Mock) (count : Nat) : Prop where
  /-- The renewed mock is alike the old one, and its members hold the same. -/
  alike : mock.renew.Alike mock ∧ ∀ name, mock.renew.held? name = mock.held? name
  /-- The reset itself. -/
  done : (stage.begin (.reset id)).1 = .finished (.ok .done)
  /-- The steps of any further operations, those included that functions perform. -/
  steps : ∀ operations, ((stage.begin (.reset id)).2.perform operations).1 =
    ((stage.renewed mock).perform operations).1.map (·.shift (.at id (.ofNat count)))
  /-- What is told afterwards, and which calls may be rehearsed. -/
  tells : ∀ operations, ((stage.begin (.reset id)).2.perform operations).2.TellsAlike
    ((stage.renewed mock).perform operations).2
  /-- The numbers in these steps. -/
  larger : ∀ operations,
    count + made id ((stage.renewed mock).perform operations).1 mock.surface.value.members <
      2 ^ 64 →
    ∀ step ∈ ((stage.renewed mock).perform operations).1, ∀ record ∈ step.told id,
      (record.shift (.ofNat count)).seq.toNat = record.seq.toNat + count
  /-- Further operations that are run to their ends, if no function looks at numbers. -/
  runs : (∀ id name, MemberState.Unnumbered (stage.stateOf? id name)) →
    ∀ operations, (∀ operation ∈ operations, Operation.Unnumbered operation) → ∀ depth,
      ((stage.begin (.reset id)).2.runAll depth operations).map (·.1) =
        ((stage.renewed mock).runAll depth operations).map
          (·.1.map (·.shift (.at id (.ofNat count))))

end Stage

/-- On every stage of a session a mock behind a reset is as good as new. -/
theorem Session.reset_renews {steps : List Step} {stage : Stage} {id : MockId} {mock : Mock}
    (session : Session steps stage) (there : stage.mock id = .ok mock) :
    stage.ResetRenews id mock (made id steps mock.surface.value.members) := by
  have h := session.wellFormed
  have next := session.nextSeq_eq there
  -- Behind the reset the stage is one with a new mock, shifted by the number of its records.
  generalize made id steps mock.surface.value.members = count at next
  have shiftable := Stage.renewed_shiftable h there (.ofNat count)
  have reset := Stage.begin_reset h there (session.labelled there) next
  have new : (stage.renewed mock).mock id = .ok mock.renew :=
    (h.mock_putMock there mock.renew rfl id).trans (if_pos rfl)
  constructor
  case alike => exact Mock.renew_alike (h.of_mock there) (session.labelled there)
  case done => rw [reset]
  case steps =>
    intro operations
    rw [reset, Stage.perform_shift operations shiftable]
  case tells =>
    intro operations
    rw [reset, Stage.perform_shift operations shiftable]
    exact Stage.tellsAlike_shift (shiftable.perform operations).wellFormed
  case larger =>
    intro operations few step mem record told
    -- The new mock has recorded nothing, so what it tells of is numbered from zero.
    have unrecorded : mock.renew.ledger.Numbered mock.renew.nextSeq 0 False :=
      .unrecorded mock.ledger_renew
    have below := Stage.told_lt operations shiftable.wellFormed new unrecorded
      (by rw [Mock.renew_surface]; omega) step mem record told
    rw [Mock.renew_surface] at below
    have fits : record.seq.toNat + count < 2 ^ 64 := by omega
    rw [Record.shift, UInt64.toNat_add, UInt64.toNat_ofNat', Nat.add_mod_mod]
    exact Nat.mod_eq_of_lt fits
  case runs =>
    intro unnumbered operations blind depth
    rw [reset, Stage.runAll_shift depth blind ⟨shiftable, ?_⟩, Option.map_map]
    · rfl
    · intro other name
      rw [Stage.renewed, h.stateOf?_putMock there mock.renew rfl]
      split
      · exact mock.renew_unnumbered name
      · exact unnumbered other name

/-- A session with a mock that made two records and holds a value and a cell. -/
def Sample.resumption : List Operation :=
  [.get ⟨0⟩ "meaning_of_life",
    .set ⟨0⟩ "meaning_of_life" (.str "justice"),
    .set ⟨0⟩ "age" (.int 28),
    .call ⟨0⟩ "think" (.ofList [.str "virtue"]),
    .createMock ⟨0, philosopherSurface⟩ (.named none)]

theorem Session.reset_renews_resumption :
    ∃ mock, (performed Sample.resumption).2.mock ⟨0⟩ = .ok mock ∧
      (performed Sample.resumption).2.ResetRenews ⟨0⟩ mock 2 :=
  ⟨_, rfl, Session.reset_renews (.of_performed Sample.resumption) rfl⟩

/-- A function that answers the number of the last record of what the first mock thought. -/
def Sample.introspection : Arguments → Script := fun _ =>
  .perform (.records ⟨0⟩ "think") fun
    | .ok (.records _ records) =>
      .settle ((records.getLast?.map fun record => .int record.seq.toInt64).getD .nil)
    | _ => .settle .nil

/-- The function is registered and called; then another mock is made, called, and asked for its
    records. -/
def Sample.introspecting : List Operation :=
  [.declare ⟨0⟩ "think" .anyCall [.function introspection],
    .call ⟨0⟩ "think" (.ofList [.str "justice"]),
    .createMock ⟨0, philosopherSurface⟩ (.named none),
    .call ⟨1⟩ "think" (.ofList [.str "virtue"]),
    .records ⟨1⟩ "think"]

/-- Behind a reset a function that looks at numbers answers otherwise than on a renewed mock, while
    the records of another mock are numbered as they are there. -/
theorem Session.reset_observed :
    ∃ mock, (performed Sample.resumption).2.mock ⟨0⟩ = .ok mock ∧
      (((performed Sample.resumption).2.begin (.reset ⟨0⟩)).2.runAll 1 Sample.introspecting).map
          (·.1.map (·.progress)) =
        some [.finished (.ok .done), .finished (.ok (.value (.int 2))),
          .finished (.ok (.mock ⟨1⟩)), .finished (.ok (.value (.str ""))),
          .finished (.ok (.records "Philosopher#2.think" [⟨.ofList [.str "virtue"], 0⟩]))] ∧
      (((performed Sample.resumption).2.renewed mock).runAll 1 Sample.introspecting).map
          (·.1.map (·.progress)) =
        some [.finished (.ok .done), .finished (.ok (.value (.int 0))),
          .finished (.ok (.mock ⟨1⟩)), .finished (.ok (.value (.str ""))),
          .finished (.ok (.records "Philosopher#2.think" [⟨.ofList [.str "virtue"], 0⟩]))] ∧
      ¬ ∀ operations depth, ∃ gaps,
        (((performed Sample.resumption).2.begin (.reset ⟨0⟩)).2.runAll depth operations).map
            (·.1) =
          (((performed Sample.resumption).2.renewed mock).runAll depth operations).map
            (·.1.map (·.shift gaps)) := by
  refine ⟨_, rfl, rfl, rfl, fun renews => ?_⟩
  obtain ⟨gaps, same⟩ := renews Sample.introspecting 1
  have answers := congrArg (Option.map fun steps => (steps[1]?).map (·.progress)) same
  change some (some (Stage.Progress.finished (.ok (.value (.int 2))))) =
    some (some (Stage.Progress.finished (.ok (.value (.int 0))))) at answers
  simp at answers

end Understudy
