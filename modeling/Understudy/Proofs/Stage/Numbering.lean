import Mathlib.Algebra.GroupWithZero.Nat
import Mathlib.Data.List.Perm.Basic
import Mathlib.Data.List.Range
import Understudy.Proofs.Stage.Records

/-!
# The numbers of records

All members of a mock number their records in one sequence. A step adds one record to one member
and takes the next number for it, or it adds none and leaves the numbers, or it drops all records
and leaves the next number. What follows for the numbers does not depend on the operations any
more.

* `Stage.Effect.ledgerMoves`: an operation changes the records of a mock in one of these ways.
* `Ledger.Moves.numbered`: each of them keeps the numbers in order.
* `Session.logged`: on every stage of a session the records of a mock are an exact history.
-/

namespace Understudy

/-- The members of a mock with their records. -/
abbrev Ledger := List (Member × List Record)

namespace Ledger

/-- The members. -/
def members (ledger : Ledger) : List Member := ledger.map (·.1)

/-- The numbers of all records. -/
def seqs (ledger : Ledger) : List UInt64 := ledger.flatMap fun entry => entry.2.map (·.seq)

/-- What the member records when the thing happens that is told of its name. -/
def recorded? (told : String → Option Happening) (m : Member) : Option Arguments :=
  (told m.name).bind (Happening.recorded? m.kind)

/-- How many of the members record something. -/
def recording (told : String → Option Happening) (members : List Member) : Nat :=
  members.countP fun m => (recorded? told m).isSome

/-- How the records of a mock and its next number move, given what happens to the members. -/
inductive Moves (told : String → Option Happening) : Ledger → UInt64 → Ledger → UInt64 → Prop
  | keeps {ledger : Ledger} {next : UInt64} :
      (∀ m ∈ ledger.members, recorded? told m = none) → Moves told ledger next ledger next
  | records {before behind : Ledger} {m : Member} {records : List Record} {record : Record}
      {next : UInt64} : record.seq = next → recorded? told m = some record.arguments →
      (∀ k ∈ members (before ++ behind), recorded? told k = none) →
      Moves told (before ++ (m, records) :: behind) next
        (before ++ (m, records ++ [record]) :: behind) (next + 1)
  | clears {ledger : Ledger} {next : UInt64} : (∀ name, told name = some .forgotten) →
      Moves told ledger next (ledger.map fun entry => (entry.1, [])) next

/-- What is known of the numbers of a mock on which so many records were made: they ascend in
    every log, none occurs twice, and all are below the next number, which tells how many records
    were made. If no record was dropped they are all the numbers below it. -/
structure Numbered (ledger : Ledger) (next : UInt64) (made : Nat) (kept : Prop) : Prop where
  next_eq : next.toNat = made
  increasing : ∀ entry ∈ ledger, (entry.2.map (·.seq)).Pairwise (· < ·)
  distinct : ledger.seqs.Nodup
  below : ∀ seq ∈ ledger.seqs, seq < next
  complete : kept → (ledger.seqs.map (·.toNat)).Perm (List.range made)

theorem recording_eq_zero {told : String → Option Happening} {members : List Member}
    (h : ∀ m ∈ members, recorded? told m = none) : recording told members = 0 := by
  rw [recording, List.countP_eq_zero]
  intro m mem
  rw [h m mem]
  exact Bool.false_ne_true

/-- Where one member records and no other does, one does. -/
theorem recording_eq_one {told : String → Option Happening} {before behind : Ledger} {m : Member}
    {records : List Record} {arguments : Arguments} (recorded : recorded? told m = some arguments)
    (others : ∀ k ∈ members (before ++ behind), recorded? told k = none) :
    recording told (members (before ++ (m, records) :: behind)) = 1 := by
  have zero := recording_eq_zero others
  rw [recording, members, List.map_append, List.countP_append] at zero ⊢
  rw [List.map_cons, List.countP_cons_of_pos (by rw [recorded]; rfl)]
  omega

theorem seqs_insert (before behind : Ledger) (m : Member) (records : List Record)
    (record : Record) :
    (seqs (before ++ (m, records ++ [record]) :: behind)).Perm
      (record.seq :: seqs (before ++ (m, records) :: behind)) := by
  have middle := @List.perm_middle _ record.seq (before.seqs ++ records.map (·.seq)) behind.seqs
  simpa [seqs] using middle

theorem seqs_clear (ledger : Ledger) : seqs (ledger.map fun entry => (entry.1, [])) = [] := by
  simp [seqs]

namespace Numbered

variable {ledger before behind : Ledger} {next : UInt64} {made : Nat} {kept kept' : Prop}

/-- Where there are no records there is nothing to keep. -/
theorem unrecorded (empty : ∀ entry ∈ ledger, entry.2 = []) : ledger.Numbered 0 0 kept := by
  have none : ledger.seqs = [] := by
    rw [seqs, List.flatMap_eq_nil_iff]
    intro entry mem
    rw [empty entry mem]
    rfl
  constructor
  case next_eq => rfl
  case increasing =>
    intro entry mem
    rw [empty entry mem]
    exact .nil
  case distinct =>
    rw [none]
    exact .nil
  case below =>
    intro seq mem
    rw [none] at mem
    cases mem
  case complete =>
    intro _
    rw [none]
    exact .nil

theorem weaken (h : ledger.Numbered next made kept) (weaker : kept' → kept) :
    ledger.Numbered next made kept' :=
  { h with complete := fun kept' => h.complete (weaker kept') }

/-- A new record has a number of its own, above all others. -/
theorem insert {m : Member} {records : List Record} {record : Record}
    (h : Numbered (before ++ (m, records) :: behind) record.seq made kept)
    (few : made + 1 < 2 ^ 64) :
    Numbered (before ++ (m, records ++ [record]) :: behind) (record.seq + 1) (made + 1) kept := by
  have next : (record.seq + 1).toNat = made + 1 := by
    rw [UInt64.toNat_add, h.next_eq]
    exact Nat.mod_eq_of_lt few
  have perm := seqs_insert before behind m records record
  have here := h.increasing (m, records) (by simp)
  -- All numbers were below the next one, which is the number of the new record. So the new record
  -- comes last in its log and has no number that was given before.
  constructor
  case next_eq => exact next
  case increasing =>
    intro entry mem
    have old := h.increasing
    simp only [List.mem_append, List.mem_cons] at mem old
    rcases mem with mem | rfl | mem
    · exact old entry (.inl mem)
    · rw [List.map_append, List.pairwise_append]
      refine ⟨here, List.pairwise_singleton _ _, fun seq mem last new => ?_⟩
      obtain rfl := List.mem_singleton.1 new
      exact h.below seq (List.mem_flatMap.2 ⟨(m, records), by simp, mem⟩)
    · exact old entry (.inr (.inr mem))
  case distinct =>
    rw [perm.nodup_iff, List.nodup_cons]
    exact ⟨fun mem => UInt64.lt_irrefl _ (h.below _ mem), h.distinct⟩
  case below =>
    intro seq mem
    rw [perm.mem_iff, List.mem_cons] at mem
    rw [UInt64.lt_iff_toNat_lt, next]
    rcases mem with rfl | mem
    · rw [h.next_eq]
      exact Nat.lt_succ_self made
    · have := UInt64.lt_iff_toNat_lt.1 (h.below seq mem)
      rw [h.next_eq] at this
      exact Nat.lt_succ_of_lt this
  case complete =>
    intro all
    rw [List.range_succ]
    refine (perm.map _).trans ?_
    rw [List.map_cons, h.next_eq]
    exact ((h.complete all).cons _).trans (List.perm_append_singleton _ _).symm

end Numbered

theorem Moves.numbered {told : String → Option Happening} {ledger after : Ledger}
    {next next' : UInt64} {made : Nat} {kept kept' : Prop}
    (move : Moves told ledger next after next') (h : ledger.Numbered next made kept)
    (few : made + recording told ledger.members < 2 ^ 64)
    (keeps : kept' → kept ∧ told "" ≠ some .forgotten) :
    after.Numbered next' (made + recording told ledger.members) kept' := by
  cases move with
  | keeps none =>
    rw [recording_eq_zero none, Nat.add_zero]
    exact h.weaken fun kept' => (keeps kept').1
  | @records before behind m records record _ numbered recorded others =>
    subst numbered
    rw [recording_eq_one recorded others] at few ⊢
    exact (h.weaken fun kept' => (keeps kept').1).insert few
  | clears forgotten =>
    -- Clearing all records makes none and takes no number back.
    have none : recording told ledger.members = 0 :=
      recording_eq_zero fun m _ => by rw [recorded?, forgotten]; rfl
    rw [none, Nat.add_zero]
    constructor
    case next_eq => exact h.next_eq
    case increasing =>
      intro entry mem
      obtain ⟨_, _, rfl⟩ := List.mem_map.1 mem
      exact .nil
    case distinct =>
      rw [seqs_clear]
      exact .nil
    case below =>
      intro seq mem
      rw [seqs_clear] at mem
      cases mem
    case complete => exact fun kept' => absurd (forgotten "") (keeps kept').2

end Ledger

/-! ## The ledger of a mock -/

namespace Mock

variable {mock : Mock} {name : String} {m : MockMember}

/-- The members of the mock with their records. -/
def ledger (mock : Mock) : Ledger := mock.members.map fun m => (m.spec, m.state.records)

theorem WellFormed.members_ledger (h : mock.WellFormed) :
    mock.ledger.members = mock.surface.value.members := by
  rw [← h.declared, ledger, Ledger.members, List.map_map]
  rfl

theorem ledger_create (id : MockId) (surface : Shared Surface) (settings : Settings) :
    ∀ entry ∈ (create id surface settings).ledger, entry.2 = [] := by
  intro entry mem
  simp only [ledger, create, List.mem_map] at mem
  obtain ⟨_, ⟨spec, _, rfl⟩, rfl⟩ := mem
  cases spec.kind <;> rfl

theorem ledger_reset : mock.reset.ledger = mock.ledger.map fun entry => (entry.1, []) := by
  rw [ledger, ledger, reset, List.map_map, List.map_map]
  refine List.map_congr_left fun m _ => ?_
  cases state : m.state <;> simp [state, MemberState.reset, MemberState.records]

/-- A new state of a member changes one entry, and no other has its name. -/
theorem ledger_setState (h : mock.WellFormed) (hm : mock.member name = .ok m) :
    ∃ before behind, mock.ledger = before ++ (m.spec, m.state.records) :: behind ∧
      (∀ k ∈ Ledger.members (before ++ behind), k.name ≠ name) ∧
      ∀ state, (mock.setState name state).ledger =
        before ++ (m.spec, state.records) :: behind := by
  obtain ⟨before, behind, split, changed⟩ := setState_members h.distinct hm
  refine ⟨_, _, by rw [ledger, split, List.map_append, List.map_cons], ?_, fun state => ?_⟩
  · have distinct := h.distinct
    have named := name_of_member hm
    rw [split, List.pairwise_append, List.pairwise_cons] at distinct
    obtain ⟨_, ⟨after, _⟩, across⟩ := distinct
    intro k mem
    rw [← List.map_append, Ledger.members, List.map_map] at mem
    obtain ⟨n, other, rfl⟩ := List.mem_map.1 mem
    rcases List.mem_append.1 other with other | other
    · exact named ▸ across n other m List.mem_cons_self
    · exact named ▸ (after n other).symm
  · rw [ledger, changed, List.map_append, List.map_cons]

theorem eq_spec_of_name (h : mock.WellFormed) (hm : mock.member name = .ok m) {k : Member}
    (mem : k ∈ mock.ledger.members) (named : k.name = name) : k = m.spec := by
  obtain ⟨before, behind, split, others, -⟩ := ledger_setState h hm
  rw [split, Ledger.members, List.map_append, List.map_cons, List.mem_append, List.mem_cons] at mem
  rw [Ledger.members, List.map_append] at others
  rcases mem with mem | same | mem
  · exact absurd named (others k (List.mem_append_left _ mem))
  · exact same
  · exact absurd named (others k (List.mem_append_right _ mem))

end Mock

namespace Stage

variable {stage : Stage} {id target : MockId} {name member : String} {mock target' : Mock}
  {m : MockMember} {state : MemberState} {told : String → Option Happening}

/-- How the records of a mock move to those on another stage. -/
def LedgerMoves (told : String → Option Happening) (mock : Mock) (after : Stage) (id : MockId) :
    Prop :=
  ∃ mock', after.mock id = .ok mock' ∧ mock'.surface = mock.surface ∧
    Ledger.Moves told mock.ledger mock.nextSeq mock'.ledger mock'.nextSeq

theorem LedgerMoves.untouched {after : Stage} (there : after.mock id = .ok mock)
    (none : ∀ m ∈ mock.ledger.members, Ledger.recorded? told m = none) :
    LedgerMoves told mock after id :=
  ⟨mock, there, rfl, .keeps none⟩

/-- A change that keeps the records of the member keeps all of them. -/
theorem LedgerMoves.setState (h : stage.WellFormed) (there : stage.mock id = .ok mock)
    (found : stage.At target member target' m) (same : state.records = m.state.records)
    (none : ∀ k ∈ mock.ledger.members, Ledger.recorded? told k = none) :
    LedgerMoves told mock (stage.putMock (target'.setState member state)) id := by
  have behind := h.mock_putMock found.1 (target'.setState member state) rfl id
  by_cases here : id = target
  · subst here
    obtain rfl := Except.ok.inj (there.symm.trans found.1)
    obtain ⟨before, after, split, -, changed⟩ := Mock.ledger_setState (h.of_mock there) found.2
    refine ⟨mock.setState member state, behind.trans (if_pos rfl), rfl, ?_⟩
    rw [changed, same, ← split]
    exact .keeps none
  · exact .untouched (behind.trans ((if_neg here).trans there)) none

/-- A record is added to those of one member, with the next number of the mock. -/
theorem LedgerMoves.record (happening : Happening) {arguments : Arguments}
    (h : stage.WellFormed) (there : stage.mock id = .ok mock)
    (found : stage.At target member target' m)
    (more : state.records = m.state.records ++ [target'.recordOf arguments])
    (recorded : happening.recorded? m.spec.kind = some arguments)
    (tells : ∀ name, told name = if target = id ∧ member = name then some happening else none) :
    LedgerMoves told mock (stage.putMock (target'.setState member state).advance) id := by
  have behind := h.mock_putMock found.1 (target'.setState member state).advance rfl id
  by_cases here : id = target
  · subst here
    obtain rfl := Except.ok.inj (there.symm.trans found.1)
    obtain ⟨before, after, split, others, changed⟩ :=
      Mock.ledger_setState (h.of_mock there) found.2
    refine ⟨(mock.setState member state).advance, behind.trans (if_pos rfl), rfl, ?_⟩
    have ledger : (mock.setState member state).advance.ledger =
        (mock.setState member state).ledger := rfl
    rw [ledger, changed, more, split]
    -- The new record takes the number that the mock had next; the other members are not told of.
    refine .records rfl ?_ fun k mem => ?_
    · rw [Ledger.recorded?, tells, Mock.name_of_member found.2, if_pos ⟨rfl, rfl⟩]
      exact recorded
    · rw [Ledger.recorded?, tells, if_neg fun same => others k mem same.2.symm]
      rfl
  · refine .untouched (behind.trans ((if_neg here).trans there)) fun k _ => ?_
    rw [Ledger.recorded?, tells, if_neg fun same => here same.1.symm]
    rfl

/-- An operation moves the records of a mock in one of the ways that keep the numbers in order. -/
theorem Effect.ledgerMoves {operation : Operation} {progress : Progress} {after : Stage}
    (effect : Effect stage operation progress after) (h : stage.WellFormed)
    (there : stage.mock id = .ok mock) :
    LedgerMoves (fun name => Step.happening? id name ⟨operation, progress⟩) mock after id := by
  cases effect with
  | refused engine =>
    refine .untouched there fun k _ => ?_
    rw [Ledger.recorded?, happening?_refused engine]
    rfl
  | createCell | write | peek | records | writeBacked => exact .untouched there fun _ _ => rfl
  | createMock =>
    refine .untouched ?_ fun _ _ => rfl
    rw [mock_eq_ok_iff] at there ⊢
    rw [List.getElem?_append_left (List.getElem?_eq_some_iff.1 there).1, there]
  | @call _ _ arguments _ _ _ _ found state =>
    refine .record (.called arguments) h there found (by rw [state]; rfl) rfl fun name => ?_
    simp [Step.happening?, accepted_progress]
  | @readField target member _ m _ found state =>
    -- A field is read without a record, so its kind is what matters here.
    refine .untouched there fun k mem => ?_
    by_cases here : target = id ∧ member = k.name
    · obtain ⟨rfl, rfl⟩ := here
      obtain rfl := Except.ok.inj (there.symm.trans found.1)
      have kind : m.spec.kind = .field := h.fits found state
      rw [Mock.eq_spec_of_name (h.of_mock there) found.2 mem rfl]
      simp [Ledger.recorded?, Step.happening?, Happening.recorded?, Progress.accepted, kind]
    · simp only [Ledger.recorded?, Step.happening?]
      rw [if_neg fun same => here ⟨same.1, same.2.1⟩]
      rfl
  | @readProperty _ _ _ m _ _ _ found state =>
    have kind : m.spec.kind = .property := h.fits found state
    refine .record .read h there found (by rw [state]; rfl) ?_ fun name => ?_
    · rw [kind]
      rfl
    · simp [Step.happening?, Progress.accepted]
  | writeField found state =>
    exact .setState h there found (by rw [state]; rfl) fun _ _ => rfl
  | writeUnbacked found state =>
    exact .setState (h.of_mocks_eq rfl) there found (by rw [state]; rfl) fun _ _ => rfl
  | declare found state =>
    refine .setState h there found (by rw [state]; rfl) fun k _ => ?_
    simp only [Ledger.recorded?, Step.happening?]
    split <;> rfl
  | attach found state =>
    exact .setState (h.of_mocks_eq rfl) there found (by rw [state]; rfl) fun _ _ => rfl
  | @reset target reset hmock =>
    have behind := h.mock_putMock hmock reset.reset rfl id
    by_cases here : id = target
    · subst here
      obtain rfl := Except.ok.inj (there.symm.trans hmock)
      refine ⟨mock.reset, behind.trans (if_pos rfl), rfl, ?_⟩
      rw [Mock.ledger_reset]
      exact .clears fun name => by simp [Step.happening?, Progress.accepted]
    · refine .untouched (behind.trans ((if_neg here).trans there)) fun k _ => ?_
      simp [Ledger.recorded?, Step.happening?, Ne.symm here]

/-- Only the making of a mock adds to the mocks. -/
theorem Effect.mocks {operation : Operation} {progress : Progress} {after : Stage}
    (effect : Effect stage operation progress after) :
    (∃ surface settings, operation = .createMock surface settings ∧
      after.mocks = stage.mocks ++ [Mock.create ⟨stage.mocks.length⟩ surface settings]) ∨
      after.mocks.length = stage.mocks.length := by
  cases effect with
  | createMock => exact .inl ⟨_, _, rfl, rfl⟩
  | refused | createCell | write | peek | records | readField | writeBacked => exact .inr rfl
  | call | readProperty | writeField | writeUnbacked | declare | attach | reset =>
    exact .inr (List.length_set ..)

/-- A mock that was not there before is a new one. -/
theorem Effect.created {operation : Operation} {progress : Progress} {after : Stage}
    (effect : Effect stage operation progress after) (absent : ∀ old, stage.mock id ≠ .ok old)
    (there : after.mock id = .ok mock) :
    ∃ surface settings, operation = .createMock surface settings ∧
      mock = Mock.create id surface settings := by
  rw [mock_eq_ok_iff] at there
  have bound : stage.mocks.length ≤ id.index := by
    rw [← List.getElem?_eq_none_iff, Option.eq_none_iff_forall_ne_some]
    exact fun old found => absent old (mock_eq_ok_iff.2 found)
  rcases effect.mocks with ⟨surface, settings, rfl, mocks⟩ | same
  · rw [mocks, List.getElem?_append_right bound, List.getElem?_singleton] at there
    split at there
    · next last =>
      obtain rfl := Option.some.inj there
      have place : stage.mocks.length = id.index := by omega
      exact ⟨surface, settings, rfl, by rw [place]⟩
    · cases there
  · have := (List.getElem?_eq_some_iff.1 there).1
    omega

end Stage

/-! ## Sessions -/

/-- How many records the members of a mock ever made. -/
def made (id : MockId) (steps : List Step) (members : List Member) : Nat :=
  (members.map fun m => ((historyOf id m.name steps).recordings m.kind).length).sum

theorem made_cons (id : MockId) (step : Step) (steps : List Step) (members : List Member) :
    made id (step :: steps) members =
      made id steps members + Ledger.recording (step.happening? id) members := by
  induction members with
  | nil => rfl
  | cons m members ih =>
    have here : ((historyOf id m.name (step :: steps)).recordings m.kind).length =
        ((historyOf id m.name steps).recordings m.kind).length +
          if (Ledger.recorded? (step.happening? id) m).isSome then 1 else 0 := by
      rw [historyOf_cons, History.recordings, List.filterMap_append, List.length_append,
        Nat.add_comm, Ledger.recorded?]
      congr 1
      rcases step.happening? id m.name with _ | happening
      · rfl
      · cases told : happening.recorded? m.kind <;> simp [told]
    simp only [made, List.map_cons, List.sum_cons, Ledger.recording, List.countP_cons] at ih ⊢
    omega

theorem made_le_append (id : MockId) (more steps : List Step) (members : List Member) :
    made id steps members ≤ made id (more ++ steps) members := by
  induction more with
  | nil => exact Nat.le_refl _
  | cons step more ih =>
    rw [List.cons_append, made_cons]
    exact Nat.le_trans ih (Nat.le_add_right _ _)

/-- Nothing was recorded on a mock that is not there yet. -/
theorem Session.made_eq_zero {steps : List Step} {stage : Stage} {id : MockId}
    (session : Session steps stage) (absent : ∀ old, stage.mock id ≠ .ok old)
    (members : List Member) : made id steps members = 0 := by
  have missing : stage.mocks[id.index]? = none := by
    rw [Option.eq_none_iff_forall_ne_some]
    exact fun old found => absent old (Stage.mock_eq_ok_iff.2 found)
  induction members with
  | nil => rfl
  | cons m members ih =>
    have unmade : stage.stateOf? id m.name = none := by rw [Stage.stateOf?, missing]; rfl
    rw [made, List.map_cons, List.sum_cons, (session.told id m.name).unmade unmade,
      List.length_nil, Nat.zero_add]
    exact ih

/-- On every stage of a session the records of a mock are numbered in order. -/
theorem Session.numbered {steps : List Step} {stage : Stage} {id : MockId} {mock : Mock}
    (session : Session steps stage) (there : stage.mock id = .ok mock)
    (few : made id steps mock.surface.value.members < 2 ^ 64) :
    mock.ledger.Numbered mock.nextSeq (made id steps mock.surface.value.members)
      (∀ name, .forgotten ∉ historyOf id name steps) := by
  induction session generalizing mock with
  | start => cases there
  | @step steps stage operation session ih =>
    have h := session.wellFormed
    rw [made_cons] at few ⊢
    -- Either the mock was there before the step, with fewer records, or the step made it.
    by_cases present : ∃ old, stage.mock id = .ok old
    · obtain ⟨old, present⟩ := present
      obtain ⟨mock', there', surface, move⟩ :=
        (stage.begin_effect operation).ledgerMoves h present
      obtain rfl := Except.ok.inj (there.symm.trans there')
      have numbered := ih present
      rw [surface, ← (h.of_mock present).members_ledger] at few ⊢
      rw [← (h.of_mock present).members_ledger] at numbered
      refine move.numbered (numbered (by omega)) few fun kept =>
        ⟨fun name mem => ?_, fun told => ?_⟩
      · refine kept name ?_
        rw [historyOf_cons]
        exact List.mem_append_right _ mem
      · refine kept "" ?_
        rw [historyOf_cons, told]
        exact List.mem_cons_self
    · obtain ⟨surface, settings, rfl, rfl⟩ :=
        (stage.begin_effect operation).created (not_exists.1 present) there
      rw [session.made_eq_zero (not_exists.1 present), Ledger.recording_eq_zero fun _ _ => rfl]
      exact .unrecorded (Mock.ledger_create id surface settings)

/-- The numbers of all records of the mock. -/
def Mock.seqs (mock : Mock) : List UInt64 :=
  mock.members.flatMap fun m => m.state.records.map (·.seq)

/-- The records of a mock are an exact history of its members: those of a member are the calls
    that passed the checks, or the readings of a property, since the last reset. Their numbers
    ascend, no number is given twice, and the next number tells how many records were ever made;
    without a reset the numbers are all those below it. -/
structure Stage.Logged (stage : Stage) (id : MockId) (steps : List Step) (mock : Mock) : Prop where
  passed : ∀ name m arguments, mock.member name = .ok m → m.spec.kind.isCallable = true →
    ((stage.begin (.call id name arguments)).1.accepted = true ↔
      m.spec.mismatch? mock.settings.coercion arguments = none)
  read : ∀ name, (stage.begin (.get id name)).1.accepted = true ↔
    ∃ value, (stage.begin (.get id name)).1 = .finished (.ok (.value value))
  log : ∀ name m, mock.member name = .ok m →
    m.state.records.map (·.arguments) = (historyOf id name steps).log m.spec.kind
  increasing : ∀ m ∈ mock.members, (m.state.records.map (·.seq)).Pairwise (· < ·)
  distinct : mock.seqs.Nodup
  below : ∀ seq ∈ mock.seqs, seq < mock.nextSeq
  next : mock.nextSeq.toNat = made id steps mock.surface.value.members
  complete : (∀ name, .forgotten ∉ historyOf id name steps) →
    (mock.seqs.map (·.toNat)).Perm (List.range mock.nextSeq.toNat)

/-- On every stage of a session on which a mock made fewer records than there are numbers, its
    records are an exact history. -/
theorem Session.logged {steps : List Step} {stage : Stage} {id : MockId} {mock : Mock}
    (session : Session steps stage) (there : stage.mock id = .ok mock)
    (few : made id steps mock.surface.value.members < 2 ^ 64) :
    stage.Logged id steps mock := by
  have h := session.wellFormed
  have numbered := session.numbered there few
  have seqs : mock.ledger.seqs = mock.seqs := by
    rw [Mock.ledger, Ledger.seqs, List.flatMap_map]
    rfl
  constructor
  case passed =>
    intro name m arguments found callable
    exact Stage.accepted_call_iff h ⟨there, found⟩ callable arguments
  case read => exact fun name => (stage.begin_effect (.get id name)).accepted_get_iff
  case log =>
    intro name m found
    have at' : stage.At id name mock m := ⟨there, found⟩
    have told := session.told id name
    rw [Stage.stateOf?_of_at at'] at told
    exact told.log m.spec.kind (h.fits at' rfl)
  case increasing =>
    intro m mem
    exact numbered.increasing (m.spec, m.state.records) (List.mem_map_of_mem mem)
  case distinct => exact seqs ▸ numbered.distinct
  case below => exact seqs ▸ numbered.below
  case next => exact numbered.next_eq
  case complete =>
    intro kept
    rw [numbered.next_eq, ← seqs]
    exact numbered.complete kept

theorem Session.logged_dialogue :
    ∃ mock, (performed Sample.dialogue).2.mock ⟨0⟩ = .ok mock ∧
      (performed Sample.dialogue).2.Logged ⟨0⟩ (performed Sample.dialogue).1 mock :=
  ⟨_, rfl, Session.logged (.of_performed _) rfl (by decide +kernel)⟩

end Understudy
