import Mathlib.Data.Finset.Card
import Understudy.Agency
import Understudy.Proofs.Stage.Holding
import Understudy.Sample.Surfaces

/-!
# Surfaces are described once

Whatever is asked of an agency, a type describes itself only as long as it has not succeeded. The
surface that it succeeds with is kept, and handed out as the same object from then on, to look-ups
and to mocks. All this follows from what one request does to the cache, given what was exchanged
before. That a description runs once and not twice, or not at all, is seen from what is noted down
whenever it runs.

* `Agency.Consulted`: all that a look-up can come to.
* `Agency.Accounts.serve`: a request and its reply are accounted for.
* `Agency.extracts_once`: what is known of an agency at any time.
-/

namespace Understudy

/-! ## The cache -/

namespace Cache

variable {κ : Type} {cache : Cache κ} {key other : κ} {shared new : Shared Surface}

/-- The types whose surfaces are kept. -/
def keys (cache : Cache κ) : List κ := cache.entries.map (·.1)

@[simp] theorem entries_keep : (cache.keep key shared).entries = cache.entries ++ [(key, shared)] :=
  rfl

@[simp] theorem keys_keep : (cache.keep key shared).keys = cache.keys ++ [key] :=
  List.map_append

variable [DecidableEq κ]

theorem get?_eq_none_iff : cache.get? key = none ↔ key ∉ cache.keys := by
  rw [get?, Option.map_eq_none_iff, List.find?_eq_none, keys, List.mem_map]
  simp only [decide_eq_true_eq, not_exists, not_and]

theorem contains_iff : cache.contains key ↔ key ∈ cache.keys := by
  rw [contains, Option.isSome_iff_ne_none, Ne, get?_eq_none_iff, not_not]

theorem mem_of_get? (h : cache.get? key = some shared) : (key, shared) ∈ cache.entries := by
  obtain ⟨⟨found, _⟩, there, rfl⟩ := Option.map_eq_some_iff.1 h
  obtain rfl : found = key := by simpa using List.find?_some there
  exact List.mem_of_find?_eq_some there

theorem mem_keys_of_get? (h : cache.get? key = some shared) : key ∈ cache.keys :=
  List.mem_map_of_mem (mem_of_get? h)

/-- What is kept stays. -/
theorem get?_keep_of_some (h : cache.get? other = some shared) :
    (cache.keep key new).get? other = some shared := by
  rw [get?, Option.map_eq_some_iff] at h ⊢
  obtain ⟨entry, there, value⟩ := h
  exact ⟨entry, by rw [entries_keep, List.find?_append, there, Option.some_or], value⟩

theorem get?_keep_self (missing : key ∉ cache.keys) :
    (cache.keep key shared).get? key = some shared := by
  have none : cache.entries.find? (·.1 = key) = none := by
    simpa [get?] using get?_eq_none_iff.2 missing
  rw [get?, entries_keep, List.find?_append, none, Option.none_or]
  simp

end Cache

/-! ## Mocks -/

namespace Stage

/-- Whether the mocks of a stage are on another one too, and alike. -/
def MocksStay (stage after : Stage) : Prop :=
  ∀ id mock, stage.mock id = .ok mock → ∃ mock', after.mock id = .ok mock' ∧ mock'.Alike mock

theorem MocksStay.refl (stage : Stage) : stage.MocksStay stage :=
  fun _ mock there => ⟨mock, there, .refl mock⟩

/-- What the making of a mock changes: the mock is there, and was not before. -/
structure Gains (stage : Stage) (id : MockId) (mock : Mock) (after : Stage) : Prop where
  absent : stage.mock id = .error .unknownMock
  there : after.mock id = .ok mock
  others : ∀ other, other ≠ id → after.mock other = stage.mock other
  cells : after.cells = stage.cells

theorem gains_createMock (stage : Stage) (surface : Shared Surface) (settings : Settings) :
    stage.Gains (stage.createMock surface settings).1
      (.create (stage.createMock surface settings).1 surface settings)
      (stage.createMock surface settings).2 where
  absent := by rw [mock, createMock, List.getElem?_eq_none (Nat.le_refl _)]
  there := mock_eq_ok_iff.2 List.getElem?_concat_length
  others other different := by
    have place : other.index ≠ stage.mocks.length := fun same =>
      different (congrArg MockId.mk same)
    rw [mock, mock, createMock]
    rcases Nat.lt_or_gt_of_ne place with before | behind
    · rw [List.getElem?_append_left before]
    · rw [List.getElem?_eq_none (Nat.le_of_lt behind), List.getElem?_eq_none]
      rw [List.length_append, List.length_singleton]
      exact behind
  cells := rfl

theorem Gains.mocksStay {stage after : Stage} {id : MockId} {mock : Mock}
    (gains : stage.Gains id mock after) : stage.MocksStay after := by
  intro other here there
  have different : other ≠ id := by
    rintro rfl
    rw [gains.absent] at there
    cases there
  exact ⟨here, (gains.others other different).trans there, .refl here⟩

end Stage

namespace Agency

variable {κ σ : Type} {agency after : Agency κ σ} {key : κ}

/-! ## What is exchanged -/

/-- A request and its reply. -/
structure Exchange (κ σ : Type) where
  /-- What was asked. -/
  request : Request κ σ
  /-- What was replied. -/
  reply : Reply

variable {log : List (Exchange κ σ)} {exchange : Exchange κ σ}

/-- The type whose surface was obtained, by a look-up or for a mock. -/
def Exchange.obtained? : Exchange κ σ → Option κ
  | ⟨.get key, .surface (.ok _)⟩ => some key
  | ⟨.mockOf key _, .mock (.ok _)⟩ => some key
  | _ => none

/-- The types whose surfaces were obtained. -/
def obtained (log : List (Exchange κ σ)) : List κ := log.filterMap (·.obtained?)

/-- Whether the object was handed out: it was replied, or the mock that was made is a mock of it to
    this day. -/
inductive HandsOut (stage : Stage) (shared : Shared Surface) : Exchange κ σ → Prop
  | surface {key : κ} : HandsOut stage shared ⟨.get key, .surface (.ok shared)⟩
  | mock {key : κ} {name : Option String} {id : MockId} {mock : Mock} : stage.mock id = .ok mock →
      mock.surface = shared → HandsOut stage shared ⟨.mockOf key name, .mock (.ok id)⟩

/-- A mock stays of what it was made. -/
theorem HandsOut.stays {stage behind : Stage} {shared : Shared Surface}
    (h : HandsOut stage shared exchange) (stays : stage.MocksStay behind) :
    HandsOut behind shared exchange := by
  cases h with
  | surface => exact .surface
  | mock there same =>
    obtain ⟨mock', found, alike⟩ := stays _ _ there
    exact .mock found (alike.surface.trans same)

/-! ## What is kept -/

/-- The surfaces that types described; the latest at the head. -/
def extracted (agency : Agency κ σ) : List (κ × Surface) :=
  agency.runs.filterMap fun run => run.2.toOption.map (run.1, ·)

/-- What is known of an agency without regard to what was asked of it. -/
structure Sound (agency : Agency κ σ) : Prop where
  /-- All that was described is kept, and nothing else. -/
  extracted : agency.extracted =
    (agency.cache.entries.map fun entry => (entry.1, entry.2.value)).reverse
  keys : agency.cache.keys.Nodup
  identities : (agency.cache.entries.map (·.2.identity)).Nodup
  below : ∀ entry ∈ agency.cache.entries, entry.2.identity < agency.objects
  stage : agency.stage.WellFormed

theorem Sound.opened (world : σ) : (opened world : Agency κ σ).Sound where
  extracted := rfl
  keys := .nil
  identities := .nil
  below := fun _ mem => nomatch mem
  stage := .empty

variable [DecidableEq κ] {describe : Describing κ σ} {result : Except SchemaError (Shared Surface)}

namespace Sound

/-- The descriptions that succeeded are those of the types whose surfaces are kept. -/
theorem countP_runs (h : agency.Sound) (key : κ) :
    agency.runs.countP (fun run => run.1 = key ∧ run.2.isOk) = agency.cache.keys.count key := by
  have types : agency.extracted.map (·.1) = agency.cache.keys.reverse := by
    rw [h.extracted, List.map_reverse, List.map_map]
    rfl
  rw [← List.count_reverse, ← types, List.count, List.countP_map, Agency.extracted,
    List.countP_filterMap]
  refine congrArg (List.countP · agency.runs) (funext fun run => Bool.eq_iff_iff.2 ?_)
  rcases run with ⟨other, _ | _⟩ <;> simp [Except.isOk, Except.toBool, Except.toOption]

/-- An object belongs to one type. -/
theorem eq_of_identity_eq (h : agency.Sound) {other : κ} {shared shared' : Shared Surface}
    (kept : agency.cache.get? key = some shared) (kept' : agency.cache.get? other = some shared')
    (same : shared.identity = shared'.identity) : key = other :=
  congrArg Prod.fst (List.inj_on_of_nodup_map h.identities (Cache.mem_of_get? kept)
    (Cache.mem_of_get? kept') same)

end Sound

/-! ## Looking a type up -/

/-- Where the surface of a type is kept, the type is not asked. -/
theorem consult_of_get? {shared : Shared Surface} (kept : agency.cache.get? key = some shared) :
    agency.consult describe key = (.ok shared, agency) := by
  rw [consult, Cache.get, kept]
  rfl

/-- A type that is asked and fails hands its error on, and nothing is kept. -/
theorem consult_of_error {error : SchemaError} {world : σ} (missing : key ∉ agency.cache.keys)
    (ran : describe key agency.world = (.error error, world)) :
    agency.consult describe key = (.error error, agency.noted key (.error error) world) := by
  rw [consult, Cache.get, Cache.get?_eq_none_iff.2 missing]
  simp only [describing, bind, StateT.bind, ran]
  rfl

/-- What a type answers is handed out as a new object, which is kept. -/
theorem consult_of_ok {surface : Surface} {world : σ} (missing : key ∉ agency.cache.keys)
    (ran : describe key agency.world = (.ok surface, world)) :
    agency.consult describe key = (.ok ⟨agency.objects, surface⟩,
      { agency.noted key (.ok surface) world with
        cache := agency.cache.keep key ⟨agency.objects, surface⟩ }) := by
  rw [consult, Cache.get, Cache.get?_eq_none_iff.2 missing]
  simp only [describing, bind, StateT.bind, ran]
  rfl

/-- What looking a type up can come to. -/
inductive Consulted (describe : Describing κ σ) (agency : Agency κ σ) (key : κ) :
    Except SchemaError (Shared Surface) → Agency κ σ → Prop
  | found {shared : Shared Surface} : agency.cache.get? key = some shared →
      Consulted describe agency key (.ok shared) agency
  | failed {error : SchemaError} {world : σ} : key ∉ agency.cache.keys →
      describe key agency.world = (.error error, world) →
      Consulted describe agency key (.error error) (agency.noted key (.error error) world)
  | described {surface : Surface} {world : σ} : key ∉ agency.cache.keys →
      describe key agency.world = (.ok surface, world) →
      Consulted describe agency key (.ok ⟨agency.objects, surface⟩)
        { agency.noted key (.ok surface) world with
          cache := agency.cache.keep key ⟨agency.objects, surface⟩ }

theorem exists_consulted (describe : Describing κ σ) (agency : Agency κ σ) (key : κ) :
    ∃ result after, agency.consult describe key = (result, after) ∧
      Consulted describe agency key result after := by
  cases kept : agency.cache.get? key with
  | some shared => exact ⟨_, _, consult_of_get? kept, .found kept⟩
  | none =>
    have missing := Cache.get?_eq_none_iff.1 kept
    rcases ran : describe key agency.world with ⟨error | surface, world⟩
    · exact ⟨_, _, consult_of_error missing ran, .failed missing ran⟩
    · exact ⟨_, _, consult_of_ok missing ran, .described missing ran⟩

namespace Consulted

/-- Only a type that is not kept is described, and its object is a new one. -/
theorem sound (c : Consulted describe agency key result after) (h : agency.Sound) :
    after.Sound := by
  cases c with
  | found => exact h
  | failed => exact { h with below := fun entry mem => Nat.lt_succ_of_lt (h.below entry mem) }
  | described missing =>
    constructor
    case extracted =>
      simp only [Agency.extracted, noted, List.filterMap_cons, Except.toOption, Option.map_some,
        Cache.entries_keep, List.map_append, List.map_cons, List.map_nil, List.reverse_append,
        List.reverse_singleton, List.singleton_append]
      exact congrArg _ h.extracted
    case keys =>
      rw [Cache.keys_keep, List.nodup_append]
      refine ⟨h.keys, List.nodup_singleton _, fun other mem _ last same => missing ?_⟩
      rw [← List.mem_singleton.1 last, ← same]
      exact mem
    case identities =>
      rw [Cache.entries_keep, List.map_append, List.nodup_append]
      refine ⟨h.identities, List.nodup_singleton _, fun identity mem _ last => ?_⟩
      obtain ⟨entry, there, rfl⟩ := List.mem_map.1 mem
      rw [List.mem_singleton.1 last]
      exact Nat.ne_of_lt (h.below entry there)
    case below =>
      intro entry mem
      rcases List.mem_append.1 mem with old | last
      · exact Nat.lt_succ_of_lt (h.below entry old)
      · rw [List.mem_singleton.1 last]
        exact Nat.lt_succ_self _
    case stage => exact h.stage

/-- What is kept stays. -/
theorem keeps (c : Consulted describe agency key result after) {other : κ}
    {shared : Shared Surface} (h : agency.cache.get? other = some shared) :
    after.cache.get? other = some shared := by
  cases c with
  | found | failed => exact h
  | described => exact Cache.get?_keep_of_some h

/-- What is handed out is kept. -/
theorem hands {shared : Shared Surface} (c : Consulted describe agency key (.ok shared) after) :
    after.cache.get? key = some shared ∧
      ∀ other, other ∈ after.cache.keys ↔ other = key ∨ other ∈ agency.cache.keys := by
  cases c with
  | found there =>
    refine ⟨there, fun other => ⟨.inr, ?_⟩⟩
    rintro (rfl | mem)
    · exact Cache.mem_keys_of_get? there
    · exact mem
  | described missing =>
    refine ⟨Cache.get?_keep_self missing, fun other => ?_⟩
    rw [Cache.keys_keep, List.mem_append, List.mem_singleton, or_comm]

theorem cache_of_error {error : SchemaError}
    (c : Consulted describe agency key (.error error) after) : after.cache = agency.cache := by
  cases c
  rfl

theorem stage (c : Consulted describe agency key result after) : after.stage = agency.stage := by
  cases c <;> rfl

end Consulted

/-! ## One request after the other -/

/-- The exchanges and the agency that requests lead to, the latest request at the head. -/
def served (describe : Describing κ σ) (world : σ) :
    List (Request κ σ) → List (Exchange κ σ) × Agency κ σ
  | [] => ([], .opened world)
  | request :: before =>
    let (log, agency) := served describe world before
    let (reply, after) := agency.serve describe request
    (⟨request, reply⟩ :: log, after)

/-- What is kept is what was obtained, and whoever obtained it was handed out what is kept. -/
structure Accounts (log : List (Exchange κ σ)) (agency : Agency κ σ) : Prop where
  sound : agency.Sound
  keys : ∀ key, key ∈ agency.cache.keys ↔ key ∈ obtained log
  hands : ∀ exchange ∈ log, ∀ key, exchange.obtained? = some key →
    ∃ shared, agency.cache.get? key = some shared ∧ HandsOut agency.stage shared exchange

namespace Accounts

theorem opened (world : σ) : Accounts [] (opened world : Agency κ σ) where
  sound := .opened world
  keys := fun _ => .rfl
  hands := fun _ mem => nomatch mem

/-- An exchange by which nothing is obtained leaves the cache alone. -/
theorem idle (h : Accounts log agency) (none : exchange.obtained? = none)
    (cache : after.cache = agency.cache) (sound : after.Sound)
    (stays : agency.stage.MocksStay after.stage) : Accounts (exchange :: log) after where
  sound := sound
  keys := fun key => by
    rw [cache, obtained, List.filterMap_cons_none none]
    exact h.keys key
  hands := fun e mem key told => by
    rcases List.mem_cons.1 mem with rfl | mem
    · rw [none] at told
      cases told
    · obtain ⟨shared, kept, given⟩ := h.hands e mem key told
      exact ⟨shared, cache ▸ kept, given.stays stays⟩

/-- An exchange by which a type is obtained hands out what is kept of it from then on. -/
theorem obtain {shared : Shared Surface} (h : Accounts log agency)
    (told : exchange.obtained? = some key) (kept : after.cache.get? key = some shared)
    (keys : ∀ other, other ∈ after.cache.keys ↔ other = key ∨ other ∈ agency.cache.keys)
    (keeps : ∀ {other shared}, agency.cache.get? other = some shared →
      after.cache.get? other = some shared)
    (sound : after.Sound) (stays : agency.stage.MocksStay after.stage)
    (given : HandsOut after.stage shared exchange) : Accounts (exchange :: log) after where
  sound := sound
  keys := fun other => by
    rw [keys, h.keys, obtained, obtained, List.filterMap_cons_some told, List.mem_cons]
  hands := fun e mem other obtained => by
    rcases List.mem_cons.1 mem with rfl | mem
    · obtain rfl := Option.some.inj (told.symm.trans obtained)
      exact ⟨shared, kept, given⟩
    · obtain ⟨_, there, handed⟩ := h.hands e mem other obtained
      exact ⟨_, keeps there, handed.stays stays⟩

/-- A request and its reply are accounted for. -/
theorem serve (h : Accounts log agency) (describe : Describing κ σ) (request : Request κ σ) :
    Accounts (⟨request, (agency.serve describe request).1⟩ :: log)
      (agency.serve describe request).2 := by
  cases request with
  | contains | size | isEmpty => exact h.idle rfl rfl h.sound (.refl _)
  | elsewhere change => exact h.idle rfl rfl { h.sound with } (.refl _)
  | perform operation =>
    have effect := agency.stage.begin_effect operation
    refine h.idle rfl rfl { h.sound with stage := effect.wellFormed h.sound.stage } ?_
    exact fun id mock there => effect.keeps h.sound.stage there
  | get key =>
    obtain ⟨result, after, looked, c⟩ := exists_consulted describe agency key
    have stays : agency.stage.MocksStay after.stage := c.stage ▸ .refl _
    rw [Agency.serve, looked]
    cases result with
    | error => exact h.idle rfl c.cache_of_error (c.sound h.sound) stays
    | ok shared => exact h.obtain rfl c.hands.1 c.hands.2 c.keeps (c.sound h.sound) stays .surface
  | mockOf key name =>
    obtain ⟨result, after, looked, c⟩ := exists_consulted describe agency key
    have sound := c.sound h.sound
    rw [Agency.serve, mockOf, looked]
    cases result with
    | error => exact h.idle rfl c.cache_of_error sound (c.stage ▸ .refl _)
    | ok shared =>
      have gains := after.stage.gains_createMock shared (.named name)
      exact h.obtain rfl c.hands.1 c.hands.2 c.keeps
        { sound with stage := sound.stage.createMock _ _ } (c.stage ▸ gains.mocksStay)
        (.mock gains.there rfl)

/-- Whatever is asked, it is accounted for. -/
theorem served (describe : Describing κ σ) (world : σ) (requests : List (Request κ σ)) :
    Accounts (served describe world requests).1 (served describe world requests).2 := by
  induction requests with
  | nil => exact .opened world
  | cons request before ih => exact ih.serve describe request

end Accounts

/-! ## At any time -/

/-- How an agency serves those who look a type up, given the result and the agency behind: the
    result is replied; where a mock of the type is asked for, a new mock of the object is made, or
    the error is replied. -/
structure Serves (describe : Describing κ σ) (agency : Agency κ σ) (key : κ)
    (result : Except SchemaError (Shared Surface)) (after : Agency κ σ) : Prop where
  get : agency.serve describe (.get key) = (.surface result, after)
  makes : ∀ {shared}, result = .ok shared → ∀ name, ∃ id stage,
    agency.serve describe (.mockOf key name) = (.mock (.ok id), { after with stage }) ∧
      after.stage.Gains id (.create id shared (.named name)) stage
  refuses : ∀ {error}, result = .error error → ∀ name,
    agency.serve describe (.mockOf key name) = (.mock (.error error), after)

theorem serves_of_consult (looked : agency.consult describe key = (result, after)) :
    agency.Serves describe key result after := by
  constructor
  case get => rw [serve, looked]
  case makes =>
    rintro shared rfl name
    refine ⟨_, _, ?_, after.stage.gains_createMock shared (.named name)⟩
    rw [serve, mockOf, looked]
  case refuses =>
    rintro error rfl name
    rw [serve, mockOf, looked]

/-- How an agency serves, given what was exchanged with it. -/
structure Extracts (describe : Describing κ σ) (log : List (Exchange κ σ)) (agency : Agency κ σ) :
    Prop where
  /-- A type that was not obtained yet is asked once. If it fails, so does the look-up, and nothing
      is kept. -/
  fails : ∀ {key error world}, key ∉ obtained log →
    describe key agency.world = (.error error, world) →
    agency.Serves describe key (.error error) (agency.noted key (.error error) world)
  /-- If it succeeds, its answer is handed out as a new object, which is kept. -/
  describes : ∀ {key surface world}, key ∉ obtained log →
    describe key agency.world = (.ok surface, world) →
    agency.Serves describe key (.ok ⟨agency.objects, surface⟩)
      { agency.noted key (.ok surface) world with
        cache := agency.cache.keep key ⟨agency.objects, surface⟩ }
  /-- A type that was obtained is not asked any more. Whoever obtained it was handed out one
      object, and so is whoever obtains it now. -/
  shares : ∀ {key}, key ∈ obtained log → ∃ shared,
    agency.Serves describe key (.ok shared) agency ∧
      ∀ exchange ∈ log, exchange.obtained? = some key → HandsOut agency.stage shared exchange
  contains : ∀ key,
    agency.serve describe (.contains key) = (.flag (decide (key ∈ obtained log)), agency)
  size : agency.serve describe .size = (.count (obtained log).toFinset.card, agency)
  isEmpty : agency.serve describe .isEmpty = (.flag (obtained log).isEmpty, agency)
  /-- A type that was obtained has succeeded once, and no other type has. -/
  runs : ∀ key, agency.runs.countP (fun run => run.1 = key ∧ run.2.isOk) =
    if key ∈ obtained log then 1 else 0
  /-- The objects of two types are two. -/
  distinct : ∀ {key other shared shared'}, key ≠ other → agency.cache.get? key = some shared →
    agency.cache.get? other = some shared' → shared.identity ≠ shared'.identity

theorem Accounts.extracts (h : Accounts log agency) (describe : Describing κ σ) :
    agency.Extracts describe log := by
  constructor
  case fails =>
    exact fun missing ran => serves_of_consult (consult_of_error (mt (h.keys _).1 missing) ran)
  case describes =>
    exact fun missing ran => serves_of_consult (consult_of_ok (mt (h.keys _).1 missing) ran)
  case shares =>
    intro key mem
    obtain ⟨exchange, there, told⟩ := List.mem_filterMap.1 mem
    obtain ⟨shared, kept, _⟩ := h.hands exchange there key told
    refine ⟨shared, serves_of_consult (consult_of_get? kept), fun other there told => ?_⟩
    obtain ⟨shared', kept', given⟩ := h.hands other there key told
    obtain rfl := Option.some.inj (kept.symm.trans kept')
    exact given
  case contains =>
    intro key
    have same : agency.cache.contains key = decide (key ∈ obtained log) := by
      rw [Bool.eq_iff_iff, Cache.contains_iff, decide_eq_true_iff, h.keys]
    rw [Agency.serve, same]
  case size =>
    have same : agency.cache.keys.toFinset = (obtained log).toFinset := by
      ext key
      rw [List.mem_toFinset, List.mem_toFinset, h.keys]
    have count : agency.cache.size = (obtained log).toFinset.card := by
      rw [← same, List.toFinset_card_of_nodup h.sound.keys, Cache.keys, List.length_map]
      rfl
    rw [Agency.serve, count]
  case isEmpty =>
    have same : agency.cache.keys = [] ↔ obtained log = [] := by
      rw [List.eq_nil_iff_forall_not_mem, List.eq_nil_iff_forall_not_mem]
      exact forall_congr' fun key => not_congr (h.keys key)
    have none : agency.cache.isEmpty = (obtained log).isEmpty := by
      rw [Bool.eq_iff_iff, List.isEmpty_iff, ← same, Cache.isEmpty, List.isEmpty_iff, Cache.keys,
        List.map_eq_nil_iff]
    rw [Agency.serve, none]
  case runs =>
    intro key
    rw [h.sound.countP_runs, h.sound.keys.count]
    simp only [h.keys]
  case distinct =>
    exact fun other kept kept' same => other (h.sound.eq_of_identity_eq kept kept' same)

/-- Whatever was asked of an agency, and however types answer: a type describes itself once for who
    looks it up or wants a mock of it if it was not obtained before, and not at all if it was. All
    look-ups and mocks of a type share the object that it was first obtained as. -/
theorem extracts_once (describe : Describing κ σ) (world : σ) (requests : List (Request κ σ)) :
    (served describe world requests).2.Extracts describe (served describe world requests).1 :=
  (Accounts.served describe world requests).extracts describe

end Agency

/-- Two types, one of which fails when it is the first to be asked; each of them describes another
    surface later on. -/
def Sample.shy : Describing Bool Nat := fun shy asked =>
  let answer := match shy, asked with
    | true, 0 => .error (.unsupportedType "Shy")
    | true, 1 | false, 2 => .ok randomSurface
    | _, _ => .ok philosopherSurface
  (answer, asked + 1)

/-- The shy type is looked up twice, and two mocks are made of it; the other type is looked up in
    between. -/
def Sample.auditions : List (Agency.Request Bool Nat) :=
  [.mockOf true (some "stand-in"), .mockOf true none, .get false, .get true, .get true]

theorem Agency.extracts_once_auditions :
    (served Sample.shy 0 Sample.auditions).2.Extracts Sample.shy
        (served Sample.shy 0 Sample.auditions).1 ∧
      (served Sample.shy 0 Sample.auditions).1.map (·.obtained?) =
        [some true, some true, some false, some true, none] ∧
      (served Sample.shy 0 Sample.auditions).2.runs.map (fun run => (run.1, run.2.isOk)) =
        [(false, true), (true, true), (true, false)] ∧
      ∃ shared, shared.value.name = "Random" ∧
        (served Sample.shy 0 Sample.auditions).2.Serves Sample.shy true (.ok shared)
          (served Sample.shy 0 Sample.auditions).2 ∧
        ∀ id ∈ [⟨0⟩, ⟨1⟩], ∃ mock,
          (served Sample.shy 0 Sample.auditions).2.stage.mock id = .ok mock ∧
            mock.surface = shared := by
  have extracts := Agency.extracts_once Sample.shy 0 Sample.auditions
  have obtained : true ∈ obtained (served Sample.shy 0 Sample.auditions).1 := List.mem_cons_self
  obtain ⟨shared, serves, hands⟩ := extracts.shares obtained
  have replied : Reply.surface (.ok ⟨1, Sample.randomSurface⟩) = .surface (.ok shared) :=
    congrArg Prod.fst serves.get
  obtain rfl := Except.ok.inj (Reply.surface.inj replied)
  refine ⟨extracts, rfl, rfl, _, rfl, serves, fun id mem => ?_⟩
  simp only [List.mem_cons, List.not_mem_nil, or_false] at mem
  rcases mem with rfl | rfl
  · have first : HandsOut _ _ ⟨.mockOf true none, .mock (.ok ⟨0⟩)⟩ :=
      hands _ (List.mem_cons_of_mem _ List.mem_cons_self) rfl
    cases first with
    | mock there same => exact ⟨_, there, same⟩
  · have second : HandsOut _ _ ⟨.mockOf true (some "stand-in"), .mock (.ok ⟨1⟩)⟩ :=
      hands _ List.mem_cons_self rfl
    cases second with
    | mock there same => exact ⟨_, there, same⟩

end Understudy
