import Understudy.Sample.Surfaces

/-!
# Building a surface again

The members of a surface may be taken for a description and built again. Loading a document that
was written from a surface does nothing else. Every building checks the signatures and drops one
receiver of every method and callable. The checks never fail the second time, but the receiver may:
where two of them stand one behind the other, the first building leaves one that the second drops.

* `Surface.Described.rebuild`: building again succeeds, drops what is left of receivers and keeps
  all else, so a surface is a fixed point exactly if nothing is left of them.
-/

namespace Understudy

namespace Member

/-- The member without the receiver at the head of its parameters, if there is one. -/
def withoutReceiver (m : Member) : Member :=
  if m.kind.isCallable then { m with params := dropReceiver m.params } else m

/-- Whether the member is invoked and a receiver stands at the head of its parameters. -/
def hasReceiver (m : Member) : Bool :=
  m.kind.isCallable && m.params.head?.any isReceiver

theorem withoutReceiver_name (m : Member) : m.withoutReceiver.name = m.name := by
  unfold withoutReceiver
  split <;> rfl

theorem dropReceiver_eq_self_iff {params : List Param} :
    dropReceiver params = params ↔ params.head?.any isReceiver = false := by
  cases params with
  | nil => simp [dropReceiver]
  | cons p rest => cases receiver : isReceiver p <;> simp [dropReceiver, receiver]

theorem withoutReceiver_eq_self_iff {m : Member} :
    m.withoutReceiver = m ↔ m.hasReceiver = false := by
  rw [withoutReceiver, hasReceiver]
  cases m.kind.isCallable with
  | false => simp
  | true =>
    rw [if_pos rfl, Bool.true_and, ← dropReceiver_eq_self_iff]
    exact ⟨fun h => congrArg params h, fun h => by rw [h]⟩

/-- Parameters stay in order if the first one is dropped. -/
theorem validParams_dropReceiver {params : List Param} (valid : ValidParams params) :
    ValidParams (dropReceiver params) := by
  cases params with
  | nil => exact valid
  | cons p rest =>
    rw [dropReceiver]
    split
    · exact (validParams_cons.1 valid).2.2
    · exact valid

/-- Parameters that stand behind no others have no fault exactly if they are valid. -/
theorem paramsFault?_nil_eq_none_iff {params : List Param} :
    paramsFault? [] 0 false params = none ↔ ValidParams params := by
  refine ⟨fun none => (paramsFault?_eq_none_iff.1 none).2, fun valid =>
    paramsFault?_eq_none_iff.2 ⟨fun p _ => ?_, valid⟩⟩
  refine ⟨List.not_mem_nil, Nat.zero_le _, fun rank => ?_, fun absurd => by cases absurd⟩
  -- Only positional parameters have the lowest rank, and they take nothing that is left over.
  cases kind : p.kind <;> simp_all [ParamKind.rank, Param.isRest, ParamKind.isRest]

/-- A member with a valid signature passes the checks and loses its receiver. -/
theorem normalize_of_valid {m : Member} (valid : m.Valid) :
    m.normalize = .ok m.withoutReceiver := by
  unfold normalize withoutReceiver
  by_cases callable : m.kind.isCallable = true
  · have none := paramsFault?_nil_eq_none_iff.2 (validParams_dropReceiver valid.params)
    simp only [if_pos callable, none]
  · have empty : m.params = [] := valid.plain (Bool.eq_false_iff.2 callable)
    simp [callable, empty]

end Member

namespace Surface

open Member

theorem ext_iff {a b : Surface} : a = b ↔ a.name = b.name ∧ a.members = b.members := by
  cases a
  cases b
  simp

/-- A member is added if its signature is valid and its name is new. -/
theorem addMember_eq_ok_iff {sofar next : Surface} {m : Member} :
    sofar.addMember m = .ok next ↔ ∃ normal, m.normalize = .ok normal ∧
      (∀ n ∈ sofar.members, n.name ≠ normal.name) ∧ next.name = sofar.name ∧
      next.members = sofar.members ++ [normal] := by
  unfold addMember
  split
  · next fault => simp [fault]
  · next normal normalized =>
    split
    · next fresh =>
      rw [Except.ok.injEq, eq_comm, ext_iff]
      constructor
      · exact fun same => ⟨normal, normalized, fresh, same⟩
      · rintro ⟨_, normalized', _, same⟩
        obtain rfl := Except.ok.inj (normalized.symm.trans normalized')
        exact same
    · next taken =>
      constructor
      · intro h
        cases h
      · rintro ⟨_, normalized', fresh, _⟩
        obtain rfl := Except.ok.inj (normalized.symm.trans normalized')
        exact absurd fresh taken

/-- Members that pass the checks and have names of their own are added one by one. -/
theorem foldlM_addMember {sofar : Surface} {members : List Member}
    (passes : ∀ m ∈ members, m.normalize = .ok m.withoutReceiver)
    (distinct : members.Pairwise fun m n => m.name ≠ n.name)
    (fresh : ∀ n ∈ sofar.members, ∀ m ∈ members, n.name ≠ m.name) :
    ∃ surface, members.foldlM addMember sofar = .ok surface ∧ surface.name = sofar.name ∧
      surface.members = sofar.members ++ members.map withoutReceiver := by
  induction members generalizing sofar with
  | nil => exact ⟨sofar, rfl, rfl, (List.append_nil _).symm⟩
  | cons m rest ih =>
    rw [List.pairwise_cons] at distinct
    have new : ∀ n ∈ sofar.members, n.name ≠ m.withoutReceiver.name := fun n mem =>
      withoutReceiver_name m ▸ fresh n mem m List.mem_cons_self
    have normalized := passes m List.mem_cons_self
    let next : Surface := ⟨sofar.name, sofar.members ++ [m.withoutReceiver],
      sofar.sound.concat (normalize_valid normalized) new⟩
    have added : sofar.addMember m = .ok next :=
      addMember_eq_ok_iff.2 ⟨_, normalized, new, rfl, rfl⟩
    -- No later member has the name of one that was there or of the one that was added.
    have freshNext : ∀ n ∈ next.members, ∀ k ∈ rest, n.name ≠ k.name := by
      intro n mem k later
      rcases List.mem_append.1 mem with old | last
      · exact fresh n old k (List.mem_cons_of_mem _ later)
      · rw [List.mem_singleton.1 last, withoutReceiver_name]
        exact distinct.1 k later
    obtain ⟨surface, built, name, members⟩ :=
      ih (fun k mem => passes k (List.mem_cons_of_mem _ mem)) distinct.2 freshNext
    refine ⟨surface, ?_, name, ?_⟩
    · rw [List.foldlM_cons, added]
      exact built
    · rw [members, List.append_assoc]
      rfl

/-- Every description that is added is one member more. -/
theorem length_of_foldlM_addMember {sofar surface : Surface} {members : List Member}
    (h : members.foldlM addMember sofar = .ok surface) :
    surface.members.length = sofar.members.length + members.length := by
  induction members generalizing sofar with
  | nil => rw [← Except.ok.inj h, List.length_nil, Nat.add_zero]
  | cons m rest ih =>
    rw [List.foldlM_cons] at h
    cases added : sofar.addMember m with
    | error error =>
      rw [added] at h
      cases h
    | ok next =>
      rw [added] at h
      obtain ⟨_, _, _, _, members⟩ := addMember_eq_ok_iff.1 added
      rw [ih h, members, List.length_append, List.length_cons, List.length_cons, List.length_nil]
      omega

theorem members_ne_nil_of_build {typeName : String} {members : List Member} {surface : Surface}
    (h : build typeName members = .ok surface) : surface.members ≠ [] := by
  unfold build at h
  split at h
  · cases h
  · next some =>
    have length := length_of_foldlM_addMember h
    intro empty
    rw [empty, List.length_nil, Nat.zero_add] at length
    exact some (List.isEmpty_iff_length_eq_zero.2 length.symm)

/-- A surface with a member can be built again. -/
theorem exists_rebuild {surface : Surface} (some : surface.members ≠ []) :
    ∃ again, build surface.name surface.members = .ok again ∧ again.name = surface.name ∧
      again.members = surface.members.map withoutReceiver := by
  obtain ⟨again, built, name, members⟩ :=
    @foldlM_addMember ⟨surface.name, [], soundMembers_nil⟩ _
      (fun m mem => normalize_of_valid (surface.sound.valid m mem)) surface.sound.distinct
      fun _ mem => absurd mem List.not_mem_nil
  refine ⟨again, ?_, name, members⟩
  rw [build, if_neg (by simpa using some)]
  exact built

/-- A surface that was declared or read from a document. -/
inductive Described (surface : Surface) : Prop
  | declared {typeName : String} {members : List Member} : build typeName members = .ok surface →
      Described surface
  | document {text : String} : ofText text = .ok surface → Described surface

theorem Described.members_ne_nil {surface : Surface} (h : surface.Described) :
    surface.members ≠ [] := by
  cases h with
  | declared built => exact members_ne_nil_of_build built
  | @document text read =>
    unfold ofText at read
    cases decoded : JsonText.decode text decode with
    | error error =>
      rw [decoded] at read
      cases read
    | ok description =>
      rw [decoded] at read
      exact members_ne_nil_of_build read

/-- What was described can be described again by itself, and is what it was exactly if no receiver
    was left in it. -/
theorem Described.rebuild {surface : Surface} (h : surface.Described) :
    ∃ again, build surface.name surface.members = .ok again ∧ again.name = surface.name ∧
      again.members = surface.members.map withoutReceiver ∧
      (again = surface ↔ ∀ m ∈ surface.members, m.hasReceiver = false) := by
  obtain ⟨again, built, name, members⟩ := exists_rebuild h.members_ne_nil
  refine ⟨again, built, name, members, ?_⟩
  have fixed := @List.map_inj_left _ _ surface.members withoutReceiver id
  rw [List.map_id] at fixed
  simp only [ext_iff, name, members, true_and, fixed, id, withoutReceiver_eq_self_iff]

theorem Described.rebuild_random :
    ∃ again, build Sample.randomSurface.name Sample.randomSurface.members = .ok again ∧
      again = Sample.randomSurface := by
  have built : build "Random" Sample.randomMembers = .ok Sample.randomSurface := rfl
  obtain ⟨again, rebuilt, _, _, fixed⟩ := Described.rebuild (.declared built)
  exact ⟨again, rebuilt, fixed.2 (by decide)⟩

end Surface

/-- A member with two receivers, one behind the other. -/
def Sample.configure : Member :=
  .method "configure" [.untyped "self", .untyped "cls", .required "level" .int] none

/-- Of two receivers the first building drops one and the second the other. -/
theorem Surface.rebuild_configure : ∃ surface again,
    build "Service" [Sample.configure] = .ok surface ∧
      build surface.name surface.members = .ok again ∧ again ≠ surface := by
  refine ⟨_, _, rfl, rfl, fun same => ?_⟩
  have := congrArg (fun surface => surface.members.map fun m => m.params.length) same
  revert this
  decide

end Understudy
