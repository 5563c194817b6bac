import Understudy.Proofs.Surface.Rebuild
import Understudy.Proofs.Ty.Reread
import Understudy.Proofs.Value.RoundTrip

/-!
# Surfaces survive their documents

What a member or parameter does not have is left out of its document, and what is missing in a
document is taken for what is left out. So a surface is read back from its document as it was, if
its declared types can be read from their annotations, its defaults from their documents, and no
receiver is left in it that building would drop. The same is true of the text of the document,
apart from numbers with a fraction: the reader may miss one of them by a unit, so they have to be
such as are read back from their own texts.

* `Param.decode_toJson`, `Member.decode_toJson`, `Surface.decode_toJson`: the parts are read back.
* `Surface.ofText_toText`: the text of a surface holds its document.
* `Surface.Described.reload`: a described surface is read back from its text.
-/

namespace Understudy

/-- Whether the declared type is read back from its annotation. -/
def Ty.Rereads (ty : Ty) : Prop := Ty.ofAnnotation ty.display = .ok ty

/-- Whether the parameter can be written so that it is read back. -/
structure Param.Writable (p : Param) : Prop where
  /-- The declared type, if there is one, is read from its annotation. -/
  ty : ∀ ty, p.ty = some ty → ty.Rereads
  /-- The default, if there is one, has finite numbers only. -/
  finite : ∀ value, p.default = some value → value.Finite
  /-- The fields of its objects are in order, as those of objects are. -/
  ordered : ∀ value, p.default = some value → value.Ordered

/-- Whether the member can be written so that it is read back. -/
structure Member.Writable (m : Member) : Prop where
  params : ∀ p ∈ m.params, p.Writable
  /-- The declared type of the result, if there is one, is read from its annotation. -/
  result : ∀ ty, m.result = some ty → ty.Rereads

namespace Json

variable {room : Nat}

theorem depth_le_of_mem {entries : List (Option String × Json)} {value : Json} (key : String)
    (mem : (some key, value) ∈ entries) : value.depth ≤ entriesDepth entries := by
  induction entries with
  | nil => cases mem
  | cons entry rest ih =>
    rcases List.mem_cons.1 mem with rfl | mem
    · exact Nat.le_max_left _ _
    · exact Nat.le_trans (ih mem) (Nat.le_max_right _ _)

/-- The items of an array are read back if each of them is. -/
theorem toList_map {α : Type} {decode : Nat → Json → Except DecodeError α} {encode : α → Json}
    {as : List α} (deep : (Json.array (as.map encode)).depth ≤ room)
    (read : ∀ a ∈ as, ∀ inner, (encode a).depth ≤ inner → decode inner (encode a) = .ok a) :
    toList decode room (.array (as.map encode)) = .ok as := by
  obtain ⟨inner, rfl, fits⟩ := Value.exists_inner deep
  rw [toList]
  clear deep
  induction as with
  | nil => rfl
  | cons a as ih =>
    obtain ⟨here, behind⟩ := Nat.max_le.1 fits
    rw [List.map_cons, List.mapM_cons, read a List.mem_cons_self inner here,
      ih (fun b mem => read b (List.mem_cons_of_mem a mem)) behind]
    rfl

theorem toOption_display {ty : Ty} (rereads : ty.Rereads) :
    toOption toTy (.string ty.display) = .ok (some ty) := by
  rw [toOption, toTy, toText, Except.bind, rereads]
  · rfl
  · simp

/-- No document of a value is null, so an explicit marker for "no value" is none that is missing. -/
theorem toOption_value {value : Value} (finite : value.Finite) (ordered : value.Ordered)
    (deep : value.toJson.depth ≤ room) :
    toOption (Value.decode room) value.toJson = .ok (some value) := by
  have present : toOption (Value.decode room) value.toJson =
      (Value.decode room value.toJson).map some := by
    cases value <;> rfl
  rw [present, Value.decode, Value.ofJson?_toJson finite ordered deep]
  rfl

end Json

/-- A record that is written as an object is read entry by entry. -/
theorem Json.record_ofFields {σ : Type} {names : List String} {start : σ}
    {step : Nat → σ → String → Json → Option (Except DecodeError σ)} {room : Nat}
    {fields : List (String × Json)} :
    record names start step (room + 1) (.ofFields fields) =
      fields.foldlM (fun sofar field => record.one step room sofar (some field.1, field.2))
        start :=
  List.foldlM_map

/-- The name of one of several choices is read back. -/
theorem Json.toNamed_string {α : Type} {choices : List (String × α)} {room : Nat} {name : String}
    {choice : α} (named : choices.lookup name = some choice) :
    toNamed choices room (.string name) = .ok choice := by
  rw [toNamed, toChoice, Except.bind, named]

/-- A parameter is read back from its document. -/
theorem Param.decode_toJson {p : Param} {room : Nat} (writable : p.Writable)
    (deep : p.toJson.depth ≤ room) : decode room p.toJson = .ok p := by
  obtain ⟨inner, rfl, fits⟩ := Value.exists_inner deep
  have kind : Json.toNamed ParamKind.names inner (.string p.kind.name) = .ok p.kind :=
    Json.toNamed_string p.kind.lookup_name
  have ty : ∀ ty, p.ty = some ty → Json.toOption Json.toTy (.string ty.display) = .ok (some ty) :=
    fun ty declared => Json.toOption_display (writable.ty ty declared)
  have default : ∀ value, p.default = some value →
      Json.toOption (Value.decode inner) value.toJson = .ok (some value) := by
    intro value given
    refine Json.toOption_value (writable.finite _ given) (writable.ordered _ given)
      (Nat.le_trans (Json.depth_le_of_mem "default" ?_) fits)
    simp [given]
  rw [decode, toJson, Json.record_ofFields]
  -- Entries that are left out are filled with what they stand for when they are missing.
  rcases p with ⟨name, _ | declared, _ | value, kind⟩ <;>
    simp [Json.record.one, decodeEntry, Json.fill, Json.toText, Except.map, Except.bind, bind,
      pure, Except.pure, kind, ty, default]

/-- A member is read back from its document. -/
theorem Member.decode_toJson {m : Member} {room : Nat} (writable : m.Writable)
    (deep : m.toJson.depth ≤ room) : decode room m.toJson = .ok m := by
  obtain ⟨inner, rfl, fits⟩ := Value.exists_inner deep
  have kind : Json.toNamed MemberKind.names inner (.string m.kind.name) = .ok m.kind :=
    Json.toNamed_string m.kind.lookup_name
  have result : ∀ ty, m.result = some ty →
      Json.toOption Json.toTy (.string ty.display) = .ok (some ty) :=
    fun ty declared => Json.toOption_display (writable.result ty declared)
  have params : m.params ≠ [] → Json.toList Param.decode inner
      (.array (m.params.map Param.toJson)) = .ok m.params := by
    intro given
    refine Json.toList_map (Nat.le_trans (Json.depth_le_of_mem "params" ?_) fits)
      fun p mem inner deep => Param.decode_toJson (writable.params p mem) deep
    simp [given]
  rw [decode, toJson, Json.record_ofFields]
  rcases m with ⟨name, kind, _ | ⟨p, params⟩, _ | declared⟩ <;>
    simp [Json.record.one, decodeEntry, Json.fill, Json.toText, Except.map, Except.bind, bind,
      pure, Except.pure, kind, result, -List.map_cons, params]

namespace Surface

/-- The name and the members of a surface are read back from its document. -/
theorem decode_toJson {surface : Surface} {room : Nat}
    (writable : ∀ m ∈ surface.members, m.Writable) (deep : surface.toJson.depth ≤ room) :
    decode room surface.toJson = .ok (surface.name, surface.members) := by
  obtain ⟨inner, rfl, fits⟩ := Value.exists_inner deep
  have members : Json.toList Member.decode inner (.array (surface.members.map Member.toJson)) =
      .ok surface.members := by
    refine Json.toList_map (Nat.le_trans (Json.depth_le_of_mem "members" ?_) fits)
      fun m mem inner deep => Member.decode_toJson (writable m mem) deep
    simp
  rw [decode, toJson, Json.record_ofFields]
  simp [Json.record.one, decodeEntry, Json.fill, Json.toText, Except.map, Except.bind, bind,
    pure, Except.pure, members]

/-- A surface in which no receiver is left is read back from its document. -/
theorem Described.ofJson_toJson {surface : Surface} (described : surface.Described)
    (kept : ∀ m ∈ surface.members, m.hasReceiver = false)
    (writable : ∀ m ∈ surface.members, m.Writable)
    (deep : surface.toJson.depth ≤ Json.maxDepth) : ofJson surface.toJson = .ok surface := by
  obtain ⟨again, built, name, members⟩ := exists_rebuild described.members_ne_nil
  have fixed : surface.members.map Member.withoutReceiver = surface.members.map id :=
    List.map_congr_left fun m mem => Member.withoutReceiver_eq_self_iff.2 (kept m mem)
  -- Building once more takes nothing away, as no receiver is left.
  obtain rfl : again = surface :=
    ext_iff.2 ⟨name, by rw [members, fixed, List.map_id]⟩
  rw [ofJson, decode_toJson writable deep]
  exact built

end Surface

/-! ## Texts -/

theorem Json.legible_ofFields {fields : List (String × Json)}
    (legible : ∀ field ∈ fields, field.2.Legible) : (ofFields fields).Legible := by
  rw [ofFields, Legible]
  induction fields with
  | nil => trivial
  | cons field fields ih =>
    obtain ⟨here, behind⟩ := List.forall_mem_cons.1 legible
    exact ⟨rfl, here, ih behind⟩

theorem Json.legible_array {α : Type} {encode : α → Json} {as : List α}
    (legible : ∀ a ∈ as, (encode a).Legible) : (array (as.map encode)).Legible := by
  rw [Legible]
  induction as with
  | nil => trivial
  | cons a as ih =>
    obtain ⟨here, behind⟩ := List.forall_mem_cons.1 legible
    exact ⟨here, ih behind⟩

/-- Whether the numbers in the default, if there is one, are read back from their texts. -/
def Param.Rereads (p : Param) : Prop :=
  ∀ value, p.default = some value → value.Floats Binary64.Rereads

theorem Param.legible_toJson {p : Param} (rereads : p.Rereads) : p.toJson.Legible := by
  have default : ∀ value, p.default = some value → value.toJson.Legible :=
    fun value given => Value.legible_toJson (fun _ rereads _ => rereads) (rereads value given)
  refine Json.legible_ofFields ?_
  rcases p with ⟨name, _ | ty, _ | value, kind⟩ <;> simp [Json.Legible, default]

theorem Member.legible_toJson {m : Member} (rereads : ∀ p ∈ m.params, p.Rereads) :
    m.toJson.Legible := by
  rcases m with ⟨name, kind, params, result⟩
  have items : Json.LegibleItems (params.map Param.toJson) :=
    Json.legible_array fun p mem => Param.legible_toJson (rereads p mem)
  refine Json.legible_ofFields ?_
  rcases params with _ | ⟨p, params⟩ <;> rcases result with _ | result <;>
    simp [Json.Legible, -List.map_cons, items]

namespace Surface

theorem legible_toJson {surface : Surface}
    (rereads : ∀ m ∈ surface.members, ∀ p ∈ m.params, p.Rereads) : surface.toJson.Legible := by
  have members : (Json.array (surface.members.map Member.toJson)).Legible :=
    Json.legible_array fun m mem => Member.legible_toJson (rereads m mem)
  exact ⟨rfl, trivial, rfl, members, trivial⟩

/-- The text of a surface holds its document. -/
theorem ofText_toText {surface : Surface}
    (rereads : ∀ m ∈ surface.members, ∀ p ∈ m.params, p.Rereads) :
    ofText surface.toText = ofJson surface.toJson := by
  rw [ofText, JsonText.decode, toText, JsonText.read_pretty (legible_toJson rereads), ofJson]
  cases decode Json.maxDepth surface.toJson <;> rfl

end Surface

/-! ## Equality -/

theorem Param.same_self {p : Param} (writable : p.Writable) : p.same p = true := by
  rcases p with ⟨name, ty, _ | value, kind⟩
  · simp [same]
  · simp [same, Value.same_self (writable.finite value rfl)]

theorem Member.same_self {m : Member} (writable : m.Writable) : m.same m = true := by
  have params : sameInOrder Param.same m.params m.params = true :=
    sameInOrder_of_same fun p mem => Param.same_self (writable.params p mem)
  simp [same, params]

namespace Surface

theorem same_self {surface : Surface} (writable : ∀ m ∈ surface.members, m.Writable) :
    surface.same surface = true := by
  have members : sameInOrder Member.same surface.members surface.members = true :=
    sameInOrder_of_same fun m mem => Member.same_self (writable m mem)
  simp [same, members]

/-- A described surface is read back from the text of its document as it was, with every member,
    parameter, default and type, and is equal to what is read. -/
theorem Described.reload {surface : Surface} (described : surface.Described)
    (kept : ∀ m ∈ surface.members, m.hasReceiver = false)
    (writable : ∀ m ∈ surface.members, m.Writable)
    (deep : surface.toJson.depth ≤ Json.maxDepth)
    (rereads : ∀ m ∈ surface.members, ∀ p ∈ m.params, p.Rereads) :
    ofText surface.toText = .ok surface ∧ surface.same surface = true := by
  rw [ofText_toText rereads]
  exact ⟨described.ofJson_toJson kept writable deep, same_self writable⟩

end Surface

/-- A method whose parameters have a default each: a number, and an explicit marker for "no
    value". -/
def Sample.tune : Member :=
  .method "tune" [.optional "volume" .float (.float (.ofRatio false 1 2)),
    .keywordOptional "band" (.optional .str) .nil] (some .bool)

/-- A surface with such a method. -/
def Sample.radioSurface : Surface :=
  match Surface.build "Radio" [tune, .property "station" .str] with
  | .ok surface => surface
  | .error _ => default

/-- One half is read back from its text. -/
theorem Binary64.rereads_half : Rereads (.ofRatio false 1 2) := by
  have text : Json.writeScalar (.real (.ofRatio false 1 2)) = "0.5" := by decide +kernel
  have size : Numeral.magnitude? ⟨false, ['0'], some ['5'], none⟩ =
      some (.ofRatio false 1 2) := by decide +kernel
  have number : Numeral.toJson ⟨false, ['0'], some ['5'], none⟩ =
      .real (.ofRatio false 1 2) := by
    simp [Numeral.toJson, Numeral.toReal, size]
  rw [Rereads, text, ← number]
  exact JsonText.read_of_readScalar rfl rfl

theorem Surface.reload_radio :
    ofText Sample.radioSurface.toText = .ok Sample.radioSurface ∧
      Sample.radioSurface.same Sample.radioSurface = true := by
  have built : build "Radio" [Sample.tune, .property "station" .str] = .ok Sample.radioSurface :=
    rfl
  have types : ∀ ty ∈ [.float, .optional .str, .bool, .str], Ty.Rereads ty := by
    intro ty mem
    have readable : ∀ ty ∈ [Ty.float, .optional .str, .bool, .str], ty.WellMade ∧ ty.Undotted := by
      decide
    obtain ⟨made, undotted⟩ := readable ty mem
    exact made.ofAnnotation_iff.2 undotted
  have volume : (Param.optional "volume" .float (.float (.ofRatio false 1 2))).Writable := by
    constructor
    · rintro ty ⟨⟩
      exact types .float (by decide)
    · rintro value ⟨⟩
      exact (by decide +kernel : (Binary64.ofRatio false 1 2).isFinite = true)
    · rintro value ⟨⟩
      trivial
  have band : (Param.keywordOptional "band" (.optional .str) .nil).Writable := by
    constructor
    · rintro ty ⟨⟩
      exact types (.optional .str) (by decide)
    · rintro value ⟨⟩
      trivial
    · rintro value ⟨⟩
      trivial
  refine Described.reload (.declared built) (by decide) ?_ (by decide) ?_
  · refine List.forall_mem_cons.2 ⟨⟨?_, ?_⟩, List.forall_mem_singleton.2 ⟨nofun, ?_⟩⟩
    · exact List.forall_mem_cons.2 ⟨volume, List.forall_mem_singleton.2 band⟩
    · rintro ty ⟨⟩
      exact types .bool (by decide)
    · rintro ty ⟨⟩
      exact types .str (by decide)
  · refine List.forall_mem_cons.2 ⟨?_, List.forall_mem_singleton.2 nofun⟩
    refine List.forall_mem_cons.2 ⟨?_, List.forall_mem_singleton.2 ?_⟩
    · rintro value ⟨⟩
      exact Binary64.rereads_half
    · rintro value ⟨⟩
      trivial

end Understudy
