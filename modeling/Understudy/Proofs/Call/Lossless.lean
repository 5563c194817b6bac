import Understudy.Call.Encoding
import Understudy.Proofs.Surface.RoundTrip
import Understudy.Proofs.Value.Lossless

/-!
# Values and calls are kept by their documents exactly if they are finite

A value, the arguments of a call and the record of one are read back from their documents as they
were, and from the texts of these, if the numbers in them are finite. If one of them is not, nothing
is read: what was written is never taken for something else.

* `Arguments.decode_toJson`, `Arguments.decode_of_infinite`: that for arguments.
* `Record.decode_toJson_eq`: a record is read like its arguments, and its number is always kept.
* `Json.lossless`: all of that, and the same for texts.
-/

namespace Understudy

/-! ## Arguments -/

namespace Arguments

variable {arguments : Arguments} {room : Nat}

/-- Whether all floating-point numbers in the arguments have the property. -/
def Floats (P : Binary64 → Prop) (arguments : Arguments) : Prop :=
  Value.FloatsOfItems P arguments.positional ∧ Value.FloatsOfFields P arguments.named.entries

/-- Whether all floating-point numbers in the arguments are finite. -/
abbrev Finite (arguments : Arguments) : Prop := arguments.Floats (·.isFinite = true)

/-- Whether the fields of all objects in the arguments are in ascending order of their names, as
    those of objects are. -/
def Ordered (arguments : Arguments) : Prop :=
  Value.OrderedItems arguments.positional ∧ Value.OrderedFields arguments.named.entries

/-- Arguments are read part by part. -/
theorem decode_ofFields {args kwargs : Json} :
    decode (room + 1) (.ofFields [("args", args), ("kwargs", kwargs)]) =
      (Json.toList Value.decode room args).bind fun positional =>
        (Value.decodeNamed room kwargs).map fun named => ⟨positional, named⟩ := by
  rw [decode, Json.record_ofFields]
  cases positional : Json.toList Value.decode room args with
  | error fault =>
    simp [Json.record.one, CallDraft.decodeArguments, CallDraft.start, Json.fill, Except.map,
      Except.bind, bind, positional]
  | ok values =>
    cases named : Value.decodeNamed room kwargs <;>
      simp [Json.record.one, CallDraft.decodeArguments, CallDraft.start, Json.fill, Except.map,
        Except.bind, bind, pure, Except.pure, positional, named]

theorem toJson_eq : arguments.toJson = .ofFields
    [("args", .array (Value.itemsToJson arguments.positional)),
      ("kwargs", .object (Value.fieldsToJson arguments.named.entries))] := rfl

/-- Arguments are read back from their document if they are finite. -/
theorem decode_toJson (finite : arguments.Finite) (ordered : arguments.Ordered)
    (deep : arguments.toJson.depth ≤ room) : decode room arguments.toJson = .ok arguments := by
  obtain ⟨inner, rfl, fits⟩ := Value.exists_inner deep
  have positional := Value.toList_toJson finite.1 ordered.1
    (Nat.le_trans (Json.depth_le_of_mem "args" (by simp [toFields])) fits)
  have named := Value.decodeNamed_toJson finite.2 ordered.2
    (Nat.le_trans (Json.depth_le_of_mem "kwargs" (by simp [toFields])) fits)
  rw [toJson_eq, decode_ofFields, positional, named]
  rfl

/-- Nothing is read of the document of arguments that are not. -/
theorem decode_of_infinite (infinite : ¬ arguments.Finite) :
    decode room arguments.toJson = .error .malformed := by
  cases room with
  | zero => rfl
  | succ inner =>
    rw [toJson_eq, decode_ofFields]
    -- The first part that is refused decides, and both are refused alike.
    by_cases finite : Value.FloatsOfItems (·.isFinite = true) arguments.positional
    · rw [Value.decodeNamed_of_infinite fun fields => infinite ⟨finite, fields⟩]
      cases read : Json.toList Value.decode inner
        (.array (Value.itemsToJson arguments.positional)) with
      | error error =>
        obtain rfl := Value.eq_malformed_of_toList read
        rfl
      | ok values => rfl
    · rw [Value.toList_of_infinite finite]
      rfl

theorem legible_toJson {P : Binary64 → Prop} (rereads : ∀ x, P x → x.isFinite = true → x.Rereads)
    (floats : arguments.Floats P) : arguments.toJson.Legible :=
  ⟨rfl, Value.legible_itemsToJson rereads floats.1, rfl,
    Value.legible_fieldsToJson rereads floats.2, trivial⟩

end Arguments

/-! ## Records -/

namespace Record

variable {record : Record} {room : Nat}

/-- The number of a record is kept by its document. -/
theorem decodeSeq_toNat (seq : UInt64) : CallDraft.decodeSeq (.integer seq.toNat) = .ok seq := by
  rw [CallDraft.decodeSeq, uint64?_eq_some_iff.2 rfl]

/-- A record is read like its arguments. -/
theorem decode_toJson_eq : decode room record.toJson =
    (Arguments.decode room record.arguments.toJson).map (⟨·, record.seq⟩) := by
  cases room with
  | zero => rfl
  | succ inner =>
    rw [Arguments.toJson_eq, Arguments.decode_ofFields, decode, toJson, Json.record_ofFields,
      Arguments.toFields]
    cases positional : Json.toList Value.decode inner
      (.array (Value.itemsToJson record.arguments.positional)) with
    | error fault =>
      simp [Json.record.one, CallDraft.decodeRecord, CallDraft.decodeArguments, CallDraft.start,
        Json.fill, Except.map, Except.bind, bind, positional]
    | ok values =>
      cases named : Value.decodeNamed inner
        (.object (Value.fieldsToJson record.arguments.named.entries)) <;>
        simp [Json.record.one, CallDraft.decodeRecord, CallDraft.decodeArguments, CallDraft.start,
          Json.fill, Except.map, Except.bind, bind, pure, Except.pure, positional, named,
          decodeSeq_toNat]

theorem depth_toJson : record.toJson.depth = record.arguments.toJson.depth := by
  simp [toJson, Arguments.toJson, Arguments.toFields, Json.ofFields, Json.depth, Json.entriesDepth]

theorem legible_toJson {P : Binary64 → Prop} (rereads : ∀ x, P x → x.isFinite = true → x.Rereads)
    (floats : record.arguments.Floats P) : record.toJson.Legible := by
  obtain ⟨args, positional, kwargs, named, -⟩ := Arguments.legible_toJson rereads floats
  have seq : (Json.integer record.seq.toNat).Legible :=
    ⟨Int.le_trans (by decide) (Int.natCast_nonneg _), Int.ofNat_lt.2 record.seq.toNat_lt⟩
  exact ⟨args, positional, kwargs, named, rfl, seq, trivial⟩

end Record

/-! ## Documents and their texts -/

/-- The texts that a document is written as. -/
inductive Json.WrittenAs (document : Json) : String → Prop
  | onOneLine : WrittenAs document document.compact
  | overLines (level : Nat) : WrittenAs document (document.pretty level)

/-- What a text tells is what its document tells, if the document can be read from it. -/
theorem JsonText.decode_eq {α : Type} {decode : Nat → Json → Except DecodeError α}
    {document : Json} {text : String} (legible : document.Legible)
    (written : document.WrittenAs text) :
    JsonText.decode text decode = decode Json.maxDepth document := by
  have read : JsonText.read text = ⟨document, true⟩ := by
    cases written with
    | onOneLine => exact JsonText.read_compact legible
    | overLines level => exact JsonText.read_pretty legible level
  rw [JsonText.decode, read]
  cases decode Json.maxDepth document <;> rfl

/-- How a document keeps what is written in it, whose floating-point numbers are those that
    `floats` is about. -/
structure Json.Keeps {α : Type} (decode : Nat → Json → Except DecodeError α) (document : Json)
    (a : α) (floats : (Binary64 → Prop) → Prop) : Prop where
  /-- It is read back as it was if the numbers are finite. -/
  kept : floats (·.isFinite = true) → decode Json.maxDepth document = .ok a
  /-- Nothing is read if one of them is not. -/
  refused : ¬ floats (·.isFinite = true) → decode Json.maxDepth document = .error .malformed
  /-- Its texts tell the same, if the finite ones are read back from texts of their own. -/
  texts : floats (fun x => x.isFinite = true → x.Rereads) → ∀ text, document.WrittenAs text →
    JsonText.decode text decode = decode Json.maxDepth document

/-- Values, arguments and records that do not nest too deep are read back as they were exactly if
    they are finite. -/
theorem Json.lossless :
    (∀ value : Value, value.Ordered → value.toJson.depth ≤ Json.maxDepth →
      Json.Keeps Value.decode value.toJson value fun P => value.Floats P) ∧
    (∀ arguments : Arguments, arguments.Ordered → arguments.toJson.depth ≤ Json.maxDepth →
      Json.Keeps Arguments.decode arguments.toJson arguments fun P => arguments.Floats P) ∧
    ∀ record : Record, record.arguments.Ordered → record.toJson.depth ≤ Json.maxDepth →
      Json.Keeps Record.decode record.toJson record fun P => record.arguments.Floats P := by
  have own : ∀ x : Binary64, (x.isFinite = true → x.Rereads) → x.isFinite = true → x.Rereads :=
    fun _ rereads => rereads
  refine ⟨fun value ordered deep => ?_, fun arguments ordered deep => ?_,
    fun record ordered deep => ?_⟩
  · exact ⟨fun finite => Value.decode_toJson finite ordered deep, Value.decode_of_infinite,
      fun floats _ => JsonText.decode_eq (Value.legible_toJson own floats)⟩
  · exact ⟨fun finite => Arguments.decode_toJson finite ordered deep, Arguments.decode_of_infinite,
      fun floats _ => JsonText.decode_eq (Arguments.legible_toJson own floats)⟩
  · rw [Record.depth_toJson] at deep
    refine ⟨fun finite => ?_, fun infinite => ?_,
      fun floats _ => JsonText.decode_eq (Record.legible_toJson own floats)⟩
    · rw [Record.decode_toJson_eq, Arguments.decode_toJson finite ordered deep]
      rfl
    · rw [Record.decode_toJson_eq, Arguments.decode_of_infinite infinite]
      rfl

/-- A record of the greatest number. A measure is in an object and in a map, which has an entry
    of the same key besides, and a set has an element twice. -/
def Sample.measurement (x : Binary64) : Record :=
  ⟨(Arguments.ofList [.object "Point" [("x", .float x), ("y", .int 1)],
      .map [(.str "k", .nil), (.str "k", .float x)]]).put "units"
      (.tuple [.list [], .set [.str "m", .str "m"]]), .ofNat (pow2 64 - 1)⟩

theorem Json.lossless_measurement :
    (∀ x, (Sample.measurement x).arguments.Ordered) ∧
      (Sample.measurement (.ofRatio false 1 2)).toJson.depth ≤ Json.maxDepth ∧
      Record.ofText (Sample.measurement (.ofRatio false 1 2)).toJson.compact =
        .ok (Sample.measurement (.ofRatio false 1 2)) ∧
      (Sample.measurement (.infinity false)).toJson.depth ≤ Json.maxDepth ∧
      Record.ofText (Sample.measurement (.infinity false)).toJson.compact = .error .malformed := by
  have ordered : ∀ x, (Sample.measurement x).arguments.Ordered := by
    intro x
    have names : "x" < "y" := by decide
    have fields : Entries.Ordered [("x", Value.float x), ("y", .int 1)] :=
      List.pairwise_pair.2 names
    exact ⟨⟨⟨fields, trivial, trivial, trivial⟩, ⟨trivial, trivial, trivial, trivial, trivial⟩,
      trivial⟩, ⟨trivial, ⟨trivial, trivial, trivial⟩, trivial⟩, trivial⟩
  have floats : ∀ (P : Binary64 → Prop) x, P x → (Sample.measurement x).arguments.Floats P :=
    fun P x here => ⟨⟨⟨here, trivial, trivial⟩, ⟨trivial, trivial, trivial, here, trivial⟩,
      trivial⟩, ⟨trivial, ⟨trivial, trivial, trivial⟩, trivial⟩, trivial⟩
  have deep : (Sample.measurement (.ofRatio false 1 2)).toJson.depth ≤ Json.maxDepth := by
    decide +kernel
  have deep' : (Sample.measurement (.infinity false)).toJson.depth ≤ Json.maxDepth := by
    decide +kernel
  have infinite : ¬ (Binary64.infinity false).isFinite = true := by decide +kernel
  have half := Json.lossless.2.2 _ (ordered (.ofRatio false 1 2)) deep
  have unbounded := Json.lossless.2.2 _ (ordered (.infinity false)) deep'
  refine ⟨ordered, deep, ?_, deep', ?_⟩
  · have texts := half.texts (floats _ _ fun _ => Binary64.rereads_half)
    rw [Record.ofText, texts _ .onOneLine]
    exact half.kept (floats _ _ (by decide +kernel))
  · have texts := unbounded.texts (floats _ _ fun finite => absurd finite infinite)
    rw [Record.ofText, texts _ .onOneLine]
    exact unbounded.refused fun finite => infinite finite.1.1.1

end Understudy
