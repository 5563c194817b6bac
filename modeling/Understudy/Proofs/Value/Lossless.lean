import Understudy.Proofs.Value.RoundTrip

/-!
# Values survive their documents only if they are finite

Numbers that are not finite are written as null, which is none that a float is read from. Whatever
is around such a number is then not read either, so a value that is read from its document has
finite numbers only.

* `Value.decode_toJson`, `Value.decode_of_infinite`: a value is read back if it is finite, and else
  nothing is.
* `Value.toList_toJson`, `Value.decodeNamed_toJson` and their counterparts: the same is true of
  lists of values and of values under names.
-/

namespace Understudy

namespace Value

variable {held : Bool} {room : Nat} {kind : Kind} {content : Json}

/-- What is read of a document with the kind in front is read of its content. -/
theorem exists_content {found : Value}
    (holds : ofJson? held room (tagged kind content) = some found) :
    ∃ inner, contentOfJson? held inner kind content = some found := by
  cases room with
  | zero => cases holds
  | succ inner =>
    refine ⟨inner, ?_⟩
    rwa [tagged, Json.ofFields, List.map_cons, List.map_cons, List.map_nil, ofJson?, taggedOfJson?,
      if_pos rfl, Kind.ofJson?, Kind.ofName?_name, Option.bind_some, untaggedOfJson?, if_pos rfl,
      onlyPassable, if_pos rfl] at holds

/-- Where a list, a tuple or a set is read, its items are. -/
theorem exists_items {found : Value} {items : List Json}
    (holds : ofJson? held room (tagged kind (.array items)) = some found)
    (several : kind ∈ [.list, .tuple, .set]) :
    ∃ inner found, itemsOfJson? held inner items = some found := by
  obtain ⟨_ | inner, holds⟩ := exists_content holds
  · cases holds
  · simp only [List.mem_cons, List.not_mem_nil, or_false] at several
    rcases several with rfl | rfl | rfl <;>
      obtain ⟨_, holds, -⟩ := Option.map_eq_some_iff.1 holds <;>
      exact ⟨inner, _, holds⟩

mutual

/-- A value of which something is read has finite numbers only. -/
theorem finite_of_ofJson? {room : Nat} : ∀ {value found : Value},
    ofJson? held room value.toJson = some found → value.Finite
  | .nil, _, _ | .bool _, _, _ | .int _, _, _ | .str _, _, _ => trivial
  | .float x, _, holds => by
    obtain ⟨inner, holds⟩ := exists_content holds
    change x.isFinite = true
    by_contra infinite
    -- What is not finite is written as null, and no float is read from that.
    rw [Json.ofBinary64, if_neg infinite] at holds
    cases holds
  | .list items, _, holds => by
    obtain ⟨_, _, holds⟩ := exists_items holds (by decide)
    exact finite_of_itemsOfJson? holds
  | .tuple items, _, holds => by
    obtain ⟨_, _, holds⟩ := exists_items holds (by decide)
    exact finite_of_itemsOfJson? holds
  | .set items, _, holds => by
    obtain ⟨_, _, holds⟩ := exists_items holds (by decide)
    exact finite_of_itemsOfJson? holds
  | .map entries, _, holds => by
    obtain ⟨_ | inner, holds⟩ := exists_content holds
    · cases holds
    · obtain ⟨_, holds, -⟩ := Option.map_eq_some_iff.1 holds
      exact finite_of_entriesOfJson? holds
  | .object typeName fields, _, holds => by
    obtain ⟨_ | _ | inner, holds⟩ := exists_content holds
    · cases holds
    · cases holds
    · obtain ⟨_, holds, -⟩ := Option.bind_eq_some_iff.1 holds
      exact finite_of_fieldsOfJson? holds

theorem finite_of_itemsOfJson? {room : Nat} : ∀ {items found : List Value},
    itemsOfJson? held room (itemsToJson items) = some found →
      FloatsOfItems (·.isFinite = true) items
  | [], _, _ => trivial
  | item :: rest, _, holds => by
    obtain ⟨_, here, holds⟩ := Option.bind_eq_some_iff.1 holds
    obtain ⟨_, behind, -⟩ := Option.bind_eq_some_iff.1 holds
    exact ⟨finite_of_ofJson? here, finite_of_itemsOfJson? behind⟩

theorem finite_of_entriesOfJson? {room : Nat} : ∀ {entries found : List (Value × Value)},
    entriesOfJson? held room (entriesToJson entries) = some found →
      FloatsOfEntries (·.isFinite = true) entries
  | [], _, _ => trivial
  | (key, value) :: rest, _, holds => by
    cases room with
    | zero => cases holds
    | succ inner =>
      obtain ⟨_, first, holds⟩ := Option.bind_eq_some_iff.1 holds
      obtain ⟨_, second, holds⟩ := Option.bind_eq_some_iff.1 holds
      obtain ⟨_, behind, -⟩ := Option.bind_eq_some_iff.1 holds
      exact ⟨finite_of_ofJson? first, finite_of_ofJson? second, finite_of_entriesOfJson? behind⟩

theorem finite_of_fieldsOfJson? {room : Nat} : ∀ {fields sofar found : List (String × Value)},
    fieldsOfJson? held room sofar (fieldsToJson fields) = some found →
      FloatsOfFields (·.isFinite = true) fields
  | [], _, _, _ => trivial
  | (name, value) :: rest, _, _, holds => by
    obtain ⟨_, here, behind⟩ := Option.bind_eq_some_iff.1 holds
    exact ⟨finite_of_ofJson? here, finite_of_fieldsOfJson? behind⟩

end

/-! ## Values, lists of values, and values under names -/

theorem decode_eq (room : Nat) (document : Json) :
    decode room document = (ofJson? false room document).elim (.error .malformed) .ok := by
  rw [decode]
  cases ofJson? false room document <;> rfl

/-- A list of values is read like the items of one. -/
theorem toList_eq (room : Nat) (items : List Json) :
    Json.toList decode (room + 1) (.array items) =
      (itemsOfJson? false room items).elim (.error .malformed) .ok := by
  rw [Json.toList]
  induction items with
  | nil => rfl
  | cons item rest ih =>
    rw [List.mapM_cons, ih, decode_eq, itemsOfJson?]
    cases ofJson? false room item with
    | none => rfl
    | some value => cases itemsOfJson? false room rest <;> rfl

theorem eq_malformed_of_toList {items : List Json} {error : DecodeError}
    (refused : Json.toList decode room (.array items) = .error error) : error = .malformed := by
  cases room with
  | zero => exact (Except.error.inj refused).symm
  | succ inner =>
    rw [toList_eq] at refused
    cases read : itemsOfJson? false inner items <;> rw [read] at refused <;> cases refused
    rfl

/-- Values under names are read like the fields of an object. -/
theorem decodeNamed_eq (room : Nat) (entries : List (Option String × Json)) :
    (decodeNamed (room + 1) (.object entries)).map (·.entries) =
      (fieldsOfJson? false room [] entries).elim (.error .malformed) .ok := by
  rw [decodeNamed]
  change _ = (fieldsOfJson? false room NameMap.empty.entries entries).elim _ _
  -- Both readers add to what they have, so the induction is over all that they may have.
  generalize NameMap.empty = sofar
  induction entries generalizing sofar with
  | nil => rfl
  | cons entry rest ih =>
    obtain ⟨_ | name, part⟩ := entry
    · rfl
    · rw [List.foldlM_cons, decode_eq, fieldsOfJson?]
      cases ofJson? false room part with
      | none => rfl
      | some value => exact ih (sofar.insert name value)

section

variable {value : Value} {items : List Value} {named : NameMap Value}

theorem decode_toJson (finite : value.Finite) (ordered : value.Ordered)
    (deep : value.toJson.depth ≤ room) : decode room value.toJson = .ok value := by
  rw [decode_eq, ofJson?_toJson finite ordered deep]
  rfl

theorem decode_of_infinite (infinite : ¬ value.Finite) :
    decode room value.toJson = .error .malformed := by
  rw [decode_eq]
  cases holds : ofJson? false room value.toJson with
  | none => rfl
  | some found => exact absurd (finite_of_ofJson? holds) infinite

theorem toList_toJson (finite : FloatsOfItems (·.isFinite = true) items)
    (ordered : OrderedItems items) (deep : (Json.array (itemsToJson items)).depth ≤ room) :
    Json.toList decode room (.array (itemsToJson items)) = .ok items := by
  obtain ⟨inner, rfl, fits⟩ := exists_inner deep
  rw [toList_eq, itemsOfJson?_itemsToJson finite ordered fits]
  rfl

theorem toList_of_infinite (infinite : ¬ FloatsOfItems (·.isFinite = true) items) :
    Json.toList decode room (.array (itemsToJson items)) = .error .malformed := by
  cases room with
  | zero => rfl
  | succ inner =>
    rw [toList_eq]
    cases holds : itemsOfJson? false inner (itemsToJson items) with
    | none => rfl
    | some found => exact absurd (finite_of_itemsOfJson? holds) infinite

theorem decodeNamed_toJson (finite : FloatsOfFields (·.isFinite = true) named.entries)
    (ordered : OrderedFields named.entries)
    (deep : (Json.object (fieldsToJson named.entries)).depth ≤ room) :
    decodeNamed room (.object (fieldsToJson named.entries)) = .ok named := by
  obtain ⟨inner, rfl, fits⟩ := exists_inner deep
  have holds : fieldsOfJson? false inner [] (fieldsToJson named.entries) =
      some ([] ++ named.entries) := fieldsOfJson?_fieldsToJson finite ordered named.ordered fits
  have read := decodeNamed_eq inner (fieldsToJson named.entries)
  rw [holds] at read
  rcases found : decodeNamed (inner + 1) (.object (fieldsToJson named.entries)) with
    _ | ⟨entries, _⟩ <;> rw [found] at read
  · cases read
  · obtain rfl : entries = named.entries := Except.ok.inj read
    rfl

theorem decodeNamed_of_infinite (infinite : ¬ FloatsOfFields (·.isFinite = true) named.entries) :
    decodeNamed room (.object (fieldsToJson named.entries)) = .error .malformed := by
  cases room with
  | zero => rfl
  | succ inner =>
    have read := decodeNamed_eq inner (fieldsToJson named.entries)
    cases holds : fieldsOfJson? false inner [] (fieldsToJson named.entries) with
    | some found => exact absurd (finite_of_fieldsOfJson? holds) infinite
    | none =>
      rw [holds] at read
      rcases found : decodeNamed (inner + 1) (.object (fieldsToJson named.entries)) with
        fault | other <;> rw [found] at read <;> cases read
      rfl

end

end Value

end Understudy
