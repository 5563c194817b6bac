import Understudy.Proofs.Json.Text
import Understudy.Value.Encoding
import Understudy.Value.Equality

/-!
# Values survive their documents

The document of a value holds the value again, if it does not nest too deep: every kind of value
is written in a way of its own, with an order of entries that the reader does not have to hold
back. There is no document for numbers that are not finite.

* `Value.ofJson?_toJson`: a value is read back from its document.
* `Value.legible_toJson`: the document is read back from its text.
* `Value.same_self`: a value whose numbers are numbers is equal to itself.
-/

namespace Understudy

namespace Json

mutual

/-- How many arrays and objects are open at once in the document. -/
def depth : Json → Nat
  | .array items => itemsDepth items + 1
  | .object entries => entriesDepth entries + 1
  | _ => 0

/-- How many are open at once in one of the items. -/
def itemsDepth : List Json → Nat
  | [] => 0
  | item :: rest => max (depth item) (itemsDepth rest)

/-- How many are open at once in one of the entries. -/
def entriesDepth : List (Option String × Json) → Nat
  | [] => 0
  | (_, value) :: rest => max (depth value) (entriesDepth rest)

end

end Json

namespace Value

mutual

/-- Whether all floating-point numbers in the value have the property. -/
def Floats (P : Binary64 → Prop) : Value → Prop
  | .nil | .bool _ | .int _ | .str _ => True
  | .float x => P x
  | .list items | .tuple items | .set items => FloatsOfItems P items
  | .map entries => FloatsOfEntries P entries
  | .object _ fields => FloatsOfFields P fields

/-- Whether those in all items have it. -/
def FloatsOfItems (P : Binary64 → Prop) : List Value → Prop
  | [] => True
  | item :: rest => Floats P item ∧ FloatsOfItems P rest

/-- Whether those in all keys and values of a map have it. -/
def FloatsOfEntries (P : Binary64 → Prop) : List (Value × Value) → Prop
  | [] => True
  | (key, value) :: rest => Floats P key ∧ Floats P value ∧ FloatsOfEntries P rest

/-- Whether those in all fields of an object have it. -/
def FloatsOfFields (P : Binary64 → Prop) : List (String × Value) → Prop
  | [] => True
  | (_, value) :: rest => Floats P value ∧ FloatsOfFields P rest

end

/-- Whether all floating-point numbers in the value are finite. -/
abbrev Finite (value : Value) : Prop := value.Floats (·.isFinite = true)

mutual

/-- Whether the fields of all objects in the value are in ascending order of their names, as those
    of objects are. -/
def Ordered : Value → Prop
  | .nil | .bool _ | .int _ | .float _ | .str _ => True
  | .list items | .tuple items | .set items => OrderedItems items
  | .map entries => OrderedEntries entries
  | .object _ fields => Entries.Ordered fields ∧ OrderedFields fields

/-- Whether they are in all items. -/
def OrderedItems : List Value → Prop
  | [] => True
  | item :: rest => Ordered item ∧ OrderedItems rest

/-- Whether they are in all keys and values of a map. -/
def OrderedEntries : List (Value × Value) → Prop
  | [] => True
  | (key, value) :: rest => Ordered key ∧ Ordered value ∧ OrderedEntries rest

/-- Whether they are in all fields of an object. -/
def OrderedFields : List (String × Value) → Prop
  | [] => True
  | (_, value) :: rest => Ordered value ∧ OrderedFields rest

end

end Value

/-- An entry whose name is above all others is written behind them. -/
theorem Entries.insert_of_lt {α : Type} {entries : List (String × α)} {name : String}
    (above : ∀ e ∈ entries, e.1 < name) (entry : α) :
    insert name entry entries = entries ++ [(name, entry)] := by
  induction entries with
  | nil => rfl
  | cons head rest ih =>
    have below := above head List.mem_cons_self
    have differs : name ≠ head.1 := fun same => String.lt_irrefl name (same ▸ below)
    rw [insert, if_neg (String.lt_asymm below), if_neg differs,
      ih fun e mem => above e (List.mem_cons_of_mem head mem)]
    rfl

namespace Value

variable {held : Bool} {room : Nat} {kind : Kind} {content : Json}

theorem depth_tagged : (tagged kind content).depth = content.depth + 1 := by
  simp [tagged, Json.ofFields, Json.depth, Json.entriesDepth]

/-- A document with the kind in front holds what its content holds. -/
theorem ofJson?_tagged {value : Value} (deep : (tagged kind content).depth ≤ room)
    (holds : ∀ inner, content.depth ≤ inner →
      contentOfJson? held inner kind content = some value) :
    ofJson? held room (tagged kind content) = some value := by
  rw [depth_tagged] at deep
  obtain ⟨inner, rfl⟩ := Nat.exists_eq_add_of_le' (Nat.le_trans (Nat.le_add_left 1 _) deep)
  rw [tagged, Json.ofFields, List.map_cons, List.map_cons, List.map_nil, ofJson?, taggedOfJson?,
    if_pos rfl, Kind.ofJson?, Kind.ofName?_name, Option.bind_some, untaggedOfJson?, if_pos rfl,
    onlyPassable, if_pos rfl]
  exact holds inner (Nat.le_of_succ_le_succ deep)

/-- There is room in what an array or an object holds. -/
theorem exists_inner {inside : Nat} (deep : inside + 1 ≤ room) :
    ∃ inner, room = inner + 1 ∧ inside ≤ inner :=
  ⟨room - 1, by omega, by omega⟩

mutual

/-- A value is read back from its document, if there is room for it. -/
theorem ofJson?_toJson {room : Nat} : ∀ {value : Value}, value.Finite → value.Ordered →
    value.toJson.depth ≤ room → ofJson? held room value.toJson = some value
  | .nil, _, _, deep => by
    have deep : 0 + 1 ≤ room := deep
    obtain ⟨inner, rfl, -⟩ := exists_inner deep
    rw [toJson, Json.ofFields, List.map_cons, List.map_nil, ofJson?, taggedOfJson?, if_pos rfl,
      Kind.ofJson?, Kind.ofName?_name, Option.bind_some, untaggedOfJson?, if_pos rfl]
  | .bool b, _, _, deep => ofJson?_tagged deep fun inner _ => rfl
  | .int n, _, _, deep => ofJson?_tagged deep fun inner _ => by
    have read : int64? n.toInt = some n := int64?_eq_some_iff.2 rfl
    rw [contentOfJson?, intOfJson?, read, Option.map_some]
    all_goals simp
  | .float x, finite, _, deep => ofJson?_tagged deep fun inner _ => by
    rw [Json.ofBinary64, if_pos (show x.isFinite = true from finite)]
    rfl
  | .str text, _, _, deep => ofJson?_tagged deep fun inner _ => rfl
  | .list items, finite, ordered, deep => ofJson?_tagged deep fun room deep => by
    obtain ⟨inner, rfl, fits⟩ := exists_inner deep
    rw [contentOfJson?, itemsOfJson?_itemsToJson finite ordered fits, Option.map_some]
  | .tuple items, finite, ordered, deep => ofJson?_tagged deep fun room deep => by
    obtain ⟨inner, rfl, fits⟩ := exists_inner deep
    rw [contentOfJson?, itemsOfJson?_itemsToJson finite ordered fits, Option.map_some]
  | .set items, finite, ordered, deep => ofJson?_tagged deep fun room deep => by
    obtain ⟨inner, rfl, fits⟩ := exists_inner deep
    rw [contentOfJson?, itemsOfJson?_itemsToJson finite ordered fits, Option.map_some]
  | .map entries, finite, ordered, deep => ofJson?_tagged deep fun room deep => by
    obtain ⟨inner, rfl, fits⟩ := exists_inner deep
    rw [contentOfJson?, entriesOfJson?_entriesToJson finite ordered fits, Option.map_some]
  | .object typeName fields, finite, ordered, deep => ofJson?_tagged deep fun room deep => by
    obtain ⟨inner, rfl, fits⟩ := exists_inner deep
    -- The fields lie one object deeper than the content.
    have fits : Json.entriesDepth (fieldsToJson fields) + 1 ≤ inner :=
      (Nat.max_le.1 (Nat.max_le.1 fits).2).1
    obtain ⟨inner, rfl, within⟩ := exists_inner fits
    have read : fieldsOfJson? held inner [] (fieldsToJson fields) = some fields :=
      fieldsOfJson?_fieldsToJson finite ordered.2 ordered.1 within
    simp only [Json.ofFields, List.map_cons, List.map_nil, contentOfJson?, objectOfJson?]
    rw [read]
    rfl

theorem itemsOfJson?_itemsToJson {room : Nat} : ∀ {items : List Value},
    FloatsOfItems (·.isFinite = true) items → OrderedItems items →
    Json.itemsDepth (itemsToJson items) ≤ room →
    itemsOfJson? held room (itemsToJson items) = some items
  | [], _, _, _ => rfl
  | item :: rest, finite, ordered, deep => by
    obtain ⟨here, behind⟩ := Nat.max_le.1 deep
    rw [itemsToJson, itemsOfJson?, ofJson?_toJson finite.1 ordered.1 here,
      itemsOfJson?_itemsToJson finite.2 ordered.2 behind]
    rfl

theorem entriesOfJson?_entriesToJson {room : Nat} : ∀ {entries : List (Value × Value)},
    FloatsOfEntries (·.isFinite = true) entries → OrderedEntries entries →
    Json.itemsDepth (entriesToJson entries) ≤ room →
    entriesOfJson? held room (entriesToJson entries) = some entries
  | [], _, _, _ => rfl
  | (key, value) :: rest, finite, ordered, deep => by
    obtain ⟨here, behind⟩ := Nat.max_le.1 deep
    obtain ⟨inner, rfl, fits⟩ := exists_inner here
    obtain ⟨first, second⟩ := Nat.max_le.1 fits
    obtain ⟨second, -⟩ := Nat.max_le.1 second
    rw [entriesToJson, entriesOfJson?, ofJson?_toJson finite.1 ordered.1 first,
      ofJson?_toJson finite.2.1 ordered.2.1 second,
      entriesOfJson?_entriesToJson finite.2.2 ordered.2.2 behind]
    rfl

theorem fieldsOfJson?_fieldsToJson {room : Nat} : ∀ {fields sofar : List (String × Value)},
    FloatsOfFields (·.isFinite = true) fields → OrderedFields fields →
    Entries.Ordered (sofar ++ fields) →
    Json.entriesDepth (fieldsToJson fields) ≤ room →
    fieldsOfJson? held room sofar (fieldsToJson fields) = some (sofar ++ fields)
  | [], sofar, _, _, _, _ => by rw [fieldsToJson, fieldsOfJson?, List.append_nil]
  | (name, value) :: rest, sofar, finite, ordered, ascending, deep => by
    obtain ⟨here, behind⟩ := Nat.max_le.1 deep
    have above : ∀ e ∈ sofar, e.1 < name := fun e mem =>
      (List.pairwise_append.1 ascending).2.2 e mem (name, value) List.mem_cons_self
    have split : sofar ++ (name, value) :: rest = (sofar ++ [(name, value)]) ++ rest := by simp
    rw [fieldsToJson, fieldsOfJson?, ofJson?_toJson finite.1 ordered.1 here, Option.bind_some,
      Entries.insert_of_lt above, split]
    exact fieldsOfJson?_fieldsToJson finite.2 ordered.2 (split ▸ ascending) behind

end

/-! ## Texts -/

theorem legible_tagged (legible : content.Legible) : (tagged kind content).Legible :=
  ⟨rfl, trivial, rfl, legible, trivial⟩

variable {P : Binary64 → Prop}

mutual

/-- The document of a value can be read from its text, if the finite numbers in it can. -/
theorem legible_toJson (rereads : ∀ x, P x → x.isFinite = true → x.Rereads) :
    ∀ {value : Value}, value.Floats P → value.toJson.Legible
  | .nil, _ => ⟨rfl, trivial, trivial⟩
  | .bool _, _ => legible_tagged trivial
  | .int n, _ => legible_tagged ⟨n.le_toInt, Int.lt_trans n.toInt_lt (by decide)⟩
  | .float x, floats => legible_tagged <| by
    rw [Json.ofBinary64]
    split
    · next finite => exact rereads x floats finite
    · trivial
  | .str _, _ => legible_tagged trivial
  | .list _, floats => legible_tagged (legible_itemsToJson rereads floats)
  | .tuple _, floats => legible_tagged (legible_itemsToJson rereads floats)
  | .set _, floats => legible_tagged (legible_itemsToJson rereads floats)
  | .map _, floats => legible_tagged (legible_entriesToJson rereads floats)
  | .object _ _, floats =>
    legible_tagged ⟨rfl, trivial, rfl, legible_fieldsToJson rereads floats, trivial⟩

theorem legible_itemsToJson (rereads : ∀ x, P x → x.isFinite = true → x.Rereads) :
    ∀ {items : List Value}, FloatsOfItems P items → Json.LegibleItems (itemsToJson items)
  | [], _ => trivial
  | _ :: _, floats => ⟨legible_toJson rereads floats.1, legible_itemsToJson rereads floats.2⟩

theorem legible_entriesToJson (rereads : ∀ x, P x → x.isFinite = true → x.Rereads) :
    ∀ {entries : List (Value × Value)}, FloatsOfEntries P entries →
      Json.LegibleItems (entriesToJson entries)
  | [], _ => trivial
  | (_, _) :: _, floats =>
    ⟨⟨legible_toJson rereads floats.1, legible_toJson rereads floats.2.1, trivial⟩,
      legible_entriesToJson rereads floats.2.2⟩

theorem legible_fieldsToJson (rereads : ∀ x, P x → x.isFinite = true → x.Rereads) :
    ∀ {fields : List (String × Value)}, FloatsOfFields P fields →
      Json.LegibleEntries (fieldsToJson fields)
  | [], _ => trivial
  | (_, _) :: _, floats =>
    ⟨rfl, legible_toJson rereads floats.1, legible_fieldsToJson rereads floats.2⟩

end

end Value

/-! ## Equality -/

theorem sameInOrder_of_same {α : Type} {same : α → α → Bool} {as : List α}
    (self : ∀ a ∈ as, same a a = true) : sameInOrder same as as = true := by
  induction as with
  | nil => rfl
  | cons a as ih =>
    rw [sameInOrder, self a List.mem_cons_self, ih fun b mem => self b (List.mem_cons_of_mem a mem)]
    rfl

theorem sameInAnyOrder_self {α : Type} (same : α → α → Bool) (as : List α) :
    sameInAnyOrder same as as = true := by
  simp [sameInAnyOrder]

namespace Value

mutual

/-- A value whose numbers are finite is equal to itself. -/
theorem same_self : ∀ {value : Value}, value.Finite → value.same value = true
  | .nil, _ => same_nil
  | .bool b, _ => by simp
  | .int n, _ => by simp
  | .float x, finite => by
    have finite : x.isFinite = true := finite
    simp_all [Binary64.sameNumber_self_iff, Binary64.isFinite, Binary64.isNaN]
  | .str text, _ => by simp
  | .list items, finite => by
    rw [same_list]
    exact sameInOrder_self finite
  | .tuple items, finite => by
    rw [same_tuple]
    exact sameInOrder_self finite
  | .set items, _ => by
    rw [same_set]
    exact sameInAnyOrder_self same items
  | .map entries, _ => by
    rw [same_map]
    exact sameInAnyOrder_self (samePair same same) entries
  | .object typeName fields, finite => by
    rw [same_object, sameFields_self finite, beq_self_eq_true]
    rfl

theorem sameInOrder_self : ∀ {items : List Value},
    FloatsOfItems (·.isFinite = true) items →
    sameInOrder same items items = true
  | [], _ => rfl
  | item :: rest, finite => by
    rw [sameInOrder, same_self finite.1, sameInOrder_self finite.2]
    rfl

theorem sameFields_self : ∀ {fields : List (String × Value)},
    FloatsOfFields (·.isFinite = true) fields →
    sameInOrder (samePair (· == ·) same) fields fields = true
  | [], _ => rfl
  | (name, value) :: rest, finite => by
    rw [sameInOrder, sameFields_self finite.2, samePair, same_self finite.1, beq_self_eq_true]
    rfl

end

end Value

end Understudy
