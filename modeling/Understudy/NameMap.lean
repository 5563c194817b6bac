/-!
# Entries under names

A finite map from names to entries, kept as the list of its pairs in ascending order of the
names. Names are compared character by character by code point, which is also the order of their
UTF-8 bytes. Writing under a name that is present replaces its entry.

* `NameMap.get?_insert`: a look-up after a write sees the write and nothing else of it.
-/

namespace Understudy

namespace Entries

variable {α : Type}

/-- The names ascend, so none occurs twice. -/
def Ordered (entries : List (String × α)) : Prop :=
  entries.Pairwise fun a b => a.1 < b.1

/-- Writes the entry under the name, keeping the order. -/
def insert (name : String) (entry : α) : List (String × α) → List (String × α)
  | [] => [(name, entry)]
  | head :: rest =>
    if name < head.1 then (name, entry) :: head :: rest
    else if name = head.1 then (name, entry) :: rest
    else head :: insert name entry rest

/-- The entry under the name. -/
def get? (name : String) : List (String × α) → Option α
  | [] => none
  | head :: rest => if name = head.1 then some head.2 else get? name rest

/-- The entries in order, the last one written under a name winning. -/
def ofList (entries : List (String × α)) : List (String × α) :=
  entries.foldl (fun sofar entry => insert entry.1 entry.2 sofar) []

theorem mem_insert {name : String} {entry : α} {entries : List (String × α)}
    {e : String × α} (mem : e ∈ insert name entry entries) : e = (name, entry) ∨ e ∈ entries := by
  induction entries with
  | nil => simpa [insert] using mem
  | cons head rest ih =>
    unfold insert at mem
    split at mem
    · simpa using mem
    · split at mem
      · rcases List.mem_cons.1 mem with h | h
        · exact .inl h
        · exact .inr (List.mem_cons_of_mem _ h)
      · rcases List.mem_cons.1 mem with h | h
        · exact .inr (h ▸ List.mem_cons_self)
        · exact (ih h).imp id (List.mem_cons_of_mem _)

theorem ordered_insert {entries : List (String × α)} (name : String) (entry : α)
    (ordered : Ordered entries) : Ordered (insert name entry entries) := by
  induction entries with
  | nil => simp [insert, Ordered]
  | cons head rest ih =>
    obtain ⟨below, tail⟩ := List.pairwise_cons.1 ordered
    unfold insert
    split
    · next less =>
      refine List.pairwise_cons.2 ⟨fun e mem => ?_, ordered⟩
      rcases List.mem_cons.1 mem with rfl | mem
      · exact less
      · exact String.lt_trans less (below e mem)
    · next notLess =>
      split
      · next same => exact List.pairwise_cons.2 ⟨fun e mem => same ▸ below e mem, tail⟩
      · next differ =>
        refine List.pairwise_cons.2 ⟨fun e mem => ?_, ih tail⟩
        rcases mem_insert mem with rfl | mem
        · have : head.1 ≤ name := String.not_lt.1 notLess
          show head.1 < name
          grind
        · exact below e mem

theorem ordered_ofList (entries : List (String × α)) : Ordered (ofList entries) := by
  suffices h : ∀ sofar : List (String × α), Ordered sofar →
      Ordered (entries.foldl (fun sofar entry => insert entry.1 entry.2 sofar) sofar) from
    h [] List.Pairwise.nil
  induction entries with
  | nil => exact fun _ h => h
  | cons head rest ih => exact fun sofar h => ih _ (ordered_insert _ _ h)

theorem get?_insert (name other : String) (entry : α) (entries : List (String × α)) :
    get? other (insert name entry entries) =
      if other = name then some entry else get? other entries := by
  induction entries with
  | nil => simp [insert, get?]
  | cons head rest ih => grind [insert, get?]

theorem get?_eq_some_iff {entries : List (String × α)} (ordered : Ordered entries) {name : String}
    {entry : α} : get? name entries = some entry ↔ (name, entry) ∈ entries := by
  induction entries with
  | nil => simp [get?]
  | cons head rest ih =>
    obtain ⟨below, tail⟩ := List.pairwise_cons.1 ordered
    rw [get?, List.mem_cons]
    by_cases same : name = head.1
    · -- The name does not occur again behind its entry.
      have once : (name, entry) ∉ rest := fun mem =>
        String.lt_irrefl name (same ▸ below (name, entry) mem)
      rw [if_pos same, Option.some.injEq, or_iff_left once, Prod.ext_iff]
      exact ⟨fun h => ⟨same, h.symm⟩, fun h => h.2.symm⟩
    · rw [if_neg same, ih tail, or_iff_right fun h => same (congrArg Prod.fst h)]

end Entries

/-- A finite map from names to entries, its pairs in ascending order of the names. -/
structure NameMap (α : Type) where
  /-- The pairs of name and entry. -/
  entries : List (String × α)
  /-- The names ascend. -/
  ordered : Entries.Ordered entries

namespace NameMap

variable {α : Type}

/-- The map without entries. -/
def empty : NameMap α := ⟨[], List.Pairwise.nil⟩

/-- Writes the entry under the name. -/
def insert (map : NameMap α) (name : String) (entry : α) : NameMap α :=
  ⟨Entries.insert name entry map.entries, Entries.ordered_insert name entry map.ordered⟩

/-- The entry under the name. -/
def get? (map : NameMap α) (name : String) : Option α :=
  Entries.get? name map.entries

/-- The map of the pairs, the last one of a name winning. -/
def ofList (entries : List (String × α)) : NameMap α :=
  ⟨Entries.ofList entries, Entries.ordered_ofList entries⟩

/-- Whether there is no entry. -/
def isEmpty (map : NameMap α) : Bool := map.entries.isEmpty

theorem get?_insert (map : NameMap α) (name other : String) (entry : α) :
    (map.insert name entry).get? other = if other = name then some entry else map.get? other :=
  Entries.get?_insert name other entry map.entries

end NameMap

end Understudy
