import Mathlib.Data.List.Induction
import Understudy.Proofs.Value.Reordering
import Understudy.Value.Collect

/-!
# What is left of repetitions

A set that is built from a list keeps what occurs in it where it first occurs, and a map that is
built from entries keeps every key where it first occurs with the value of its last entry. So both
are determined by what was given, in whatever order and however often: two sets are equal if each
element given for the one equals one given for the other, and two maps are if the last entries
give equal values to every key.

* `EquivalentOn.sameInAnyOrder_iff_covered`: lists without repetition are found equal in any
  order exactly if the elements of each occur in the other.
* `Value.any_collect`, `Value.lookup?_assemble`: nothing that was given is lost, and the last entry
  of a key counts.
* `Value.collections_extensional`: what sets and maps are built of, and when they are equal.
-/

namespace Understudy

/-- Whether all elements of the first list equal elements of the second. -/
def Covered {α : Type} (same : α → α → Bool) (as bs : List α) : Prop :=
  ∀ a ∈ as, ∃ b ∈ bs, same a b = true

namespace EquivalentOn

variable {α : Type} {P : α → Prop} {same : α → α → Bool} {as bs : List α}

theorem covered_of_sameInAnyOrder (h : EquivalentOn P same) (has : ∀ a ∈ as, P a)
    (hbs : ∀ b ∈ bs, P b) (equal : sameInAnyOrder same as bs = true) : Covered same as bs := by
  intro a mem
  have counted : 0 < as.countP (same · a) := List.countP_pos_iff.2 ⟨a, mem, h.refl (has a mem)⟩
  rw [(sameInAnyOrder_iff.1 equal).2 a mem] at counted
  obtain ⟨b, mem', met⟩ := List.countP_pos_iff.1 counted
  exact ⟨b, mem', h.symm (hbs b mem') (has a mem) met⟩

/-- If an element that does not occur again is taken from one list and its equal from another, what
    is left of the first still occurs in what is left of the second. -/
theorem covered_tail (h : EquivalentOn P same) {a b : α} {rest : List α}
    (has : ∀ x ∈ a :: as, P x) (hbs : ∀ y ∈ bs, P y)
    (distinct : (a :: as).Pairwise fun x y => same x y = false) (met : same a b = true)
    (perm : (b :: rest).Perm bs) (covered : Covered same (a :: as) bs) : Covered same as rest := by
  intro x mem
  obtain ⟨ha, hx⟩ := And.intro (has a List.mem_cons_self) (has x (List.mem_cons_of_mem a mem))
  obtain ⟨y, mem', met'⟩ := covered x (List.mem_cons_of_mem a mem)
  rcases List.mem_cons.1 (perm.symm.subset mem') with rfl | there
  · have again := h.trans ha (hbs y mem') hx met (h.symm hx (hbs y mem') met')
    rw [(List.pairwise_cons.1 distinct).1 x mem] at again
    cases again
  · exact ⟨y, there, met'⟩

/-- The order of a list without repetition does not matter for its being one. -/
theorem distinct_perm (h : EquivalentOn P same) {cs : List α} (has : ∀ a ∈ as, P a)
    (perm : as.Perm cs) (distinct : as.Pairwise fun x y => same x y = false) :
    cs.Pairwise fun x y => same x y = false := by
  -- Where the test is symmetric only for some elements, the relation has to speak of these only.
  have bounded : as.Pairwise fun x y => P x ∧ P y ∧ same x y = false :=
    distinct.imp_of_mem fun mem mem' apart => ⟨has _ mem, has _ mem', apart⟩
  have swap : ∀ {x y}, P x ∧ P y ∧ same x y = false → P y ∧ P x ∧ same y x = false :=
    fun ⟨hx, hy, apart⟩ => ⟨hy, hx, (h.comm hy hx).trans apart⟩
  exact (perm.pairwise bounded swap).imp fun apart => apart.2.2

/-- Lists without repetition are equal in any order if the elements of each occur in the other. -/
theorem sameInAnyOrder_of_covered (h : EquivalentOn P same) (has : ∀ a ∈ as, P a)
    (hbs : ∀ b ∈ bs, P b) (distinct : as.Pairwise fun x y => same x y = false)
    (distinct' : bs.Pairwise fun x y => same x y = false)
    (covered : Covered same as bs) (covered' : Covered same bs as) :
    sameInAnyOrder same as bs = true := by
  have decides : DecidesOn P same fun x y => same x y = true := fun _ _ _ _ => Iff.rfl
  rw [decides.inAnyOrder h has hbs]
  induction as generalizing bs with
  | nil =>
    cases bs with
    | nil => exact ⟨[], .nil, .refl []⟩
    | cons b bs =>
      obtain ⟨_, mem, _⟩ := covered' b List.mem_cons_self
      cases mem
  | cons a as ih =>
    obtain ⟨b, mem, met⟩ := covered a List.mem_cons_self
    obtain ⟨front, back, rfl⟩ := List.append_of_mem mem
    -- The element that the first one equals is taken out, and the others are still covered.
    have perm : (b :: (front ++ back)).Perm (front ++ b :: back) := List.perm_middle.symm
    have hbs' : ∀ y ∈ b :: (front ++ back), P y := fun y mem => hbs y (perm.subset mem)
    have apart := h.distinct_perm hbs perm.symm distinct'
    have rest := h.covered_tail has hbs distinct met perm covered
    have rest' : Covered same (front ++ back) as :=
      h.covered_tail hbs' has apart (h.symm (has a List.mem_cons_self) (hbs b mem) met)
        (.refl _) fun y there => covered' y (perm.subset there)
    obtain ⟨cs, like, perm'⟩ := ih (List.forall_mem_cons.1 has).2 (List.forall_mem_cons.1 hbs').2
      (List.pairwise_cons.1 distinct).2 (List.pairwise_cons.1 apart).2 rest rest'
    exact ⟨b :: cs, .cons met like, (perm'.cons b).trans perm⟩

/-- Lists without repetition are found equal exactly if the elements of each occur in the other. -/
theorem sameInAnyOrder_iff_covered (h : EquivalentOn P same) (has : ∀ a ∈ as, P a)
    (hbs : ∀ b ∈ bs, P b)
    (distinct : as.Pairwise fun x y => same x y = false)
    (distinct' : bs.Pairwise fun x y => same x y = false) :
    sameInAnyOrder same as bs = true ↔ Covered same as bs ∧ Covered same bs as := by
  constructor
  · intro equal
    exact ⟨h.covered_of_sameInAnyOrder has hbs equal,
      h.covered_of_sameInAnyOrder hbs has (h.inAnyOrder.symm has hbs equal)⟩
  · rintro ⟨covered, covered'⟩
    exact h.sameInAnyOrder_of_covered has hbs distinct distinct' covered covered'

/-- Where two things are equal if there are any, each equals the other. -/
theorem rel_iff (h : EquivalentOn P same) {o o' : Option α} (ho : ∀ a, o = some a → P a)
    (ho' : ∀ b, o' = some b → P b) : Option.Rel (same · · = true) o o' ↔
      (∀ a, o = some a → ∃ b, o' = some b ∧ same a b = true) ∧
        ∀ b, o' = some b → ∃ a, o = some a ∧ same b a = true := by
  constructor
  · intro related
    cases related with
    | none => exact ⟨nofun, nofun⟩
    | @some a b equal =>
      refine ⟨fun _ found => ?_, fun _ found => ?_⟩
      · exact ⟨b, rfl, Option.some.inj found ▸ equal⟩
      · exact ⟨a, rfl, Option.some.inj found ▸ h.symm (ho a rfl) (ho' b rfl) equal⟩
  · rintro ⟨forth, back⟩
    cases o with
    | some a =>
      obtain ⟨b, rfl, equal⟩ := forth a rfl
      exact .some equal
    | none =>
      cases o' with
      | none => exact .none
      | some b =>
        obtain ⟨_, found, -⟩ := back b rfl
        cases found

end EquivalentOn

namespace Value

/-! ## Sets -/

/-- The items that equal none of those in front of them, where `front` stands in front of the
    list. -/
def firsts (front : List Value) : List Value → List Value
  | [] => []
  | item :: rest =>
    if front.any (same · item) then firsts (front ++ [item]) rest
    else item :: firsts (front ++ [item]) rest

/-- What a set keeps of the items. -/
def collect (items : List Value) : List Value :=
  items.foldl addElement []

theorem collect_concat (items : List Value) (item : Value) :
    collect (items ++ [item]) = addElement (collect items) item := by
  rw [collect, List.foldl_append]
  rfl

theorem mem_addElement {items : List Value} {item other : Value}
    (mem : other ∈ addElement items item) : other ∈ items ∨ other = item := by
  rw [addElement] at mem
  split at mem
  · exact .inl mem
  · simpa using mem

theorem distinct_addElement {items : List Value} (item : Value)
    (distinct : items.Pairwise fun a b => same a b = false) :
    (addElement items item).Pairwise fun a b => same a b = false := by
  rw [addElement]
  split
  · exact distinct
  · next new =>
    refine List.pairwise_append.2 ⟨distinct, List.pairwise_singleton _ _, fun a mem b mem' => ?_⟩
    obtain rfl := List.mem_singleton.1 mem'
    simp only [List.any_eq_true, not_exists, not_and, Bool.not_eq_true] at new
    exact new a mem

theorem mem_of_mem_collect {items : List Value} {item : Value} (mem : item ∈ collect items) :
    item ∈ items := by
  induction items using List.reverseRecOn with
  | nil => exact mem
  | append_singleton items last ih =>
    rw [collect_concat] at mem
    rcases mem_addElement mem with mem | rfl
    · exact List.mem_append_left _ (ih mem)
    · exact List.mem_append_right _ List.mem_cons_self

theorem distinct_collect (items : List Value) :
    (collect items).Pairwise fun a b => same a b = false := by
  induction items using List.reverseRecOn with
  | nil => exact .nil
  | append_singleton items last ih =>
    rw [collect_concat]
    exact distinct_addElement last ih

variable {items items' : List Value}

/-- What is kept of the items is equalled by the same values as the items are. -/
theorem any_collect (numeric : ∀ item ∈ items, item.Numeric) {x : Value} (hx : x.Numeric) :
    (collect items).any (same · x) = items.any (same · x) := by
  induction items using List.reverseRecOn with
  | nil => rfl
  | append_singleton items last ih =>
    obtain ⟨numeric, hlast⟩ := List.forall_mem_append.1 numeric
    have hlast : last.Numeric := hlast last List.mem_cons_self
    rw [collect_concat, addElement, List.any_append, List.any_cons, List.any_nil, Bool.or_false]
    split
    · next there =>
      rw [ih numeric]
      -- The last item is dropped for one that it equals, and that is equalled by the same values.
      cases equal : same last x with
      | false => rw [Bool.or_false]
      | true =>
        obtain ⟨y, mem, met⟩ := List.any_eq_true.1 there
        have mem := mem_of_mem_collect mem
        rw [Bool.or_true]
        exact List.any_eq_true.2
          ⟨y, mem, equivalentOn_numeric.trans (numeric y mem) hlast hx met equal⟩
    · rw [List.any_append, ih numeric, List.any_cons, List.any_nil, Bool.or_false]

/-- What is kept of the items behind others is what is new among them. -/
theorem collect_append {front : List Value} (hfront : ∀ item ∈ front, item.Numeric)
    (numeric : ∀ item ∈ items, item.Numeric) :
    collect (front ++ items) = collect front ++ firsts front items := by
  induction items generalizing front with
  | nil => rw [firsts, List.append_nil, List.append_nil]
  | cons item rest ih =>
    obtain ⟨here, behind⟩ := List.forall_mem_cons.1 numeric
    have hfront' : ∀ x ∈ front ++ [item], x.Numeric :=
      List.forall_mem_append.2 ⟨hfront, fun x mem => List.mem_singleton.1 mem ▸ here⟩
    rw [List.append_cons, ih hfront' behind, collect_concat, addElement, firsts,
      any_collect hfront here]
    split
    · rfl
    · rw [List.append_assoc, List.singleton_append]

theorem collect_eq (numeric : ∀ item ∈ items, item.Numeric) : collect items = firsts [] items := by
  have none : ∀ item ∈ ([] : List Value), item.Numeric := List.forall_mem_nil _
  exact collect_append none numeric

theorem numeric_collect (numeric : ∀ item ∈ items, item.Numeric) :
    ∀ item ∈ collect items, item.Numeric := fun item mem => numeric item (mem_of_mem_collect mem)

/-- What equals an item equals one that is kept. -/
theorem exists_collect_iff (numeric : ∀ item ∈ items, item.Numeric) {x : Value} (hx : x.Numeric) :
    (∃ y ∈ collect items, same x y = true) ↔ ∃ y ∈ items, same x y = true := by
  have turned : ∀ {as : List Value}, (∀ a ∈ as, a.Numeric) →
      ((∃ a ∈ as, same x a = true) ↔ as.any (same · x) = true) := by
    intro as has
    rw [List.any_eq_true]
    exact exists_congr fun a => and_congr_right fun mem => by
      rw [equivalentOn_numeric.comm hx (has a mem)]
  rw [turned (numeric_collect numeric), turned numeric, any_collect numeric hx]

/-- What is kept of some items occurs among what is kept of others if the items do. -/
theorem covered_collect_iff (numeric : ∀ item ∈ items, item.Numeric)
    (numeric' : ∀ item ∈ items', item.Numeric) :
    Covered same (collect items) (collect items') ↔ Covered same items items' := by
  constructor
  · intro covered x mem
    have hx := numeric x mem
    obtain ⟨y, kept, met⟩ :=
      (exists_collect_iff numeric hx).2 ⟨x, mem, equivalentOn_numeric.refl hx⟩
    obtain ⟨z, kept', met'⟩ := covered y kept
    exact ⟨z, mem_of_mem_collect kept', equivalentOn_numeric.trans hx
      (numeric_collect numeric y kept) (numeric_collect numeric' z kept') met met'⟩
  · intro covered x kept
    exact (exists_collect_iff numeric' (numeric_collect numeric x kept)).2
      (covered x (mem_of_mem_collect kept))

/-- Sets are equal if each element given for the one equals one given for the other. -/
theorem same_setOf_iff (numeric : ∀ item ∈ items, item.Numeric)
    (numeric' : ∀ item ∈ items', item.Numeric) :
    same (setOf items) (setOf items') = true ↔
      Covered same items items' ∧ Covered same items' items := by
  have sets : same (setOf items) (setOf items') =
      sameInAnyOrder same (collect items) (collect items') := same_set _ _
  rw [sets, equivalentOn_numeric.sameInAnyOrder_iff_covered (numeric_collect numeric)
    (numeric_collect numeric') (distinct_collect items) (distinct_collect items'),
    covered_collect_iff numeric numeric', covered_collect_iff numeric' numeric]

/-! ## Maps -/

/-- Whether all keys and values of the entries are numeric. -/
def NumericEntries (entries : List (Value × Value)) : Prop :=
  ∀ entry ∈ entries, entry.1.Numeric ∧ entry.2.Numeric

/-- The value of the first entry whose key equals the key. -/
def lookup? (key : Value) : List (Value × Value) → Option Value
  | [] => none
  | head :: rest => if same head.1 key then some head.2 else lookup? key rest

/-- The value of the last entry whose key equals the key. -/
def latest? (key : Value) (entries : List (Value × Value)) : Option Value :=
  lookup? key entries.reverse

/-- What a map keeps of the entries. -/
def assemble (entries : List (Value × Value)) : List (Value × Value) :=
  entries.foldl (fun sofar entry => putEntry entry.1 entry.2 sofar) []

theorem assemble_concat (entries : List (Value × Value)) (entry : Value × Value) :
    assemble (entries ++ [entry]) = putEntry entry.1 entry.2 (assemble entries) := by
  rw [assemble, List.foldl_append]
  rfl

theorem latest?_concat (key : Value) (entries : List (Value × Value)) (entry : Value × Value) :
    latest? key (entries ++ [entry]) =
      if same entry.1 key then some entry.2 else latest? key entries := by
  rw [latest?, List.reverse_append]
  rfl

theorem keys_putEntry (key value : Value) (entries : List (Value × Value)) :
    (putEntry key value entries).map Prod.fst = addElement (entries.map Prod.fst) key := by
  induction entries with
  | nil => rfl
  | cons head rest ih =>
    rw [putEntry, addElement, List.map_cons, List.any_cons]
    cases met : same head.1 key with
    | true => rfl
    | false =>
      rw [addElement] at ih
      rw [Bool.false_or, if_neg Bool.false_ne_true, List.map_cons, ih]
      split <;> rfl

/-- The keys of a map are kept like the elements of a set. -/
theorem keys_assemble (entries : List (Value × Value)) :
    (assemble entries).map Prod.fst = collect (entries.map Prod.fst) := by
  induction entries using List.reverseRecOn with
  | nil => rfl
  | append_singleton entries last ih =>
    rw [assemble_concat, keys_putEntry, ih, List.map_append, List.map_cons, List.map_nil,
      collect_concat]

variable {entries entries' : List (Value × Value)} {key value x : Value}

theorem NumericEntries.keys (numeric : NumericEntries entries) :
    ∀ key ∈ entries.map Prod.fst, key.Numeric := by
  intro key mem
  obtain ⟨entry, there, rfl⟩ := List.mem_map.1 mem
  exact (numeric entry there).1

theorem NumericEntries.put (hkey : key.Numeric) (hvalue : value.Numeric)
    (numeric : NumericEntries entries) : NumericEntries (putEntry key value entries) := by
  induction entries with
  | nil => exact List.forall_mem_singleton.2 ⟨hkey, hvalue⟩
  | cons head rest ih =>
    obtain ⟨here, behind⟩ := List.forall_mem_cons.1 numeric
    rw [putEntry]
    split
    · exact List.forall_mem_cons.2 ⟨⟨here.1, hvalue⟩, behind⟩
    · exact List.forall_mem_cons.2 ⟨here, ih behind⟩

theorem NumericEntries.assemble (numeric : NumericEntries entries) :
    NumericEntries (assemble entries) := by
  induction entries using List.reverseRecOn with
  | nil => exact List.forall_mem_nil _
  | append_singleton entries last ih =>
    obtain ⟨numeric, hlast⟩ := List.forall_mem_append.1 numeric
    obtain ⟨hkey, hvalue⟩ := hlast last List.mem_cons_self
    rw [assemble_concat]
    exact (ih numeric).put hkey hvalue

theorem distinct_assemble (entries : List (Value × Value)) :
    (assemble entries).Pairwise fun p q => same p.1 q.1 = false :=
  List.pairwise_map.1 (keys_assemble entries ▸ distinct_collect (entries.map Prod.fst))

/-- The key that is written has the value, and every other key has the value that it had. -/
theorem lookup?_putEntry (numeric : NumericEntries entries) (hkey : key.Numeric) (hx : x.Numeric) :
    lookup? x (putEntry key value entries) =
      if same key x then some value else lookup? x entries := by
  induction entries with
  | nil => rfl
  | cons head rest ih =>
    obtain ⟨here, behind⟩ := List.forall_mem_cons.1 numeric
    rw [putEntry]
    cases met : same head.1 key with
    | true =>
      rw [if_pos rfl, lookup?, lookup?, equivalentOn_numeric.congr_left here.1 hkey hx met]
      cases same key x <;> rfl
    | false =>
      rw [if_neg Bool.false_ne_true, lookup?, lookup?, ih behind]
      cases found : same head.1 x with
      | false => rfl
      | true =>
        -- What equals the head does not equal the key as well.
        have other : same key x = false := by
          by_contra equal
          have equal := equivalentOn_numeric.symm hkey hx (Bool.of_not_eq_false equal)
          have again := equivalentOn_numeric.trans here.1 hx hkey found equal
          rw [met] at again
          cases again
        rw [other]
        rfl

/-- Every key has the value of its last entry. -/
theorem lookup?_assemble (numeric : NumericEntries entries) (hx : x.Numeric) :
    lookup? x (assemble entries) = latest? x entries := by
  induction entries using List.reverseRecOn with
  | nil => rfl
  | append_singleton entries last ih =>
    obtain ⟨before, hlast⟩ := List.forall_mem_append.1 numeric
    have kept : NumericEntries (assemble entries) := NumericEntries.assemble before
    rw [assemble_concat, latest?_concat,
      lookup?_putEntry kept (hlast last List.mem_cons_self).1 hx, ih before]

theorem exists_of_lookup? (found : lookup? x entries = some value) :
    ∃ key, (key, value) ∈ entries ∧ same key x = true := by
  induction entries with
  | nil => cases found
  | cons head rest ih =>
    rw [lookup?] at found
    split at found
    · next met =>
      obtain rfl := Option.some.inj found
      exact ⟨head.1, List.mem_cons_self, met⟩
    · obtain ⟨key, mem, met⟩ := ih found
      exact ⟨key, List.mem_cons_of_mem head mem, met⟩

theorem NumericEntries.lookup? (numeric : NumericEntries entries)
    (found : lookup? x entries = some value) : value.Numeric := by
  obtain ⟨key, mem, -⟩ := exists_of_lookup? found
  exact (numeric _ mem).2

theorem lookup?_congr (numeric : NumericEntries entries) (hkey : key.Numeric) (hx : x.Numeric)
    (equal : same key x = true) : lookup? key entries = lookup? x entries := by
  induction entries with
  | nil => rfl
  | cons head rest ih =>
    obtain ⟨here, behind⟩ := List.forall_mem_cons.1 numeric
    rw [lookup?, lookup?, ih behind, equivalentOn_numeric.congr_right hkey hx here.1 equal]

theorem lookup?_of_mem (numeric : NumericEntries entries)
    (distinct : entries.Pairwise fun p q => same p.1 q.1 = false)
    (mem : (key, value) ∈ entries) : lookup? key entries = some value := by
  induction entries with
  | nil => cases mem
  | cons head rest ih =>
    obtain ⟨here, behind⟩ := List.forall_mem_cons.1 numeric
    obtain ⟨apart, distinct⟩ := List.pairwise_cons.1 distinct
    rw [lookup?]
    rcases List.mem_cons.1 mem with rfl | mem
    · rw [if_pos (equivalentOn_numeric.refl here.1)]
    · rw [if_neg (Bool.eq_false_iff.1 (apart _ mem)), ih behind distinct mem]

/-- The entries of one map occur in another if every key has an equal value there. -/
theorem covered_entries_iff (numeric : NumericEntries entries) (numeric' : NumericEntries entries')
    (distinct : entries.Pairwise fun p q => same p.1 q.1 = false)
    (distinct' : entries'.Pairwise fun p q => same p.1 q.1 = false) :
    Covered (samePair same same) entries entries' ↔
      ∀ key : Value, key.Numeric → ∀ value, lookup? key entries = some value →
        ∃ value', lookup? key entries' = some value' ∧ same value value' = true := by
  constructor
  · intro covered x hx value found
    obtain ⟨key, mem, met⟩ := exists_of_lookup? found
    obtain ⟨⟨key', value'⟩, mem', equal⟩ := covered _ mem
    obtain ⟨equalKeys, equalValues⟩ := Bool.and_eq_true_iff.1 equal
    obtain ⟨hkey, hkey'⟩ := And.intro (numeric _ mem).1 (numeric' _ mem').1
    have met' := equivalentOn_numeric.trans hkey' hkey hx
      (equivalentOn_numeric.symm hkey hkey' equalKeys) met
    exact ⟨value', lookup?_congr numeric' hkey' hx met' ▸ lookup?_of_mem numeric' distinct' mem',
      equalValues⟩
  · rintro agree ⟨key, value⟩ mem
    have hkey := (numeric _ mem).1
    obtain ⟨value', found, equal⟩ := agree key hkey value (lookup?_of_mem numeric distinct mem)
    obtain ⟨key', mem', met⟩ := exists_of_lookup? found
    exact ⟨(key', value'), mem', Bool.and_eq_true_iff.2
      ⟨equivalentOn_numeric.symm (numeric' _ mem').1 hkey met, equal⟩⟩

/-- Maps are equal if the last entries given for them give equal values to every key. -/
theorem same_mapOf_iff (numeric : NumericEntries entries) (numeric' : NumericEntries entries') :
    same (mapOf entries) (mapOf entries') = true ↔
      ∀ key : Value, key.Numeric →
        Option.Rel (same · · = true) (latest? key entries) (latest? key entries') := by
  have kept := numeric.assemble
  have kept' := numeric'.assemble
  have distinct := distinct_assemble entries
  have distinct' := distinct_assemble entries'
  have apart : ∀ {p q : Value × Value}, same p.1 q.1 = false → samePair same same p q = false :=
    fun keys => by rw [samePair, keys, Bool.false_and]
  have maps : same (mapOf entries) (mapOf entries') =
      sameInAnyOrder (samePair same same) (assemble entries) (assemble entries') := same_map _ _
  rw [maps, (equivalentOn_numeric.pair equivalentOn_numeric).sameInAnyOrder_iff_covered kept kept'
    (distinct.imp apart) (distinct'.imp apart), covered_entries_iff kept kept' distinct distinct',
    covered_entries_iff kept' kept distinct' distinct]
  -- Both sides ask something of every key.
  rw [← forall₂_and]
  refine forall₂_congr fun key hkey => ?_
  rw [← lookup?_assemble numeric hkey, ← lookup?_assemble numeric' hkey]
  exact (equivalentOn_numeric.rel_iff (fun _ => kept.lookup?) fun _ => kept'.lookup?).symm

/-! ## Both -/

/-- Whether the items are what is kept of a list: each where it first occurs. -/
structure KeptItems (given items : List Value) : Prop where
  /-- No item equals another. -/
  distinct : items.Pairwise fun a b => same a b = false
  /-- They are the first occurrences in order. -/
  firsts : items = firsts [] given

/-- Whether the entries are what is kept of a list: each key where it first occurs, with its last
    value. -/
structure KeptEntries (given entries : List (Value × Value)) : Prop where
  /-- No key equals another. -/
  distinct : entries.Pairwise fun p q => same p.1 q.1 = false
  /-- The keys are the first occurrences in order. -/
  keys : entries.map Prod.fst = firsts [] (given.map Prod.fst)
  /-- Each has the value of its last entry. -/
  latest : ∀ entry ∈ entries, latest? entry.1 given = some entry.2

theorem keptEntries_assemble (numeric : NumericEntries entries) :
    KeptEntries entries (assemble entries) where
  distinct := distinct_assemble entries
  keys := (keys_assemble entries).trans (collect_eq numeric.keys)
  latest := fun entry mem => by
    rw [← lookup?_assemble numeric (numeric.assemble entry mem).1]
    exact lookup?_of_mem numeric.assemble (distinct_assemble entries) mem

/-- Sets and maps that are built from lists are extensional. Of the elements of a set the first
    occurrences are kept, and sets are equal if each element given for the one equals one given
    for the other. Of the keys of a map they are kept too, each with the value of its last entry,
    and maps are equal if the last entries give equal values to every key. -/
theorem collections_extensional :
    (∀ given : List Value, (∀ item ∈ given, item.Numeric) →
      ∃ items, setOf given = .set items ∧ KeptItems given items) ∧
    (∀ given given' : List Value, (∀ item ∈ given, item.Numeric) →
      (∀ item ∈ given', item.Numeric) →
        (same (setOf given) (setOf given') = true ↔
          Covered same given given' ∧ Covered same given' given)) ∧
    (∀ given : List (Value × Value), NumericEntries given →
      ∃ entries, mapOf given = .map entries ∧ KeptEntries given entries) ∧
    ∀ given given' : List (Value × Value), NumericEntries given → NumericEntries given' →
      (same (mapOf given) (mapOf given') = true ↔
        ∀ key : Value, key.Numeric →
          Option.Rel (same · · = true) (latest? key given) (latest? key given')) := by
  refine ⟨fun given numeric => ?_, fun _ _ => same_setOf_iff, fun given numeric => ?_,
    fun _ _ => same_mapOf_iff⟩
  · exact ⟨collect given, rfl, distinct_collect given, collect_eq numeric⟩
  · exact ⟨assemble given, rfl, keptEntries_assemble numeric⟩

end Value

/-- Elements of which two are equal. -/
def Sample.draws : List Value := [.int 1, .float (.zero true), .int 1]

/-- The same without repetition, the other way round and with the other zero. -/
def Sample.turnedDraws : List Value := [.float (.zero false), .int 1]

/-- Entries of which two have one key. -/
def Sample.takings : List (Value × Value) :=
  [(.str "monday", .int 1), (.str "tuesday", .int 2), (.str "monday", .int 3)]

/-- The entries that count, the other way round. -/
def Sample.lateTakings : List (Value × Value) :=
  [(.str "tuesday", .int 2), (.str "monday", .int 3)]

namespace Value

theorem collections_extensional_takings :
    ((∀ item ∈ Sample.draws, item.Numeric) ∧ (∀ item ∈ Sample.turnedDraws, item.Numeric) ∧
      same (setOf Sample.draws) (setOf Sample.turnedDraws) = true) ∧
    NumericEntries Sample.takings ∧ NumericEntries Sample.lateTakings ∧
      same (mapOf Sample.takings) (mapOf Sample.lateTakings) = true := by
  have zero : ∀ negative, (Binary64.zero negative).isNaN = false := by decide +kernel
  have zeros : ∀ negative, (Binary64.zero negative).sameNumber (.zero !negative) = true := by
    decide +kernel
  have draws : ∀ item ∈ Sample.draws, item.Numeric :=
    floatsOfItems_iff.1 ⟨trivial, zero true, trivial, trivial⟩
  have turned : ∀ item ∈ Sample.turnedDraws, item.Numeric :=
    floatsOfItems_iff.1 ⟨zero false, trivial, trivial⟩
  have forth : Covered same Sample.draws Sample.turnedDraws := by
    simpa [Covered, Sample.draws, Sample.turnedDraws] using .inl (zeros true)
  have back : Covered same Sample.turnedDraws Sample.draws := by
    simpa [Covered, Sample.draws, Sample.turnedDraws] using .inr (.inl (zeros false))
  have takings : NumericEntries Sample.takings := by
    simp [NumericEntries, Sample.takings, Numeric, Floats]
  have late : NumericEntries Sample.lateTakings := by
    simp [NumericEntries, Sample.lateTakings, Numeric, Floats]
  refine ⟨⟨draws, turned, (collections_extensional.2.1 _ _ draws turned).2 ⟨forth, back⟩⟩,
    takings, late, (collections_extensional.2.2.2 _ _ takings late).2 fun key _ => ?_⟩
  simp only [latest?, Sample.takings, Sample.lateTakings, List.reverse_cons, List.reverse_nil,
    List.nil_append, List.cons_append, lookup?]
  cases same (.str "monday") key with
  | true => exact .some (same_int 3 3)
  | false =>
    cases same (.str "tuesday") key with
    | true => exact .some (same_int 2 2)
    | false => exact .none

end Value

end Understudy
