import Mathlib.Data.List.Forall2
import Understudy.Proofs.Json.Scalar

/-!
# Documents survive their texts

The text of a document is read back as the document, be it on one line or over several: brackets,
commas, colons and the blanks between them are told apart from what the scalars are made of. That
leaves the numbers with a fraction, which have to be such as are read back when they stand alone.

* `Json.Legible`: what is asked of a document.
* `Json.survives_array`, `Json.survives_object`: a document is read back if its parts are.
* `JsonText.read_pretty`, `JsonText.read_compact`: a legible document is read back from a text that
  holds nothing else.
-/

namespace Understudy

/-- Whether the number is read back from its text. -/
def Binary64.Rereads (x : Binary64) : Prop :=
  JsonText.read (Json.writeScalar (.real x)) = ⟨.real x, true⟩

namespace Json

mutual

/-- Whether the document has no faults, integers of 64 bits only, and numbers that are read
    back. -/
def Legible : Json → Prop
  | .null | .bool _ | .string _ => True
  | .integer n => -(pow2 63 : Int) ≤ n ∧ n < pow2 64
  | .real x => x.Rereads
  | .array items => LegibleItems items
  | .object entries => LegibleEntries entries
  | .fault _ => False

/-- Whether all items are so. -/
def LegibleItems : List Json → Prop
  | [] => True
  | item :: rest => Legible item ∧ LegibleItems rest

/-- Whether all entries are, and have keys. -/
def LegibleEntries : List (Option String × Json) → Prop
  | [] => True
  | (key, value) :: rest => key.isSome ∧ Legible value ∧ LegibleEntries rest

end

/-! ## Blanks -/

/-- The text behind its leading blanks. -/
def skipSpaces (text : List Char) : List Char := text.dropWhile isSpace

theorem skipSpaces_space {c : Char} (space : isSpace c = true) (text : List Char) :
    skipSpaces (c :: text) = skipSpaces text :=
  List.dropWhile_cons_of_pos space

theorem skipSpaces_cons {c : Char} (visible : isSpace c = false) (text : List Char) :
    skipSpaces (c :: text) = c :: text :=
  List.dropWhile_cons_of_neg (by simp [visible])

/-- Whether all of it is blank. -/
def Blank (gap : List Char) : Prop := ∀ c ∈ gap, isSpace c = true

theorem blank_nil : Blank [] := nofun

theorem blank_lineBreak (level : Nat) : Blank (lineBreak level).toList := by
  rw [lineBreak, String.toList_ofList]
  simp [Blank, isSpace, List.mem_replicate]

theorem skipSpaces_blank {gap : List Char} (blank : Blank gap) (text : List Char) :
    skipSpaces (gap ++ text) = skipSpaces text :=
  List.dropWhile_append_of_pos blank

/-- A numeral may end before a bracket, and before blanks. -/
theorem Ends.closing {gap : List Char} {c : Char} (blank : Blank gap) (shuts : c = ']' ∨ c = '\x7d')
    (rest : List Char) : Ends (gap ++ c :: rest) := by
  cases gap with
  | nil =>
    rintro _ ⟨⟩
    rcases shuts with rfl | rfl <;> decide
  | cons space gap =>
    rintro _ ⟨⟩
    have space := blank _ List.mem_cons_self
    simp only [isSpace, Bool.or_eq_true, decide_eq_true_eq] at space
    rcases space with ((rfl | rfl) | rfl) | rfl <;> decide

/-- The next character that is no blank is at the head of what is behind the blanks. -/
theorem exists_nextToken {text rest : List Char} {c : Char} (shown : skipSpaces text = c :: rest) :
    ∃ after : Remainder text, nextToken text = some (c, after) ∧ after.rest = rest :=
  nextBeyond_of_dropWhile shown

/-! ## Scalars -/

/-- Whether the reader reads the document at the front of the text, and leaves what stands behind
    it but for blanks. -/
def Reads (text : List Char) (json : Json) (rest : List Char) : Prop :=
  ∃ after : Remainder text, readValue text = (json, some after) ∧
    skipSpaces after.rest = skipSpaces rest

variable {text rest : List Char}

/-- No scalar begins with a blank or with what stands around values. -/
theorem readScalar_none {c : Char}
    (other : c ∈ [' ', '\t', '\n', '\r', '{', '[', '"', '}', ']']) (tail : List Char) :
    readScalar (c :: tail) = none := by
  simp only [List.mem_cons, List.not_mem_nil, or_false] at other
  rcases other with rfl | rfl | rfl | rfl | rfl | rfl | rfl | rfl | rfl <;> rfl

theorem skipSpaces_of_readScalar {json : Json} {after : Remainder text}
    (read : readScalar text = some (json, after)) : skipSpaces text = text := by
  cases text with
  | nil => rfl
  | cons c tail =>
    refine skipSpaces_cons ?_ tail
    by_contra space
    simp only [isSpace, Bool.not_eq_false, Bool.or_eq_true, decide_eq_true_eq] at space
    rcases space with ((rfl | rfl) | rfl) | rfl <;>
      rw [readScalar_none (by decide)] at read <;> cases read

/-- What stands behind the blanks of the text is read as a scalar, unless it opens something. -/
theorem readValue_scalar {c : Char} {tail : List Char} (shown : skipSpaces text = c :: tail)
    (other : ¬ (c = '{' ∨ c = '[' ∨ c = '"')) :
    readValue text = match readScalar (text.dropWhile isSpace) with
      | some (value, after) => (value, some (after.within (List.dropWhile_suffix _)))
      | none => (.fault .syntaxError, none) := by
  obtain ⟨after, next, -⟩ := exists_nextToken shown
  rw [readValue, next]
  split
  · next same =>
    cases same
    exact absurd (.inl rfl) other
  · next same =>
    cases same
    exact absurd (.inr (.inl rfl)) other
  · next same =>
    cases same
    exact absurd (.inr (.inr rfl)) other
  · rfl

/-- A scalar is read at the front of a text if it is read when it stands alone. -/
theorem reads_scalar {written alone : List Char} {json : Json} {after : Remainder alone}
    (stripped : skipSpaces written = alone) (read : readScalar alone = some (json, after))
    (blank : skipSpaces after.rest = []) (ends : Ends rest)
    (shown : skipSpaces text = skipSpaces (written ++ rest)) : Reads text json rest := by
  cases alone with
  | nil => cases read
  | cons c tail =>
    obtain ⟨after', read', left⟩ := readScalar_append ends _ _ read
    have front : skipSpaces text = c :: (tail ++ rest) := by
      rw [shown, skipSpaces, List.dropWhile_append, ← skipSpaces, stripped]
      rfl
    have other : ¬ (c = '{' ∨ c = '[' ∨ c = '"') := by
      rintro (rfl | rfl | rfl) <;> rw [readScalar_none (by decide)] at read <;> cases read
    obtain ⟨behind, found, same⟩ : ∃ behind, readScalar (text.dropWhile isSpace) =
        some (json, behind) ∧ behind.rest = after'.rest := by
      have front : text.dropWhile isSpace = c :: (tail ++ rest) := front
      rw [front]
      exact ⟨after', read', rfl⟩
    rw [Reads, readValue_scalar front other, found]
    refine ⟨_, rfl, ?_⟩
    change skipSpaces behind.rest = _
    rw [same, left, skipSpaces, List.dropWhile_append, ← skipSpaces, blank]
    rfl

/-- A number that is read back when it stands alone is read as a scalar. -/
theorem readScalar_real {x : Binary64} (rereads : x.Rereads) :
    ∃ after, readScalar (skipSpaces (writeScalar (.real x)).toList) = some (.real x, after) ∧
      skipSpaces after.rest = [] := by
  rw [Binary64.Rereads, JsonText.read] at rereads
  split at rereads
  · next root after value =>
    obtain ⟨rfl, complete⟩ := JsonText.mk.inj rereads
    -- The number was read from the whole text, and not as the beginning of anything else.
    have blank : skipSpaces after.rest = [] :=
      nextBeyond_eq_none_iff.1 (Option.isNone_iff_eq_none.1 complete)
    rw [readValue] at value
    split at value
    · split at value <;> cases value
    · split at value <;> cases value
    · split at value
      · next units _ _ =>
        rw [ofUnits] at value
        split at value <;> cases value
      · cases value
    · split at value
      · next found =>
        cases value
        exact ⟨_, found, blank⟩
      · cases value
  · next root value =>
    cases (JsonText.mk.inj rereads).2

theorem toList_writeString (content : String) (rest : List Char) :
    (writeString content).toList ++ rest =
      '"' :: (content.toList.flatMap escape ++ '"' :: rest) := by
  simp [writeString]

theorem reads_string {content : String}
    (shown : skipSpaces text = '"' :: (content.toList.flatMap escape ++ '"' :: rest)) :
    Reads text (.string content) rest := by
  obtain ⟨opening, next, inside⟩ := exists_nextToken shown
  obtain ⟨units, after, read, spells, left⟩ := readString_escape content.toList inside
  have spelt : ofUnits units = .string content := by
    rw [ofUnits, spells]
    exact congrArg Json.string String.ofList_toList
  rw [Reads, readValue, next]
  simp only [read, spelt]
  exact ⟨_, rfl, congrArg skipSpaces left⟩

/-- A document that is neither array nor object is read back. -/
theorem reads_writeScalar {json : Json} (legible : json.Legible)
    (simple : (∀ items, json ≠ .array items) ∧ ∀ entries, json ≠ .object entries)
    (ends : Ends rest) (shown : skipSpaces text = skipSpaces ((writeScalar json).toList ++ rest)) :
    Reads text json rest := by
  cases json with
  | null =>
    rw [show (writeScalar .null).toList = ['n', 'u', 'l', 'l'] from rfl] at shown
    exact reads_scalar rfl rfl rfl ends shown
  | bool b =>
    cases b with
    | true =>
      rw [show (writeScalar (.bool true)).toList = ['t', 'r', 'u', 'e'] from rfl] at shown
      exact reads_scalar rfl rfl rfl ends shown
    | false =>
      rw [show (writeScalar (.bool false)).toList = ['f', 'a', 'l', 's', 'e'] from rfl] at shown
      exact reads_scalar rfl rfl rfl ends shown
  | integer n =>
    obtain ⟨after, read, left⟩ := readScalar_integer legible.1 legible.2
    exact reads_scalar (skipSpaces_of_readScalar read) read (by rw [left]; rfl) ends shown
  | real x =>
    obtain ⟨after, read, blank⟩ := readScalar_real legible
    exact reads_scalar rfl read blank ends shown
  | string content =>
    rw [writeScalar, toList_writeString, skipSpaces_cons (by decide)] at shown
    exact reads_string shown
  | array items => exact absurd rfl (simple.1 items)
  | object entries => exact absurd rfl (simple.2 entries)
  | fault f => cases legible

/-! ## Arrays and objects -/

/-- Whether the reader reads the items up to the closing bracket. -/
def ReadsItems (text : List Char) (items : List Json) (rest : List Char) : Prop :=
  ∃ after, readItems text = (items, some after) ∧ after.rest = rest

/-- Whether the reader reads the entries up to the closing brace. -/
def ReadsEntries (text : List Char) (entries : List (Option String × Json))
    (rest : List Char) : Prop :=
  ∃ after, readEntries text = (entries, some after) ∧ after.rest = rest

section Items

variable {items : List Json} {item : Json}

theorem reads_array_nil (shown : skipSpaces text = '[' :: ']' :: rest) :
    Reads text (.array []) rest := by
  obtain ⟨opening, next, inside⟩ := exists_nextToken shown
  have shut : skipSpaces opening.rest = ']' :: rest := by
    rw [inside]
    exact skipSpaces_cons (by decide) rest
  obtain ⟨closing, last, behind⟩ := exists_nextToken shut
  rw [Reads, readValue, next]
  simp only
  rw [last]
  exact ⟨_, rfl, congrArg skipSpaces behind⟩

/-- The reader meets the closing bracket of an array only behind an item. -/
theorem not_readsItems_closing {tail : List Char} (shown : skipSpaces text = ']' :: tail) :
    ¬ ReadsItems text items rest := by
  have unread : readScalar (text.dropWhile isSpace) = none := by
    rw [show text.dropWhile isSpace = ']' :: tail from shown]
    exact readScalar_none (by decide) tail
  have broken : readValue text = (.fault .syntaxError, none) := by
    rw [readValue_scalar shown (by decide), unread]
  rintro ⟨after, read, -⟩
  rw [readItems, broken] at read
  cases (Prod.mk.inj read).2

theorem reads_array {tail : List Char} (shown : skipSpaces text = '[' :: tail)
    (inner : ∀ {text}, skipSpaces text = skipSpaces tail → ReadsItems text items rest) :
    Reads text (.array items) rest := by
  obtain ⟨opening, next, inside⟩ := exists_nextToken shown
  have reads := inner (congrArg skipSpaces inside)
  rw [Reads, readValue, next]
  simp only
  split
  · next closing last => exact absurd reads (not_readsItems_closing (dropWhile_of_nextBeyond last))
  · obtain ⟨after, read, left⟩ := reads
    rw [read]
    exact ⟨_, rfl, congrArg skipSpaces left⟩

theorem Reads.last_item {closing : List Char} (h : Reads text item closing)
    (shut : skipSpaces closing = ']' :: rest) : ReadsItems text [item] rest := by
  obtain ⟨after, read, left⟩ := h
  obtain ⟨behind, next, same⟩ := exists_nextToken (left.trans shut)
  rw [ReadsItems, readItems, read]
  simp only [next]
  exact ⟨_, rfl, same⟩

theorem Reads.next_item {tail : List Char} (h : Reads text item (',' :: tail))
    (inner : ∀ {text}, skipSpaces text = skipSpaces tail → ReadsItems text items rest) :
    ReadsItems text (item :: items) rest := by
  obtain ⟨after, read, left⟩ := h
  rw [skipSpaces_cons (by decide)] at left
  obtain ⟨comma, found, inside⟩ := exists_nextToken left
  obtain ⟨behind, others, same⟩ := inner (congrArg skipSpaces inside)
  rw [ReadsItems, readItems, read]
  simp only [found, others]
  exact ⟨_, rfl, same⟩

end Items

section Entries

variable {entries : List (Option String × Json)} {value : Json}

theorem reads_object_nil (shown : skipSpaces text = '\x7b' :: '\x7d' :: rest) :
    Reads text (.object []) rest := by
  obtain ⟨opening, next, inside⟩ := exists_nextToken shown
  have shut : skipSpaces opening.rest = '\x7d' :: rest := by
    rw [inside]
    exact skipSpaces_cons (by decide) rest
  obtain ⟨closing, last, behind⟩ := exists_nextToken shut
  rw [Reads, readValue, next]
  simp only
  rw [last]
  exact ⟨_, rfl, congrArg skipSpaces behind⟩

theorem reads_object {tail : List Char} (shown : skipSpaces text = '\x7b' :: tail)
    (inner : ∀ {text}, skipSpaces text = skipSpaces tail → ReadsEntries text entries rest) :
    Reads text (.object entries) rest := by
  obtain ⟨opening, next, inside⟩ := exists_nextToken shown
  obtain ⟨after, read, left⟩ := inner (congrArg skipSpaces inside)
  rw [Reads, readValue, next]
  simp only
  split
  -- The reader meets the closing brace of an object only behind an entry.
  · next closing last =>
    rw [readEntries, last] at read
    cases (Prod.mk.inj read).2
  · rw [read]
    exact ⟨_, rfl, congrArg skipSpaces left⟩

/-- The text of an entry with the key, and with what stands behind the colon. -/
def entryText (key : String) (tail : List Char) : List Char :=
  '"' :: (key.toList.flatMap escape ++ '"' :: ':' :: tail)

theorem exists_key {key : String} {tail : List Char}
    (shown : skipSpaces text = entryText key tail) :
    ∃ (opening : Remainder text) (units : List StringUnit) (quote : Remainder opening.rest)
      (colon : Remainder quote.rest), nextToken text = some ('"', opening) ∧
      readString opening.rest = some (units, quote) ∧
      (spell? units).map String.ofList = some key ∧
      nextToken quote.rest = some (':', colon) ∧ skipSpaces colon.rest = skipSpaces tail := by
  obtain ⟨opening, next, inside⟩ := exists_nextToken shown
  obtain ⟨units, quote, read, spells, left⟩ := readString_escape key.toList inside
  have behind : skipSpaces quote.rest = ':' :: tail := by
    rw [left]
    exact skipSpaces_cons (by decide) _
  obtain ⟨colon, found, within⟩ := exists_nextToken behind
  refine ⟨opening, units, quote, colon, next, read, ?_, found, congrArg skipSpaces within⟩
  rw [spells]
  exact congrArg some String.ofList_toList

theorem reads_last_entry {key : String} {tail closing : List Char}
    (shown : skipSpaces text = entryText key tail)
    (inner : ∀ {text}, skipSpaces text = skipSpaces tail → Reads text value closing)
    (shut : skipSpaces closing = '\x7d' :: rest) : ReadsEntries text [(some key, value)] rest := by
  obtain ⟨opening, units, quote, colon, next, string, spells, found, within⟩ := exists_key shown
  obtain ⟨after, read, left⟩ := inner within
  obtain ⟨behind, last, same⟩ := exists_nextToken (left.trans shut)
  rw [ReadsEntries, readEntries, next]
  simp only [string, spells, found, read, last]
  exact ⟨_, rfl, same⟩

theorem reads_next_entry {key : String} {tail more : List Char}
    (shown : skipSpaces text = entryText key tail)
    (inner : ∀ {text}, skipSpaces text = skipSpaces tail → Reads text value (',' :: more))
    (others : ∀ {text}, skipSpaces text = skipSpaces more → ReadsEntries text entries rest) :
    ReadsEntries text ((some key, value) :: entries) rest := by
  obtain ⟨opening, units, quote, colon, next, string, spells, found, within⟩ := exists_key shown
  obtain ⟨after, read, left⟩ := inner within
  rw [skipSpaces_cons (by decide)] at left
  obtain ⟨comma, another, inside⟩ := exists_nextToken left
  obtain ⟨behind, entries, same⟩ := others (congrArg skipSpaces inside)
  rw [ReadsEntries, readEntries, next]
  simp only [string, spells, found, read, another, entries]
  exact ⟨_, rfl, same⟩

end Entries

/-! ## Parts between brackets -/

/-- Behind the first of several parts stands a comma. -/
theorem intercalate_cons {separator rest : List Char} {parts : List (List Char)}
    (given : parts ≠ []) (part : List Char) :
    (',' :: separator).intercalate (part :: parts) ++ rest =
      part ++ ',' :: (separator ++ ((',' :: separator).intercalate parts ++ rest)) := by
  obtain ⟨next, parts, rfl⟩ := List.exists_cons_of_ne_nil given
  rw [List.intercalate_cons_cons]
  simp

/-- Whether the document is read back from the text, whatever stands behind it. -/
def Survives (written : String) (json : Json) : Prop :=
  ∀ {text rest : List Char}, Ends rest →
    skipSpaces text = skipSpaces (written.toList ++ rest) → Reads text json rest

/-- Whether the entry of an object is read back from the text. -/
def EntrySurvives (written : String) (entry : Option String × Json) : Prop :=
  ∃ key content, entry.1 = some key ∧ written = writeKey (some key) ++ ":" ++ content ∧
    Survives content entry.2

/-- A blank in front of a document does not matter. -/
theorem survives_space {written : String} {json : Json} (survives : Survives written json) :
    Survives (" " ++ written) json := by
  intro text rest ends shown
  refine survives ends (shown.trans ?_)
  rw [String.toList_append, List.append_assoc]
  exact skipSpaces_space rfl _

/-- The text of an entry begins with the key in its quotes. -/
theorem toList_entry (key content : String) (rest : List Char) :
    skipSpaces ((writeKey (some key) ++ ":" ++ content).toList ++ rest) =
      entryText key (content.toList ++ rest) := by
  have front : (writeKey (some key) ++ ":" ++ content).toList ++ rest =
      entryText key (content.toList ++ rest) := by
    simp [writeKey, writeString, entryText]
  rw [front, entryText]
  exact skipSpaces_cons (by decide) _

section Parts

variable {gap closing : List Char} {parts : List String}

/-- The items of an array are read back from what stands between its brackets. -/
theorem readsItems_of_survive {items : List Json} (blank : Blank gap) (blank' : Blank closing)
    (survive : List.Forall₂ Survives parts items) (given : parts ≠ []) {text rest : List Char}
    (shown : skipSpaces text = skipSpaces ((',' :: gap).intercalate (parts.map String.toList) ++
      (closing ++ ']' :: rest))) : ReadsItems text items rest := by
  induction survive generalizing text with
  | nil => exact absurd rfl given
  | @cons part item parts items survives others ih =>
    -- The last item ends at the closing bracket, every other one at a comma.
    by_cases last : parts = []
    · subst last
      cases others
      rw [List.map_singleton, List.intercalate_singleton] at shown
      refine (survives (.closing blank' (.inl rfl) rest) shown).last_item ?_
      rw [skipSpaces_blank blank', skipSpaces_cons (by decide)]
    · rw [List.map_cons, intercalate_cons (by simpa using last)] at shown
      refine (survives (.comma _) shown).next_item fun within => ih last ?_
      rw [within, skipSpaces_blank blank]

/-- The entries of an object are read back from what stands between its braces. -/
theorem readsEntries_of_survive {entries : List (Option String × Json)} (blank : Blank gap)
    (blank' : Blank closing) (survive : List.Forall₂ EntrySurvives parts entries)
    (given : parts ≠ []) {text rest : List Char}
    (shown : skipSpaces text = skipSpaces ((',' :: gap).intercalate (parts.map String.toList) ++
      (closing ++ '\x7d' :: rest))) : ReadsEntries text entries rest := by
  induction survive generalizing text with
  | nil => exact absurd rfl given
  | @cons part entry parts entries survives others ih =>
    obtain ⟨name, value⟩ := entry
    obtain ⟨key, content, rfl, rfl, survives⟩ := survives
    by_cases last : parts = []
    · subst last
      cases others
      rw [List.map_singleton, List.intercalate_singleton, toList_entry] at shown
      refine reads_last_entry shown (survives (.closing blank' (.inr rfl) rest)) ?_
      rw [skipSpaces_blank blank', skipSpaces_cons (by decide)]
    · rw [List.map_cons, intercalate_cons (by simpa using last), toList_entry] at shown
      refine reads_next_entry shown (survives (.comma _)) fun within => ih last ?_
      rw [within, skipSpaces_blank blank]

/-- An array is read back if its items are. -/
theorem survives_array {written : String} {items : List Json} (blank : Blank gap)
    (blank' : Blank closing) (survive : List.Forall₂ Survives parts items)
    (empty : parts = [] → written.toList = ['[', ']'])
    (spelt : parts ≠ [] → written.toList =
      '[' :: (gap ++ (',' :: gap).intercalate (parts.map String.toList) ++ closing ++ [']'])) :
    Survives written (.array items) := by
  intro text rest _ shown
  by_cases given : parts = []
  · rw [empty given] at shown
    subst given
    cases survive
    exact reads_array_nil shown
  · rw [spelt given, List.cons_append, skipSpaces_cons (by decide)] at shown
    refine reads_array shown fun within => ?_
    refine readsItems_of_survive blank blank' survive given (within.trans ?_)
    simp only [List.append_assoc, List.singleton_append, skipSpaces_blank blank]

/-- An object is read back if its entries are. -/
theorem survives_object {written : String} {entries : List (Option String × Json)}
    (blank : Blank gap) (blank' : Blank closing)
    (survive : List.Forall₂ EntrySurvives parts entries)
    (empty : parts = [] → written.toList = ['\x7b', '\x7d'])
    (spelt : parts ≠ [] → written.toList = '\x7b' ::
      (gap ++ (',' :: gap).intercalate (parts.map String.toList) ++ closing ++ ['\x7d'])) :
    Survives written (.object entries) := by
  intro text rest _ shown
  by_cases given : parts = []
  · rw [empty given] at shown
    subst given
    cases survive
    exact reads_object_nil shown
  · rw [spelt given, List.cons_append, skipSpaces_cons (by decide)] at shown
    refine reads_object shown fun within => ?_
    refine readsEntries_of_survive blank blank' survive given (within.trans ?_)
    simp only [List.append_assoc, List.singleton_append, skipSpaces_blank blank]

end Parts

/-! ## Over several lines -/

theorem toList_bracketed_nil (level : Nat) {opening closing : String} {first last : Char}
    (opens : opening.toList = [first]) (closes : closing.toList = [last]) :
    (bracketed level opening closing []).toList = [first, last] := by
  simp [bracketed, opens, closes]

theorem toList_bracketed {level : Nat} {opening closing : String} {parts : List String}
    {first last : Char} (opens : opening.toList = [first]) (closes : closing.toList = [last])
    (given : parts ≠ []) : (bracketed level opening closing parts).toList =
      first :: ((lineBreak (level + 1)).toList ++
        (',' :: (lineBreak (level + 1)).toList).intercalate (parts.map String.toList) ++
          (lineBreak level).toList ++ [last]) := by
  have given : parts.isEmpty = false := by simpa using given
  simp [bracketed, given, String.toList_intercalate, opens, closes]

mutual

/-- A legible document is read back from its text over several lines. -/
theorem survives_pretty (level : Nat) :
    ∀ json : Json, json.Legible → Survives (json.pretty level) json
  | .null, legible => reads_writeScalar legible ⟨nofun, nofun⟩
  | .bool b, legible => reads_writeScalar legible ⟨nofun, nofun⟩
  | .integer n, legible => reads_writeScalar legible ⟨nofun, nofun⟩
  | .real x, legible => reads_writeScalar legible ⟨nofun, nofun⟩
  | .string content, legible => reads_writeScalar legible ⟨nofun, nofun⟩
  | .array items, legible => by
    refine survives_array (blank_lineBreak (level + 1)) (blank_lineBreak level)
      (prettyItems_survive (level + 1) items legible) (fun none => ?_) fun given => ?_
    · rw [pretty, none]
      exact toList_bracketed_nil level rfl rfl
    · rw [pretty]
      exact toList_bracketed rfl rfl given
  | .object entries, legible => by
    refine survives_object (blank_lineBreak (level + 1)) (blank_lineBreak level)
      (prettyEntries_survive (level + 1) entries legible) (fun none => ?_) fun given => ?_
    · rw [pretty, none]
      exact toList_bracketed_nil level rfl rfl
    · rw [pretty]
      exact toList_bracketed rfl rfl given

theorem prettyItems_survive (level : Nat) : ∀ items : List Json, LegibleItems items →
    List.Forall₂ Survives (prettyItems level items) items
  | [], _ => .nil
  | item :: items, legible =>
    .cons (survives_pretty level item legible.1) (prettyItems_survive level items legible.2)

theorem prettyEntries_survive (level : Nat) :
    ∀ entries : List (Option String × Json), LegibleEntries entries →
      List.Forall₂ EntrySurvives (prettyEntries level entries) entries
  | [], _ => .nil
  | (key, value) :: entries, legible => by
    obtain ⟨name, rfl⟩ := Option.isSome_iff_exists.1 legible.1
    refine .cons ⟨name, " " ++ pretty level value, rfl, ?_,
      survives_space (survives_pretty level value legible.2.1)⟩
      (prettyEntries_survive level entries legible.2.2)
    have apart : ": " = ":" ++ " " := rfl
    rw [apart]
    simp only [String.append_assoc]

end

/-! ## On one line -/

theorem toList_compact {opening closing : String} {parts : List String} {first last : Char}
    (opens : opening.toList = [first]) (closes : closing.toList = [last]) :
    (opening ++ ",".intercalate parts ++ closing).toList =
      first :: ([] ++ [','].intercalate (parts.map String.toList) ++ [] ++ [last]) := by
  simp [String.toList_intercalate, opens, closes]

mutual

/-- A legible document is read back from its text on one line. -/
theorem survives_compact : ∀ json : Json, json.Legible → Survives json.compact json
  | .null, legible => reads_writeScalar legible ⟨nofun, nofun⟩
  | .bool b, legible => reads_writeScalar legible ⟨nofun, nofun⟩
  | .integer n, legible => reads_writeScalar legible ⟨nofun, nofun⟩
  | .real x, legible => reads_writeScalar legible ⟨nofun, nofun⟩
  | .string content, legible => reads_writeScalar legible ⟨nofun, nofun⟩
  | .array items, legible => by
    refine survives_array blank_nil blank_nil (compactItems_survive items legible)
      (fun none => ?_) fun _ => ?_
    · rw [compact, none]
      exact toList_compact rfl rfl
    · rw [compact]
      exact toList_compact rfl rfl
  | .object entries, legible => by
    refine survives_object blank_nil blank_nil (compactEntries_survive entries legible)
      (fun none => ?_) fun _ => ?_
    · rw [compact, none]
      exact toList_compact rfl rfl
    · rw [compact]
      exact toList_compact rfl rfl

theorem compactItems_survive : ∀ items : List Json, LegibleItems items →
    List.Forall₂ Survives (compactItems items) items
  | [], _ => .nil
  | item :: items, legible =>
    .cons (survives_compact item legible.1) (compactItems_survive items legible.2)

theorem compactEntries_survive : ∀ entries : List (Option String × Json),
    LegibleEntries entries → List.Forall₂ EntrySurvives (compactEntries entries) entries
  | [], _ => .nil
  | (key, value) :: entries, legible => by
    obtain ⟨name, rfl⟩ := Option.isSome_iff_exists.1 legible.1
    exact .cons ⟨name, compact value, rfl, rfl, survives_compact value legible.2.1⟩
      (compactEntries_survive entries legible.2.2)

end

end Json

namespace JsonText

variable {text : String} {json : Json}

theorem read_of_reads (reads : Json.Reads text.toList json []) : read text = ⟨json, true⟩ := by
  obtain ⟨after, value, left⟩ := reads
  have ended : Json.nextToken after.rest = none := nextBeyond_eq_none_iff.2 left
  rw [read, value]
  simp only [ended, Option.isNone_none]

/-- A text that is read as a scalar to its end holds the scalar. -/
theorem read_of_readScalar {after : Remainder text.toList}
    (scalar : Json.readScalar text.toList = some (json, after)) (left : after.rest = []) :
    read text = ⟨json, true⟩ :=
  read_of_reads <| Json.reads_scalar (Json.skipSpaces_of_readScalar scalar) scalar
    (by rw [left]; rfl) .nil (by rw [List.append_nil])

/-- A text that holds a document and nothing else is read as the document. -/
theorem read_of_survives (survives : Json.Survives text json) : read text = ⟨json, true⟩ :=
  read_of_reads (survives .nil (by rw [List.append_nil]))

/-- A legible document is read back from its text over several lines. -/
theorem read_pretty (legible : json.Legible) (level : Nat) :
    read (json.pretty level) = ⟨json, true⟩ :=
  read_of_survives (Json.survives_pretty level json legible)

/-- A legible document is read back from its text on one line. -/
theorem read_compact (legible : json.Legible) : read json.compact = ⟨json, true⟩ :=
  read_of_survives (Json.survives_compact json legible)

end JsonText

end Understudy
