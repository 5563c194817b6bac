import Mathlib.Data.List.TakeWhile
import Understudy.Json.Reader
import Understudy.Json.Writer

/-!
# Scalars survive their texts

A string, an integer or a word is read back from its text, whatever stands behind it; only a
numeral has to be kept apart from what would continue it. Numbers with a fraction are another
matter: the reader rounds on its way, so not all of them are read back.

* `Json.readScalar_append`: what is behind a scalar leaves it as it is.
* `Json.readScalar_integer`, `Json.readString_escape`: integers and strings are read back.
-/

namespace Understudy

namespace Json

variable {text rest : List Char}

/-- Whether a numeral may end before this. -/
def Ends (rest : List Char) : Prop :=
  ∀ c ∈ rest.head?, c.isDigit = false ∧ c ≠ '.' ∧ c ≠ 'e' ∧ c ≠ 'E'

theorem Ends.nil : Ends [] := nofun

theorem Ends.comma (rest : List Char) : Ends (',' :: rest) := by
  rintro c ⟨⟩
  decide

/-! ## What is behind a scalar -/

/-- Whether what is read of a text is the same with the rest behind it, and leaves the rest. -/
def Persists {α : Type} (rest : List Char) (read : Option (α × Remainder text))
    (read' : Option (α × Remainder (text ++ rest))) : Prop :=
  ∀ a after, read = some (a, after) →
    ∃ after', read' = some (a, after') ∧ after'.rest = after.rest ++ rest

/-- It still is when something is made of what is read. -/
theorem Persists.map {α β : Type} {outer : List Char} {read : Option (α × Remainder text)}
    {read' : Option (α × Remainder (text ++ rest))} (persists : Persists rest read read')
    {make : α × Remainder text → β × Remainder outer}
    {make' : α × Remainder (text ++ rest) → β × Remainder (outer ++ rest)}
    (alike : ∀ a after after', after'.rest = after.rest ++ rest →
      (make (a, after)).1 = (make' (a, after')).1 ∧
        (make' (a, after')).2.rest = (make (a, after)).2.rest ++ rest) :
    Persists rest (read.map make) (read'.map make') := by
  intro b behind made
  obtain ⟨⟨a, after⟩, found, same⟩ := Option.map_eq_some_iff.1 made
  obtain ⟨after', found', left⟩ := persists a after found
  obtain ⟨value, left⟩ := alike a after after' left
  rw [same] at value left
  exact ⟨_, Option.map_eq_some_iff.2 ⟨(a, after'), found', Prod.ext value.symm rfl⟩, left⟩

theorem afterWord_append {word : List Char} {after : Remainder text}
    (read : afterWord word text = some after) (rest : List Char) :
    ∃ after', afterWord word (text ++ rest) = some after' ∧
      after'.rest = after.rest ++ rest := by
  induction word generalizing text with
  | nil => cases read
  | cons w word ih =>
    cases text with
    | nil => cases word <;> cases read
    | cons c text =>
      by_cases same : w = c
      -- The last letter of a word leaves what is behind it, any other one the rest of the word.
      · cases word with
        | nil =>
          simp only [List.cons_append, afterWord, if_pos same] at read ⊢
          cases read
          exact ⟨_, rfl, rfl⟩
        | cons w' word =>
          rw [afterWord, if_pos same] at read
          · obtain ⟨behind, word, rfl⟩ := Option.map_eq_some_iff.1 read
            obtain ⟨behind', word', left⟩ := ih word
            rw [List.cons_append, afterWord, if_pos same]
            · exact ⟨_, Option.map_eq_some_iff.2 ⟨behind', word', rfl⟩, left⟩
            · nofun
          · nofun
      · cases word <;> simp [afterWord, same] at read

theorem takeWhile_append {p : Char → Bool} (ends : ∀ c ∈ rest.head?, p c = false)
    (text : List Char) :
    (text ++ rest).takeWhile p = text.takeWhile p ∧
      (text ++ rest).dropWhile p = text.dropWhile p ++ rest := by
  induction text with
  | nil =>
    cases rest with
    | nil => exact ⟨rfl, rfl⟩
    | cons c rest => simp [ends c rfl]
  | cons c text ih => cases here : p c <;> simp [here, ih]

/-- An exponent without a sign is a row of digits. -/
theorem readExponent_cons {c : Char} (unsigned : ¬ (c = '-' ∨ c = '+')) (tail : List Char) :
    readExponent (c :: tail) =
      (readDigits (c :: tail)).map fun (digits, after) => ((ofDigits digits : Int), after) := by
  rw [readExponent, nextChar]
  split
  · next same =>
    cases same
    exact absurd (.inl rfl) unsigned
  · next same =>
    cases same
    exact absurd (.inr rfl) unsigned
  · rfl

/-- What does not begin as a word does and has no sign can only be a numeral. -/
theorem readScalar_cons {c : Char} (other : ¬ (c = 'n' ∨ c = 't' ∨ c = 'f' ∨ c = '-'))
    (tail : List Char) :
    readScalar (c :: tail) =
      (readUnsigned false (c :: tail)).map fun (numeral, after) => (numeral.toJson, after) := by
  rw [readScalar, nextChar]
  split
  · next same =>
    cases same
    exact absurd (.inl rfl) other
  · next same =>
    cases same
    exact absurd (.inr (.inl rfl)) other
  · next same =>
    cases same
    exact absurd (.inr (.inr (.inl rfl))) other
  · next same =>
    cases same
    exact absurd (.inr (.inr (.inr rfl))) other
  · rfl

theorem readFraction_none {after : Remainder text} (other : after.rest.head? ≠ some '.') :
    readFraction after = some (none, after) := by
  rcases after with ⟨_ | ⟨d, tail⟩, suffix, shorter⟩
  · rfl
  · rw [readFraction, nextChar]
    split
    · next same =>
      cases same
      exact absurd rfl other
    · rfl

theorem readPower_none {after : Remainder text}
    (other : ¬ ∃ c, after.rest.head? = some c ∧ (c = 'e' ∨ c = 'E')) :
    readPower after = some (none, after) := by
  rcases after with ⟨_ | ⟨d, tail⟩, suffix, shorter⟩
  · rfl
  · exact if_neg fun mark => other ⟨d, rfl, mark⟩

section Numeral

variable (ends : Ends rest)

include ends

theorem readDigits_append : Persists rest (readDigits text) (readDigits (text ++ rest)) := by
  intro digits after read
  cases text with
  | nil => cases read
  | cons c text =>
    rw [readDigits, Option.ite_none_right_eq_some] at read
    obtain ⟨digit, read⟩ := read
    cases read
    obtain ⟨taken, left⟩ := takeWhile_append (fun d first => (ends d first).1) text
    rw [List.cons_append, readDigits, if_pos digit, taken]
    exact ⟨_, rfl, left⟩

theorem readExponent_append : Persists rest (readExponent text) (readExponent (text ++ rest)) := by
  cases text with
  | nil => nofun
  | cons c text =>
    by_cases sign : c = '-' ∨ c = '+'
    · rcases sign with rfl | rfl
      all_goals exact (readDigits_append ends).map fun _ _ _ left => ⟨rfl, left⟩
    · change Persists rest (readExponent (c :: text)) (readExponent (c :: (text ++ rest)))
      rw [readExponent_cons sign, readExponent_cons sign]
      exact (readDigits_append ends).map fun _ _ _ left => ⟨rfl, left⟩

theorem readFraction_append {after : Remainder text} {after' : Remainder (text ++ rest)}
    (left : after'.rest = after.rest ++ rest) :
    Persists rest (readFraction after) (readFraction after') := by
  rcases after with ⟨tail, suffix, shorter⟩
  rcases after' with ⟨tail', suffix', shorter'⟩
  obtain rfl : tail' = tail ++ rest := left
  by_cases point : tail.head? = some '.'
  · obtain ⟨tail, rfl⟩ := List.head?_eq_some_iff.1 point
    exact (readDigits_append ends).map fun _ _ _ left => ⟨rfl, left⟩
  · have still : (tail ++ rest).head? ≠ some '.' := by
      rw [List.head?_append, Ne, Option.or_eq_some_iff]
      rintro (here | ⟨-, there⟩)
      · exact point here
      · exact (ends '.' there).2.1 rfl
    intro fraction behind read
    rw [readFraction_none point] at read
    cases read
    exact ⟨_, readFraction_none still, rfl⟩

theorem readPower_append {after : Remainder text} {after' : Remainder (text ++ rest)}
    (left : after'.rest = after.rest ++ rest) :
    Persists rest (readPower after) (readPower after') := by
  rcases after with ⟨tail, suffix, shorter⟩
  rcases after' with ⟨tail', suffix', shorter'⟩
  obtain rfl : tail' = tail ++ rest := left
  by_cases mark : ∃ c, tail.head? = some c ∧ (c = 'e' ∨ c = 'E')
  · obtain ⟨c, first, mark⟩ := mark
    obtain ⟨tail, rfl⟩ := List.head?_eq_some_iff.1 first
    simp only [readPower, nextChar, if_pos mark, List.cons_append]
    exact (readExponent_append ends).map fun _ _ _ left => ⟨rfl, left⟩
  · have still : ¬ ∃ c, (tail ++ rest).head? = some c ∧ (c = 'e' ∨ c = 'E') := by
      rintro ⟨c, first, isMark⟩
      rw [List.head?_append, Option.or_eq_some_iff] at first
      rcases first with here | ⟨-, there⟩
      · exact mark ⟨c, here, isMark⟩
      · exact isMark.elim (ends c there).2.2.1 (ends c there).2.2.2
    intro power behind read
    rw [readPower_none mark] at read
    cases read
    exact ⟨_, readPower_none still, rfl⟩

theorem readUnsigned_append (negative : Bool) :
    Persists rest (readUnsigned negative text) (readUnsigned negative (text ++ rest)) := by
  intro numeral after read
  obtain ⟨⟨whole, behind⟩, digits, read⟩ := Option.bind_eq_some_iff.1 read
  obtain ⟨behind', digits', left⟩ := readDigits_append ends _ _ digits
  rw [Option.ite_none_left_eq_some] at read
  obtain ⟨lead, read⟩ := read
  obtain ⟨⟨fraction, between⟩, point, read⟩ := Option.bind_eq_some_iff.1 read
  obtain ⟨between', point', left⟩ := readFraction_append ends left _ _ point
  obtain ⟨⟨exponent, last⟩, power, same⟩ := Option.map_eq_some_iff.1 read
  cases same
  obtain ⟨last', power', left⟩ := readPower_append ends left _ _ power
  refine ⟨last', ?_, left⟩
  simp only [readUnsigned, digits', Option.bind_some, if_neg lead, point', power', Option.map_some]

/-- What is behind a scalar leaves it as it is. -/
theorem readScalar_append : Persists rest (readScalar text) (readScalar (text ++ rest)) := by
  cases text with
  | nil => nofun
  | cons c text =>
    have word : ∀ {word : List Char} {json : Json}, Persists rest
        ((afterWord word text).map fun behind => (json, (Remainder.tail c text).trans behind))
        ((afterWord word (text ++ rest)).map fun behind =>
          (json, (Remainder.tail c (text ++ rest)).trans behind)) := by
      intro word json value after read
      obtain ⟨behind, found, same⟩ := Option.map_eq_some_iff.1 read
      cases same
      obtain ⟨behind', found', left⟩ := afterWord_append found rest
      exact ⟨_, Option.map_eq_some_iff.2 ⟨behind', found', rfl⟩, left⟩
    by_cases marked : c = 'n' ∨ c = 't' ∨ c = 'f' ∨ c = '-'
    · rcases marked with rfl | rfl | rfl | rfl
      · exact word
      · exact word
      · exact word
      · exact (readUnsigned_append ends true).map fun _ _ _ left => ⟨rfl, left⟩
    · change Persists rest (readScalar (c :: text)) (readScalar (c :: (text ++ rest)))
      rw [readScalar_cons marked, readScalar_cons marked]
      exact (readUnsigned_append ends false).map fun _ _ _ left => ⟨rfl, left⟩

end Numeral

/-! ## Integers -/

theorem readDigits_all {digits : List Char} (given : digits ≠ [])
    (all : ∀ c ∈ digits, c.isDigit = true) :
    ∃ after, readDigits digits = some (digits, after) ∧ after.rest = [] := by
  obtain ⟨c, digits, rfl⟩ := List.exists_cons_of_ne_nil given
  obtain ⟨first, others⟩ := List.forall_mem_cons.1 all
  rw [readDigits, if_pos first, List.takeWhile_eq_self_iff.2 others]
  exact ⟨_, rfl, List.dropWhile_eq_nil_iff.2 others⟩

/-- A row of digits without a needless zero at its head is read as a whole. -/
theorem readUnsigned_digits (negative : Bool) {digits : List Char} (given : digits ≠ [])
    (all : ∀ c ∈ digits, c.isDigit = true) (lead : digits.head? = some '0' → digits.length = 1) :
    ∃ after, readUnsigned negative digits = some (⟨negative, digits, none, none⟩, after) ∧
      after.rest = [] := by
  obtain ⟨after, read, left⟩ := readDigits_all given all
  have kept : ¬ (digits.head? = some '0' ∧ digits.length ≠ 1) :=
    fun ⟨zero, long⟩ => long (lead zero)
  have behind : after.rest.head? = none := by rw [left]; rfl
  have point : readFraction after = some (none, after) :=
    readFraction_none (by rw [behind]; nofun)
  have power : readPower after = some (none, after) :=
    readPower_none (by rw [behind]; nofun)
  simp only [readUnsigned, read, Option.bind_some, if_neg kept, point, power, Option.map_some]
  exact ⟨after, rfl, left⟩

/-- No zero stands at the head of a number but zero itself. -/
theorem head?_toDigits (n : Nat) (positive : 0 < n) : (Nat.toDigits 10 n).head? ≠ some '0' := by
  rcases Nat.lt_or_ge n 10 with small | large
  · rw [Nat.toDigits_of_lt_base small]
    have nonzero : ∀ d < 10, 0 < d → [Nat.digitChar d].head? ≠ some '0' := by decide
    exact nonzero n small positive
  · obtain ⟨c, digits, shape⟩ := List.exists_cons_of_ne_nil
      (Nat.toDigits_ne_nil : Nat.toDigits 10 (n / 10) ≠ [])
    have first := head?_toDigits (n / 10) (by omega)
    rw [Nat.toDigits_of_base_le (by decide) large]
    rw [shape] at first ⊢
    exact first

theorem readScalar_digits {digits : List Char} (given : digits ≠ [])
    (all : ∀ c ∈ digits, c.isDigit = true) :
    readScalar digits =
      (readUnsigned false digits).map fun (numeral, after) => (numeral.toJson, after) := by
  obtain ⟨c, digits, rfl⟩ := List.exists_cons_of_ne_nil given
  have digit := all c List.mem_cons_self
  have other : ¬ (c = 'n' ∨ c = 't' ∨ c = 'f' ∨ c = '-') := by
    rintro (rfl | rfl | rfl | rfl) <;> cases digit
  exact readScalar_cons other digits

theorem readUnsigned_toDigits (negative : Bool) (n : Nat) :
    ∃ after, readUnsigned negative (Nat.toDigits 10 n) =
      some (⟨negative, Nat.toDigits 10 n, none, none⟩, after) ∧ after.rest = [] := by
  refine readUnsigned_digits negative Nat.toDigits_ne_nil
    (fun c mem => Nat.isDigit_of_mem_toDigits (by decide) (by decide) mem) fun zero => ?_
  rcases Nat.eq_zero_or_pos n with rfl | positive
  · rfl
  · exact absurd zero (head?_toDigits n positive)

theorem ofDigits_toDigits (n : Nat) : ofDigits (Nat.toDigits 10 n) = n :=
  Nat.ofDigitChars_toDigits (by decide) (by decide)

/-- An integer of 64 bits is read back from its text. -/
theorem readScalar_integer {n : Int} (least : -(pow2 63 : Int) ≤ n) (greatest : n < pow2 64) :
    ∃ after, readScalar (toString n).toList = some (.integer n, after) ∧ after.rest = [] := by
  cases n with
  | ofNat k =>
    have fits : k < pow2 64 := Int.ofNat_lt.1 greatest
    have json : Numeral.toJson ⟨false, Nat.toDigits 10 k, none, none⟩ = .integer k := by
      simp only [Numeral.toJson, ofDigits_toDigits, Option.isSome_none, Bool.or_self,
        Bool.false_eq_true, if_false, if_pos fits]
    obtain ⟨after, read, left⟩ := readUnsigned_toDigits false k
    have whole : readScalar (Nat.toDigits 10 k) = some (.integer k, after) := by
      rw [readScalar_digits Nat.toDigits_ne_nil fun c mem =>
        Nat.isDigit_of_mem_toDigits (by decide) (by decide) mem, read, ← json]
      rfl
    rw [Int.toString_eq_repr, Int.repr, Nat.toList_repr]
    exact ⟨after, whole, left⟩
  | negSucc k =>
    -- The sign stands before the digits of the absolute value, which is at most two to the 63.
    have fits : ¬ (k + 1 = 0 ∨ pow2 63 < k + 1) := by omega
    have json : Numeral.toJson ⟨true, Nat.toDigits 10 (k + 1), none, none⟩ =
        .integer (.negSucc k) := by
      simp only [Numeral.toJson, ofDigits_toDigits, Option.isSome_none, Bool.or_self,
        Bool.false_eq_true, if_false, if_true, if_neg fits]
      rfl
    obtain ⟨after, read, left⟩ := readUnsigned_toDigits true (k + 1)
    rw [Int.toString_eq_repr, Int.repr, String.toList_append, Nat.toList_repr, ← json]
    exact ⟨_, Option.map_eq_some_iff.2 ⟨(_, after), read, rfl⟩, left⟩

/-! ## Strings -/

theorem hexDigit?_digitChar : ∀ n < 16, hexDigit? (Nat.digitChar n) = some n := by decide

/-- The characters that are written as letters behind backslashes, each with its letter. -/
def letters : List (Char × Char) :=
  [('"', '"'), ('\\', '\\'), ('\x08', 'b'), ('\x0c', 'f'), ('\n', 'n'), ('\r', 'r'), ('\t', 't')]

theorem escape_of_mem_letters : ∀ pair ∈ letters,
    escape pair.1 = ['\\', pair.2] ∧ pair.2 ≠ 'u' ∧ escaped? pair.2 = some pair.1 := by
  decide

/-- A character is written as a letter behind a backslash, by its number, or as it is. -/
theorem escape_cases (c : Char) :
    (∃ letter, escape c = ['\\', letter] ∧ letter ≠ 'u' ∧ escaped? letter = some c) ∨
      (∃ high low, escape c = ['\\', 'u', '0', '0', high, low] ∧
        hexDigit? high = some (c.toNat / 16) ∧ hexDigit? low = some (c.toNat % 16) ∧
        c.toNat < 0x20) ∨
      (escape c = [c] ∧ c ≠ '"' ∧ c ≠ '\\' ∧ 0x20 ≤ c.toNat) := by
  by_cases isNamed : c ∈ letters.map Prod.fst
  · obtain ⟨⟨_, letter⟩, mem, rfl⟩ := List.mem_map.1 isNamed
    exact .inl ⟨letter, escape_of_mem_letters _ mem⟩
  · simp only [letters, List.map_cons, List.map_nil, List.mem_cons, List.not_mem_nil, or_false,
      not_or] at isNamed
    obtain ⟨quote, backslash, b, f, n, r, t⟩ := isNamed
    right
    simp only [escape, if_neg quote, if_neg backslash, if_neg b, if_neg f, if_neg n, if_neg r,
      if_neg t]
    -- Below 16 a number has one hexadecimal digit, and a zero is written before it.
    by_cases small : c.toNat < 0x10
    · left
      rw [if_pos small, Nat.toDigits_of_lt_base small, Nat.div_eq_of_lt small,
        Nat.mod_eq_of_lt small]
      exact ⟨'0', _, rfl, rfl, hexDigit?_digitChar _ small, by omega⟩
    · rw [if_neg small]
      by_cases control : c.toNat < 0x20
      · left
        have high : c.toNat / 16 < 16 := by omega
        rw [if_pos control, Nat.toDigits_of_base_le (by decide) (Nat.le_of_not_lt small),
          Nat.toDigits_of_lt_base high]
        exact ⟨_, _, rfl, hexDigit?_digitChar _ high,
          hexDigit?_digitChar _ (Nat.mod_lt _ (by decide)), control⟩
      · right
        rw [if_neg control]
        exact ⟨rfl, quote, backslash, Nat.le_of_not_lt control⟩

/-- A unit that is no half of a pair is a character. -/
theorem spell?_unit {n : Nat} (single : n < 0xd800) (units : List StringUnit) :
    spell? (.unit n :: units) = (spell? units).map (Char.ofNat n :: ·) := by
  have high : ¬ (0xd800 ≤ n ∧ n < 0xdc00) := by omega
  have low : ¬ (0xdc00 ≤ n ∧ n < 0xe000) := by omega
  have half : ¬ (0xd800 ≤ n ∧ n < 0xe000) := by omega
  rcases units with _ | ⟨_ | m, units⟩
  · exact if_neg half
  · exact if_neg half
  · rw [spell?, if_neg high, if_neg low]

section Step

variable {units : List StringUnit} {after : Remainder text}
  (read : readString text = some (units, after))

include read

theorem readString_letter {letter c : Char} (plain : letter ≠ 'u')
    (stands : escaped? letter = some c) :
    ∃ after', readString ('\\' :: letter :: text) = some (.char c :: units, after') ∧
      after'.rest = after.rest := by
  rw [readString, stands, read]
  · exact ⟨_, rfl, rfl⟩
  · exact fun _ _ _ _ _ same => absurd same plain

theorem readString_number {high low : Char} {n : Nat} (hexHigh : hexDigit? high = some (n / 16))
    (hexLow : hexDigit? low = some (n % 16)) :
    ∃ after', readString ('\\' :: 'u' :: '0' :: '0' :: high :: low :: text) =
      some (.unit n :: units, after') ∧ after'.rest = after.rest := by
  have number : ((0 * 16 + 0) * 16 + n / 16) * 16 + n % 16 = n := by omega
  have zero : hexDigit? '0' = some 0 := rfl
  rw [readString, zero, hexHigh, hexLow, read]
  refine ⟨after.within ⟨['\\', 'u', '0', '0', high, low], rfl⟩, ?_, rfl⟩
  simp only [bind, Option.bind_some, number]

theorem readString_char {c : Char} (quote : c ≠ '"') (backslash : c ≠ '\\')
    (visible : 0x20 ≤ c.toNat) :
    ∃ after', readString (c :: text) = some (.char c :: units, after') ∧
      after'.rest = after.rest := by
  have plain : ¬ (c.toNat < 0x20 ∨ c = '\\') := by
    rintro (small | same)
    · exact absurd small (Nat.not_lt.2 visible)
    · exact backslash same
  rw [readString, if_neg plain, read]
  · exact ⟨_, rfl, rfl⟩
  · exact quote
  · exact fun _ _ _ _ _ same => absurd same backslash
  · exact fun _ _ same => absurd same backslash

end Step

theorem readString_escape (chars : List Char) {text rest : List Char}
    (shown : text = chars.flatMap escape ++ '"' :: rest) :
    ∃ units after, readString text = some (units, after) ∧ spell? units = some chars ∧
      after.rest = rest := by
  induction chars generalizing text with
  | nil =>
    subst shown
    exact ⟨[], _, rfl, rfl, rfl⟩
  | cons c chars ih =>
    subst shown
    obtain ⟨units, after, read, spells, left⟩ := ih rfl
    rw [List.flatMap_cons, List.append_assoc]
    rcases escape_cases c with ⟨letter, written, plain, stands⟩ |
      ⟨high, low, written, hexHigh, hexLow, small⟩ | ⟨written, quote, backslash, visible⟩
    · obtain ⟨after', read', same⟩ := readString_letter read plain stands
      rw [written]
      exact ⟨_, after', read', by rw [spell?, spells]; rfl, same.trans left⟩
    · obtain ⟨after', read', same⟩ := readString_number read hexHigh hexLow
      rw [written]
      refine ⟨_, after', read', ?_, same.trans left⟩
      rw [spell?_unit (by omega), spells, Char.ofNat_toNat]
      rfl
    · obtain ⟨after', read', same⟩ := readString_char read quote backslash visible
      rw [written]
      exact ⟨_, after', read', by rw [spell?, spells]; rfl, same.trans left⟩

end Json

end Understudy
