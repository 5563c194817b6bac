import Understudy.Proofs.Ty.Extension
import Understudy.Proofs.Ty.Image
import Understudy.Proofs.Ty.Reread

/-!
# Spellings

An annotation that is put together of annotations declares the type that is put together of their
types, wherever blanks stand between its parts. An annotation may stand among arguments if it does
not begin with a dot, and in any case in quotes.

* `Annotation.readWhole_generic`: a name with arguments declares what the name makes of the types
  that the arguments declare.
* `Annotation.readWhole_bar`: annotations with a bar between them declare the union.
* `Ty.spellings_agree`: the spellings of lists, sets, maps, tuples, unions and optional types.
-/

namespace Understudy

namespace Annotation

variable {input longer text a b more gap : List Char} {ty A B : Ty}

/-! ## Blanks around parts -/

/-- The pieces one after the other, with blanks before, between and behind them. -/
inductive Spaced : List (List Char) → List Char → Prop
  | nil {gap : List Char} : Blank gap → Spaced [] gap
  | cons {gap piece text : List Char} {pieces : List (List Char)} : Blank gap →
      Spaced pieces text → Spaced (piece :: pieces) (gap ++ (piece ++ text))

theorem not_isNameChar_of_isBlank {c : Char} (h : isBlank c = true) : isNameChar c = false :=
  Bool.eq_false_iff.2 fun name => by
    rw [not_isBlank_of_isNameChar name] at h
    cases h

theorem Blank.ends (blank : Blank gap) : Ends gap := by
  refine ⟨⟨fun c mem => ?_, ?_⟩, ?_⟩
  · exact not_isNameChar_of_isBlank (blank c (List.mem_of_mem_head? mem))
  · simp [blank.skipBlanks_eq_nil]
  · simp [blank.skipBlanks_eq_nil]

namespace Spaced

variable {piece : List Char} {pieces : List (List Char)} {c : Char}

/-- Nothing has to stand before a piece. -/
theorem tight (spaced : Spaced pieces text) : Spaced (piece :: pieces) (piece ++ text) :=
  @cons [] piece text pieces nofun spaced

/-- One more blank may stand before the pieces. -/
theorem space (spaced : Spaced pieces text) : Spaced pieces (' ' :: text) := by
  have blank {gap : List Char} (h : Blank gap) : Blank (' ' :: gap) :=
    List.forall_mem_cons.2 ⟨by decide, h⟩
  cases spaced with
  | nil h => exact .nil (blank h)
  | cons h behind => exact .cons (blank h) behind

theorem blank (spaced : Spaced [] text) : Blank text := by
  cases spaced
  assumption

/-- A text begins with its first piece, and the other pieces are behind that. -/
theorem exists_extends (spaced : Spaced (piece :: pieces) text) :
    ∃ more, Extends piece text more ∧ Spaced pieces more := by
  rcases spaced with _ | ⟨blank, behind⟩
  exact ⟨_, .of_blank blank _ _, behind⟩

/-- The first piece is found if it is a visible character. -/
theorem exists_next (spaced : Spaced ([c] :: pieces) text) (visible : isBlank c = false) :
    ∃ rest, skipBlanks text = c :: rest ∧ Spaced pieces rest := by
  obtain ⟨rest, extends', behind⟩ := spaced.exists_extends
  exact ⟨rest, extends' c [] (skipBlanks_cons visible []), behind⟩

/-- Names end before blanks and other characters. -/
theorem apart (spaced : Spaced ([c] :: pieces) text) (other : isNameChar c = false) :
    ∀ d ∈ text.head?, isNameChar d = false := by
  rcases spaced with _ | @⟨gap, _, _, _, blank, _⟩
  rintro d mem
  cases gap with
  | nil =>
    obtain rfl := Option.some.inj mem
    exact other
  | cons e gap =>
    obtain rfl := Option.some.inj mem
    exact not_isNameChar_of_isBlank (blank e List.mem_cons_self)

theorem pauses (spaced : Spaced (['|'] :: pieces) text) : Pauses text := by
  obtain ⟨rest, shown, -⟩ := spaced.exists_next (by decide)
  exact ⟨spaced.apart (by decide), by simp [shown]⟩

theorem ends (spaced : Spaced ([c] :: pieces) text) (closes : c = ',' ∨ c = ']') : Ends text := by
  obtain ⟨rest, shown, -⟩ := spaced.exists_next (by rcases closes with rfl | rfl <;> decide)
  refine ⟨⟨spaced.apart ?_, ?_⟩, ?_⟩
  · rcases closes with rfl | rfl <;> decide
  · rcases closes with rfl | rfl <;> simp [shown]
  · rcases closes with rfl | rfl <;> simp [shown]

end Spaced

/-! ## Whole texts -/

theorem readWhole_eq_ok_iff : readWhole text = .ok ty ↔
    ∃ types after, readAlternatives text text = .ok (types, after) ∧ Blank after.rest ∧
      Ty.unionOf types = ty := by
  rw [readWhole]
  rcases read : readAlternatives text text with e | ⟨types, after⟩
  · simp
  · simp only [Except.ok.injEq, Prod.mk.injEq]
    constructor
    · intro made
      split at made
      · next done =>
        cases made
        exact ⟨types, after, ⟨rfl, rfl⟩, .of_skipBlanks done, rfl⟩
      · cases made
    · rintro ⟨_, _, ⟨rfl, rfl⟩, blank, made⟩
      simp only [blank.skipBlanks_eq_nil, made]

/-- Blanks before and behind a text do not matter. -/
theorem readWhole_spaced (read : readWhole a = .ok A) (spaced : Spaced [a] text) :
    readWhole text = .ok A := by
  obtain ⟨rest, extends', behind⟩ := spaced.exists_extends
  obtain ⟨types, after, read, done, made⟩ := readWhole_eq_ok_iff.1 read
  obtain ⟨after', read', stop⟩ :=
    readAlternatives_extends read text extends' fun _ => behind.blank.ends
  refine readWhole_eq_ok_iff.2 ⟨types, after', read', ?_, made⟩
  rw [stop]
  exact List.forall_mem_append.2 ⟨done, behind.blank⟩

/-- A text that is one alternative declares what that is read as. -/
theorem readWhole_of_alternative {after : Remainder text}
    (read : readAlternative text text = .ok (ty, after)) (blank : Blank after.rest) :
    readWhole text = .ok ty := by
  have made : ty.WellMade := by
    have reads := reads_alternative text text
    rwa [read] at reads
  refine readWhole_eq_ok_iff.2 ⟨[ty], after, ?_, blank, made.unionOf_singleton⟩
  rw [readAlternatives, read]
  simp only
  split
  · next found =>
    have bar := head?_skipBlanks found
    rw [blank.skipBlanks_eq_nil] at bar
    cases bar
  · rfl

/-! ## Texts in the place of arguments -/

/-- Whether the text declares the type on its own and as an argument: there a dot at the beginning
    is an ellipsis. -/
structure Stands (text : List Char) (ty : Ty) : Prop where
  reads : readWhole text = .ok ty
  undotted : (skipBlanks text).head? ≠ some '.'

/-- In quotes every annotation stands for its type. -/
theorem Stands.quoted {quote : Char} (read : readWhole a = .ok A)
    (quotes : quote = '"' ∨ quote = '\'') (free : quote ∉ a) :
    Stands (quote :: (a ++ [quote])) A := by
  have shown : skipBlanks (quote :: (a ++ [quote])) = quote :: (a ++ [quote]) :=
    skipBlanks_cons (by rcases quotes with rfl | rfl <;> decide) _
  obtain ⟨after, read', stop⟩ := readAlternative_quoted _ shown quotes free read
  refine ⟨readWhole_of_alternative read' (by simp [Blank, stop]), ?_⟩
  rw [shown]
  rcases quotes with rfl | rfl <;> simp

/-- A text that stands for a type is read as an argument up to its end. -/
theorem Stands.argument (stands : Stands a A) (extends' : Extends a input more)
    (ends : Ends more) (text : List Char) : ∃ after : Remainder input,
      readArgument text input = .ok (.type A, after) ∧
        skipBlanks after.rest = skipBlanks more := by
  obtain ⟨types, after, read, done, made⟩ := readWhole_eq_ok_iff.1 stands.reads
  obtain ⟨after', read', stop⟩ := readAlternatives_extends read text extends' fun _ => ends
  obtain ⟨c, next, found⟩ := exists_next_of_readAlternatives read
  obtain ⟨next', found', -⟩ := extends'.nextVisible found
  have first := first_of_readAlternatives read found
  refine ⟨after', ?_, ?_⟩
  · rw [readArgument, found']
    split
    · next same =>
      cases same
      exact absurd first (by decide)
    · next same =>
      cases same
      exact absurd (head?_skipBlanks found) stands.undotted
    · rw [read', ← made]
  · rw [stop, done.skipBlanks_append]

/-- Texts that stand for types, with commas between them and the bracket behind them, are read as
    arguments. -/
theorem readArgumentList_spaced {texts : List (List Char)} {types : List Ty}
    (stand : List.Forall₂ Stands texts types) (some : texts ≠ [])
    (spaced : Spaced (texts.intersperse [','] ++ [[']']]) input) (text : List Char) :
    ∃ after : Remainder input, readArgumentList text input = .ok (types.map .type, after) ∧
      Blank after.rest := by
  induction stand generalizing input with
  | nil => exact absurd rfl some
  | @cons a A texts types here behind ih =>
    cases behind with
    | nil =>
      -- Behind the last argument the bracket is all that is left.
      obtain ⟨more, extends', closes⟩ := spaced.exists_extends
      obtain ⟨first, read, stop⟩ := here.argument extends' (closes.ends (.inr rfl)) text
      obtain ⟨rest, shown, done⟩ := closes.exists_next (by decide)
      obtain ⟨closing, found, rfl⟩ := nextVisible_of_skipBlanks (stop.trans shown)
      refine ⟨first.trans closing, ?_, done.blank⟩
      rw [readArgumentList, read]
      simp only [found]
      rfl
    | @cons b B texts types there behind =>
      rw [List.intersperse_cons_cons, List.cons_append, List.cons_append] at spaced
      obtain ⟨more, extends', commas⟩ := spaced.exists_extends
      obtain ⟨first, read, stop⟩ := here.argument extends' (commas.ends (.inl rfl)) text
      obtain ⟨rest, shown, onwards⟩ := commas.exists_next (by decide)
      obtain ⟨comma, found, rfl⟩ := nextVisible_of_skipBlanks (stop.trans shown)
      obtain ⟨after, others, done⟩ := ih (List.cons_ne_nil _ _) onwards
      refine ⟨first.trans (comma.trans after), ?_, done⟩
      rw [readArgumentList, read]
      simp only [found, others]
      rfl

/-- A name with texts that stand for types in brackets declares what the name makes of them. -/
theorem readWhole_generic {name : List Char} {texts : List (List Char)} {types : List Ty}
    (chars : ∀ c ∈ name, isNameChar c = true) (nonempty : name ≠ [])
    (generic : Head.ofName name ≠ .literal) (stand : List.Forall₂ Stands texts types)
    (some : texts ≠ []) (made : (Head.ofName name).apply name types = .ok ty)
    (spaced : Spaced (name :: ['['] :: (texts.intersperse [','] ++ [[']']])) text) :
    readWhole text = .ok ty := by
  obtain ⟨c, cs, rfl⟩ := List.exists_cons_of_ne_nil nonempty
  obtain ⟨gap, extends', opens⟩ := spaced.exists_extends
  obtain ⟨inner, bracket, arguments⟩ := opens.exists_next (by decide)
  have shown := extends' c cs
    (skipBlanks_cons (not_isBlank_of_isNameChar (chars c List.mem_cons_self)) cs)
  obtain ⟨opening, rfl, read⟩ := readAlternative_applied text shown chars
    (opens.apart (by decide)) bracket generic
  obtain ⟨after, several, done⟩ := readArgumentList_spaced stand some arguments text
  rw [readArguments_of_ok several] at read
  simp only [countingTypes_types, made] at read
  exact readWhole_of_alternative read done

/-! ## Bars -/

/-- Alternatives with a bar and more alternatives behind them are read together. -/
theorem readAlternatives_bar {text text' : List Char} {input longer more : List Char}
    {types others : List Ty} {after : Remainder input}
    (read : readAlternatives text input = .ok (types, after)) (done : Blank after.rest)
    (extends' : Extends input longer more) (pauses : Pauses more) {behind : List Char}
    (bar : skipBlanks more = '|' :: behind) {rest : Remainder behind}
    (read' : readAlternatives text' behind = .ok (others, rest)) :
    ∃ stop : Remainder longer, readAlternatives text' longer = .ok (types ++ others, stop) ∧
      stop.rest = rest.rest := by
  rw [readAlternatives] at read
  split at read
  · cases read
  · next ty first one =>
    obtain ⟨first', one', stop⟩ := readAlternative_extends one text' extends' fun _ => pauses
    split at read
    · next next found =>
      split at read
      · cases read
      · next types last several =>
        cases read
        have shorter := Nat.lt_trans next.shorter first.shorter
        obtain ⟨next', found', within⟩ :=
          (stop ▸ Extends.append first.rest more).nextVisible found
        obtain ⟨stop, several', end'⟩ := readAlternatives_bar several done
          (within ▸ Extends.append next.rest more) pauses bar read'
        refine ⟨first'.trans (next'.trans stop), ?_, end'⟩
        rw [readAlternatives, one']
        simp only [found', several']
        rfl
    · cases read
      -- The last alternative on the left is followed by the bar.
      have shown : skipBlanks first'.rest = '|' :: behind := by
        rw [stop, done.skipBlanks_append, bar]
      obtain ⟨next, found, rfl⟩ := nextVisible_of_skipBlanks shown
      refine ⟨first'.trans (next.trans rest), ?_, rfl⟩
      rw [readAlternatives, one']
      simp only [found, read']
      rfl
termination_by input.length

/-- Annotations with a bar between them declare the union of their types. -/
theorem readWhole_bar (left : readWhole a = .ok A) (right : readWhole b = .ok B)
    (spaced : Spaced [a, ['|'], b] text) : readWhole text = .ok (.unionOf [A, B]) := by
  obtain ⟨more, extends', bar⟩ := spaced.exists_extends
  obtain ⟨behind, shown, last⟩ := bar.exists_next (by decide)
  obtain ⟨rest, extends'', done⟩ := last.exists_extends
  obtain ⟨types, after, read, blank, rfl⟩ := readWhole_eq_ok_iff.1 left
  obtain ⟨others, after', read', blank', rfl⟩ := readWhole_eq_ok_iff.1 right
  obtain ⟨stop, read'', end'⟩ :=
    readAlternatives_extends read' text extends'' fun _ => done.blank.ends
  obtain ⟨stop', whole, end''⟩ :=
    readAlternatives_bar read blank extends' bar.pauses shown read''
  have made {text : List Char} {types : List Ty} {after : Remainder text}
      (read : readAlternatives text text = .ok (types, after)) : ∀ ty ∈ types, ty.WellMade := by
    have reads := reads_alternatives text text
    rw [read] at reads
    exact reads.2
  have union := Ty.WellMade.unionOf_append (made read) (made read')
  refine readWhole_eq_ok_iff.2 ⟨_, stop', whole, ?_, union.symm⟩
  rw [end'', end']
  exact List.forall_mem_append.2 ⟨blank', done.blank⟩

/-! ## Paths -/

/-- Whether the text may stand before a name to say where that is from: names with a dot behind
    each of them, or nothing. -/
structure Path (path : List Char) : Prop where
  chars : ∀ c ∈ path, isNameChar c = true
  dotted : ∀ c ∈ path.getLast?, c = '.'

theorem Path.lastPart_append {path name : List Char} (h : Path path) (single : '.' ∉ name) :
    lastPart (path ++ name) = name := by
  have own : ∀ c ∈ name.reverse, decide (c ≠ '.') = true := fun c mem =>
    decide_eq_true fun same => single (same ▸ List.mem_reverse.1 mem)
  have none : path.reverse.takeWhile (· ≠ '.') = [] := by
    have last := h.dotted
    rw [← List.head?_reverse] at last
    generalize path.reverse = reversed at last ⊢
    cases reversed with
    | nil => rfl
    | cons c cs =>
      obtain rfl := last c rfl
      exact List.takeWhile_cons_of_neg (by decide)
  rw [lastPart, List.reverse_append, List.takeWhile_append_of_pos own, none, List.append_nil,
    List.reverse_reverse]

/-- A path does not change what a name means. -/
theorem Path.ofName_append {path name : List Char} (h : Path path) (single : '.' ∉ name) :
    Head.ofName (path ++ name) = Head.ofName name := by
  have none : Path [] := ⟨nofun, nofun⟩
  have alone : lastPart name = name := none.lastPart_append single
  rw [Head.ofName, Head.ofName, h.lastPart_append single, alone]

/-! ## Spellings -/

/-- How an annotation is given in the place of a type: as it is, unless it begins with a dot, or in
    quotes that do not occur in it. -/
inductive Given : String → Ty → Prop
  | plain {text : String} {ty : Ty} : Ty.ofAnnotation text = .ok ty →
      (skipBlanks text.toList).head? ≠ some '.' → Given text ty
  | quoted {text : String} {ty : Ty} {quote : Char} : Ty.ofAnnotation text = .ok ty →
      quote = '"' ∨ quote = '\'' → quote ∉ text.toList →
      Given (String.singleton quote ++ text ++ String.singleton quote) ty

/-- Whether the pieces declare the type, whatever blanks stand before, between and behind them. -/
def Declare (pieces : List String) (ty : Ty) : Prop :=
  ∀ text : String, Spaced (pieces.map String.toList) text.toList → Ty.ofAnnotation text = .ok ty

theorem Given.stands {text : String} (given : Given text ty) : Stands text.toList ty := by
  cases given with
  | plain read undotted => exact ⟨read, undotted⟩
  | quoted read quotes free =>
    have stands := Stands.quoted read quotes free
    simpa using stands

theorem map_toList_intersperse (texts : List String) :
    (texts.intersperse ",").map String.toList = (texts.map String.toList).intersperse [','] := by
  induction texts with
  | nil => rfl
  | cons first texts ih =>
    cases texts with
    | nil => rfl
    | cons second texts =>
      rw [List.intersperse_cons_cons, List.map_cons, List.map_cons, ih]
      exact List.intersperse_cons_cons.symm

/-- The names that make types of other types. -/
def constructors : List String := ["list", "set", "dict", "tuple", "Optional", "Union"]

theorem constructors_plain : ∀ name ∈ constructors,
    name.toList.all isNameChar = true ∧ name.toList ≠ [] ∧ '.' ∉ name.toList ∧
      Head.ofName name.toList ≠ .literal := by
  decide

/-- A constructor from some path, with arguments in brackets. -/
theorem declare_constructor {path name : String} {texts : List String} {types : List Ty}
    (from' : Path path.toList) (mem : name ∈ constructors)
    (given : List.Forall₂ Given texts types) (some : texts ≠ [])
    (made : (Head.ofName name.toList).apply (path ++ name).toList types = .ok ty) :
    Declare ((path ++ name) :: "[" :: (texts.intersperse "," ++ ["]"])) ty := by
  intro text spaced
  obtain ⟨chars, nonempty, single, generic⟩ := constructors_plain name mem
  have whole : (path ++ name).toList = path.toList ++ name.toList := String.toList_append
  have meaning : Head.ofName (path ++ name).toList = Head.ofName name.toList := by
    rw [whole, from'.ofName_append single]
  have stand : List.Forall₂ Stands (texts.map String.toList) types :=
    List.forall₂_map_left_iff.2 (given.imp fun _ _ => Given.stands)
  rw [← meaning] at generic made
  refine readWhole_generic ?_ ?_ generic stand (by simpa using some) made ?_
  · rw [whole]
    exact List.forall_mem_append.2 ⟨from'.chars, List.all_eq_true.1 chars⟩
  · simp [whole, nonempty]
  · rw [← map_toList_intersperse]
    simpa using spaced

end Annotation

open Annotation

/-- Annotations that are given in the place of types, as they are or in quotes, make the types that
    their types make: in lists, sets, maps and tuples, as alternatives, and where they are declared
    optional in one of three ways. That holds with any path before the name of the constructor, and
    with any blanks before and behind names, brackets, commas and bars. -/
theorem Ty.spellings_agree {a b : String} {A B : Ty} (left : Given a A) (right : Given b B) :
    Declare [a] A ∧ Declare [a, "|", b] (.unionOf [A, B]) ∧
    Declare [a, "|", "None"] (.optional A) ∧
    ∀ path : String, Path path.toList →
      Declare [path ++ "list", "[", a, "]"] (.list A) ∧
      Declare [path ++ "set", "[", a, "]"] (.set A) ∧
      Declare [path ++ "dict", "[", a, ",", b, "]"] (.map A B) ∧
      Declare [path ++ "Optional", "[", a, "]"] (.optional A) ∧
      Declare [path ++ "Union", "[", a, ",", "None", "]"] (.optional A) ∧
      ∀ texts types, texts ≠ [] → List.Forall₂ Given texts types →
        Declare ((path ++ "tuple") :: "[" :: (texts.intersperse "," ++ ["]"])) (.tuple types) := by
  have made : Ty.nil.WellMade := .of_isPlain rfl
  have none : Given "None" .nil := .plain (made.ofAnnotation_iff.2 (by decide)) (by decide)
  have one : List.Forall₂ Given [a] [A] := .cons left .nil
  refine ⟨?_, ?_, ?_, fun path from' => ⟨?_, ?_, ?_, ?_, ?_, fun texts types some given => ?_⟩⟩
  · exact fun text spaced => readWhole_spaced left.stands.reads spaced
  · exact fun text spaced => readWhole_bar left.stands.reads right.stands.reads spaced
  · exact fun text spaced => readWhole_bar left.stands.reads none.stands.reads spaced
  · exact declare_constructor from' (by decide) one (List.cons_ne_nil _ _) rfl
  · exact declare_constructor from' (by decide) one (List.cons_ne_nil _ _) rfl
  · exact declare_constructor from' (by decide) (.cons left (.cons right .nil))
      (List.cons_ne_nil _ _) rfl
  · exact declare_constructor from' (by decide) one (List.cons_ne_nil _ _) rfl
  · exact declare_constructor from' (by decide) (.cons left (.cons none .nil))
      (List.cons_ne_nil _ _) rfl
  · exact declare_constructor from' (by decide) given some rfl

/-- A name that begins with a dot, in quotes among the arguments of a constructor from a path. -/
theorem Ty.spellings_agree_shapes :
    Given "int" .int ∧ Given "'.shapes.Point'" (.named ".shapes.Point") ∧
      Path "typing.".toList ∧
      Ty.ofAnnotation "typing.dict[int, '.shapes.Point']" =
        .ok (.map .int (.named ".shapes.Point")) := by
  have int : Given "int" .int := by
    have made : Ty.int.WellMade := .of_isPlain rfl
    exact .plain (made.ofAnnotation_iff.2 (by decide)) (by decide)
  have point : Given "'.shapes.Point'" (.named ".shapes.Point") := by
    have made : (Ty.named ".shapes.Point").WellMade := by decide
    exact @Given.quoted ".shapes.Point" _ '\'' (made.ofAnnotation_iff.2 (by decide)) (.inr rfl)
      (by decide)
  have path : Path "typing.".toList := by
    have chars : "typing.".toList.all isNameChar = true := by decide
    have last : "typing.".toList.getLast? = some '.' := by decide
    exact ⟨List.all_eq_true.1 chars, fun c mem => Option.some.inj (mem.symm.trans last)⟩
  obtain ⟨-, -, map, -⟩ := (Ty.spellings_agree int point).2.2.2 "typing." path
  refine ⟨int, point, path, map _ ?_⟩
  exact .tight (.tight (.tight (.tight (.space (.tight (.tight (.nil nofun)))))))

end Understudy
