import Understudy.Call.Binding
import Understudy.Fault
import Understudy.Proofs.Value.Reordering
import Understudy.Sample.Surfaces

/-!
# Lossless coercion

Under lossless coercion a type accepts what it accepts strictly once some numbers are given in the
other kind: integers as floating-point numbers, and floating-point numbers that denote an integer
of 64 bits as integers. They may stand anywhere in lists, tuples, sets and maps, but not in
objects, which are accepted by the names of their types alone.

* `Value.Replaced`: parts of a value are replaced.
* `Ty.exists_strict`, `Ty.accepts_of_replaced`: a type that accepts a value losslessly finds the
  numbers to replace, and no other replacement is of use.
* `Ty.lossless_iff`: both together, with what follows for the checks of calls and results.
-/

namespace Understudy

namespace Value

/-- Whether a value comes from another one by replacing parts of it, each by what `part` relates
    it to. Objects are not looked into. -/
inductive Replaced (part : Value → Value → Prop) : Value → Value → Prop
  | keep {v : Value} : Replaced part v v
  | part {v w : Value} : part v w → Replaced part v w
  | list {vs ws : List Value} : List.Forall₂ (Replaced part) vs ws →
      Replaced part (.list vs) (.list ws)
  | tuple {vs ws : List Value} : List.Forall₂ (Replaced part) vs ws →
      Replaced part (.tuple vs) (.tuple ws)
  | set {vs ws : List Value} : List.Forall₂ (Replaced part) vs ws →
      Replaced part (.set vs) (.set ws)
  | map {vs ws : List (Value × Value)} :
      List.Forall₂ (Replaced part) (vs.map Prod.fst) (ws.map Prod.fst) →
      List.Forall₂ (Replaced part) (vs.map Prod.snd) (ws.map Prod.snd) →
      Replaced part (.map vs) (.map ws)

/-- An integer may be replaced by any floating-point number, and a floating-point number that
    denotes an integer of 64 bits by any integer. -/
inductive OtherNumber : Value → Value → Prop
  | int {n : Int64} {x : Binary64} : OtherNumber (.int n) (.float x)
  | float {x : Binary64} {n : Int64} : x.toInt64?.isSome = true → OtherNumber (.float x) (.int n)

/-- An integer may be replaced by the floating-point number nearest to it, and a floating-point
    number by the integer of 64 bits that it denotes. -/
inductive ConvertedNumber : Value → Value → Prop
  | int {n : Int64} : ConvertedNumber (.int n) (.float (.ofInt n.toInt))
  | float {x : Binary64} {n : Int64} : x.toInt64? = some n → ConvertedNumber (.float x) (.int n)

theorem ConvertedNumber.other {v w : Value} (h : ConvertedNumber v w) : OtherNumber v w := by
  cases h with
  | int => exact .int
  | float denotes => exact .float (by rw [denotes]; rfl)

/-- Whether the value is neither a number nor looked into. -/
def Fixed : Value → Prop
  | .nil | .bool _ | .str _ | .object _ _ => True
  | _ => False

namespace Replaced

variable {part : Value → Value → Prop} {v : Value}

theorem of_items (number : ∀ {v w}, part v w → OtherNumber v w) {make : List Value → Value}
    (one : make ∈ [.list, .tuple, .set]) {ws : List Value} (h : Replaced part v (make ws)) :
    ∃ vs, v = make vs ∧ List.Forall₂ (Replaced part) vs ws := by
  simp only [List.mem_cons, List.not_mem_nil, or_false] at one
  rcases one with rfl | rfl | rfl <;> cases h with
  | keep => exact ⟨ws, rfl, List.forall₂_same.2 fun _ _ => .keep⟩
  | part replaced => cases number replaced
  | _ like => exact ⟨_, rfl, like⟩

theorem of_entries (number : ∀ {v w}, part v w → OtherNumber v w) {ws : List (Value × Value)}
    (h : Replaced part v (.map ws)) : ∃ vs, v = .map vs ∧
      List.Forall₂ (fun p q => Replaced part p.1 q.1 ∧ Replaced part p.2 q.2) vs ws := by
  cases h with
  | keep => exact ⟨ws, rfl, List.forall₂_same.2 fun _ _ => ⟨.keep, .keep⟩⟩
  | part replaced => cases number replaced
  | map keys values => exact ⟨_, rfl, forall₂_pair_iff.2 ⟨keys, values⟩⟩

theorem eq_of_fixed (number : ∀ {v w}, part v w → OtherNumber v w) {w : Value}
    (h : Replaced part v w) (fixed : w.Fixed) : v = w := by
  cases h with
  | keep => rfl
  | part replaced => cases number replaced <;> exact fixed.elim
  | list | tuple | set | map => exact fixed.elim

end Replaced

end Value

section Lists

variable {α β : Type} {R : α → β → Prop} {p : α → Bool} {q : β → Bool} {as : List α} {bs : List β}

theorem all_of_forall₂ (kept : ∀ a b, R a b → q b = true → p a = true)
    (like : List.Forall₂ R as bs) (h : bs.all q = true) : as.all p = true := by
  induction like with
  | nil => rfl
  | cons here _ ih =>
    obtain ⟨first, behind⟩ := Bool.and_eq_true_iff.1 h
    rw [List.all_cons, kept _ _ here first, ih behind]
    rfl

theorem exists_all (found : ∀ a, p a = true → ∃ b, R a b ∧ q b = true) (h : as.all p = true) :
    ∃ bs, List.Forall₂ R as bs ∧ bs.all q = true := by
  induction as with
  | nil => exact ⟨[], .nil, rfl⟩
  | cons a as ih =>
    obtain ⟨first, behind⟩ := Bool.and_eq_true_iff.1 h
    obtain ⟨b, here, accepted⟩ := found a first
    obtain ⟨bs, like, accepted'⟩ := ih behind
    exact ⟨b :: bs, .cons here like, by rw [List.all_cons, accepted, accepted']; rfl⟩

end Lists

open Value (Replaced OtherNumber ConvertedNumber)

namespace Ty

variable {part : Value → Value → Prop}

mutual

/-- A type accepts losslessly what it accepts strictly once numbers are replaced. -/
theorem accepts_of_replaced (number : ∀ {v w}, part v w → OtherNumber v w) :
    ∀ (ty : Ty) {v w : Value}, Replaced part v w → accepts .strict ty w = true →
      accepts .lossless ty v = true
  | .any, _, _, _, _ => by rw [accepts]
  | .nil, _, w, replaced, h | .bool, _, w, replaced, h | .str, _, w, replaced, h
  | .named _, _, w, replaced, h => by
    cases w with
    -- These hold no number, so nothing was replaced.
    | nil | bool | str | object =>
      obtain rfl := Replaced.eq_of_fixed number replaced trivial
      exact h
    | _ => cases h
  | .int, _, w, replaced, h => by
    cases w with
    | int n =>
      cases replaced with
      | keep => rfl
      | part replaced =>
        cases number replaced with
        | float denotes => exact denotes
    | _ => cases h
  | .float, _, w, replaced, h => by
    cases w with
    | float x =>
      cases replaced with
      | keep => rfl
      | part replaced =>
        cases number replaced with
        | int => rfl
    | _ => cases h
  | .list item, _, w, replaced, h => by
    cases w with
    | list ws =>
      obtain ⟨vs, rfl, like⟩ := replaced.of_items number (by simp)
      rw [accepts] at h ⊢
      exact all_of_forall₂ (q := accepts .strict item)
        (fun _ _ => accepts_of_replaced number item) like h
    | _ => cases h
  | .set item, _, w, replaced, h => by
    cases w with
    | set ws =>
      obtain ⟨vs, rfl, like⟩ := replaced.of_items number (by simp)
      rw [accepts] at h ⊢
      exact all_of_forall₂ (q := accepts .strict item)
        (fun _ _ => accepts_of_replaced number item) like h
    | _ => cases h
  | .tuple shape, _, w, replaced, h => by
    cases w with
    | tuple ws =>
      obtain ⟨vs, rfl, like⟩ := replaced.of_items number (by simp)
      rw [accepts, Bool.or_eq_true] at h ⊢
      exact h.imp_right (acceptsShape_of_replaced number shape like)
    | _ => cases h
  | .map key value, _, w, replaced, h => by
    cases w with
    | map ws =>
      obtain ⟨vs, rfl, like⟩ := replaced.of_entries number
      rw [accepts] at h ⊢
      refine all_of_forall₂ (fun p q replaced h => ?_) like h
      rw [Bool.and_eq_true] at h ⊢
      exact ⟨accepts_of_replaced number key replaced.1 h.1,
        accepts_of_replaced number value replaced.2 h.2⟩
    | _ => cases h
  | .union alternatives, _, _, replaced, h => by
    rw [accepts] at h ⊢
    exact anyAccepts_of_replaced number alternatives replaced h

theorem acceptsShape_of_replaced (number : ∀ {v w}, part v w → OtherNumber v w) :
    ∀ (types : List Ty) {vs ws : List Value}, List.Forall₂ (Replaced part) vs ws →
      acceptsShape .strict types ws = true → acceptsShape .lossless types vs = true
  | [], _, _, like, h => by
    cases like with
    | nil => rfl
    | cons => cases h
  | ty :: types, _, _, like, h => by
    cases like with
    | nil => cases h
    | cons here behind =>
      rw [acceptsShape, Bool.and_eq_true] at h ⊢
      exact ⟨accepts_of_replaced number ty here h.1,
        acceptsShape_of_replaced number types behind h.2⟩

theorem anyAccepts_of_replaced (number : ∀ {v w}, part v w → OtherNumber v w) :
    ∀ (types : List Ty) {v w : Value}, Replaced part v w → anyAccepts .strict types w = true →
      anyAccepts .lossless types v = true
  | [], _, _, _, h => by cases h
  | ty :: types, _, _, replaced, h => by
    rw [anyAccepts, Bool.or_eq_true] at h ⊢
    exact h.imp (accepts_of_replaced number ty replaced)
      (anyAccepts_of_replaced number types replaced)

end

mutual

/-- In what a type accepts losslessly there are numbers to convert so that it is accepted strictly.
    Which ones depends on the type, and in a union on the alternative that accepts the value. -/
theorem exists_strict (convert : ∀ {v w}, ConvertedNumber v w → part v w) :
    ∀ (ty : Ty) {v : Value}, accepts .lossless ty v = true →
      ∃ w, Replaced part v w ∧ accepts .strict ty w = true
  | .any, v, _ => ⟨v, .keep, by rw [accepts]⟩
  | .nil, v, h | .bool, v, h | .str, v, h | .named _, v, h => by
    refine ⟨v, .keep, ?_⟩
    cases v with
    | nil | bool | str | object => exact h
    | _ => cases h
  | .int, v, h => by
    cases v with
    | int n => exact ⟨.int n, .keep, rfl⟩
    | float x =>
      obtain ⟨n, denotes⟩ := Option.isSome_iff_exists.1 (show x.toInt64?.isSome = true from h)
      exact ⟨.int n, .part (convert (.float denotes)), rfl⟩
    | _ => cases h
  | .float, v, h => by
    cases v with
    | float x => exact ⟨.float x, .keep, rfl⟩
    | int n => exact ⟨.float (.ofInt n.toInt), .part (convert .int), rfl⟩
    | _ => cases h
  | .list item, v, h => by
    cases v with
    | list vs =>
      rw [accepts] at h
      obtain ⟨ws, like, accepted⟩ := exists_all (q := accepts .strict item)
        (fun _ => exists_strict convert item) h
      exact ⟨.list ws, .list like, by rw [accepts]; exact accepted⟩
    | _ => cases h
  | .set item, v, h => by
    cases v with
    | set vs =>
      rw [accepts] at h
      obtain ⟨ws, like, accepted⟩ := exists_all (q := accepts .strict item)
        (fun _ => exists_strict convert item) h
      exact ⟨.set ws, .set like, by rw [accepts]; exact accepted⟩
    | _ => cases h
  | .tuple shape, v, h => by
    cases v with
    | tuple vs =>
      rw [accepts, Bool.or_eq_true] at h
      rcases h with empty | h
      -- A tuple type without a shape takes any tuple, so no number needs to be converted.
      · exact ⟨.tuple vs, .keep, by rw [accepts, empty]; rfl⟩
      · obtain ⟨ws, like, accepted⟩ := exists_strict_shape convert shape h
        exact ⟨.tuple ws, .tuple like, by rw [accepts, accepted, Bool.or_true]⟩
    | _ => cases h
  | .map key value, v, h => by
    cases v with
    | map entries =>
      rw [accepts] at h
      have entry : ∀ p : Value × Value,
          (accepts .lossless key p.1 && accepts .lossless value p.2) = true →
            ∃ q : Value × Value, (Replaced part p.1 q.1 ∧ Replaced part p.2 q.2) ∧
              (accepts .strict key q.1 && accepts .strict value q.2) = true := by
        intro p h
        rw [Bool.and_eq_true] at h
        obtain ⟨k, first, accepted⟩ := exists_strict convert key h.1
        obtain ⟨w, second, accepted'⟩ := exists_strict convert value h.2
        exact ⟨(k, w), ⟨first, second⟩, by rw [accepted, accepted']; rfl⟩
      obtain ⟨ws, like, accepted⟩ := exists_all entry h
      obtain ⟨keys, values⟩ := forall₂_pair_iff.1 like
      exact ⟨.map ws, .map keys values, by rw [accepts]; exact accepted⟩
    | _ => cases h
  | .union alternatives, v, h => by
    rw [accepts] at h
    -- What is converted is up to the alternative that accepts the value.
    obtain ⟨w, replaced, accepted⟩ := exists_strict_any convert alternatives h
    exact ⟨w, replaced, by rw [accepts, accepted]⟩

theorem exists_strict_shape (convert : ∀ {v w}, ConvertedNumber v w → part v w) :
    ∀ (types : List Ty) {vs : List Value}, acceptsShape .lossless types vs = true →
      ∃ ws, List.Forall₂ (Replaced part) vs ws ∧ acceptsShape .strict types ws = true
  | [], vs, h => by
    cases vs with
    | nil => exact ⟨[], .nil, rfl⟩
    | cons => cases h
  | ty :: types, vs, h => by
    cases vs with
    | nil => cases h
    | cons v vs =>
      rw [acceptsShape, Bool.and_eq_true] at h
      obtain ⟨w, here, accepted⟩ := exists_strict convert ty h.1
      obtain ⟨ws, behind, accepted'⟩ := exists_strict_shape convert types h.2
      exact ⟨w :: ws, .cons here behind, by rw [acceptsShape, accepted, accepted']; rfl⟩

theorem exists_strict_any (convert : ∀ {v w}, ConvertedNumber v w → part v w) :
    ∀ (types : List Ty) {v : Value}, anyAccepts .lossless types v = true →
      ∃ w, Replaced part v w ∧ anyAccepts .strict types w = true
  | [], _, h => by cases h
  | ty :: types, v, h => by
    rw [anyAccepts, Bool.or_eq_true] at h
    rcases h with h | h
    · obtain ⟨w, replaced, accepted⟩ := exists_strict convert ty h
      exact ⟨w, replaced, by rw [anyAccepts, accepted]; rfl⟩
    · obtain ⟨w, replaced, accepted⟩ := exists_strict_any convert types h
      exact ⟨w, replaced, by rw [anyAccepts, accepted, Bool.or_true]⟩

end

/-- A type accepts a value losslessly exactly if it strictly accepts one in which numbers are
    replaced, whether by any of the other kind or only by those that they are converted to. -/
theorem accepts_lossless_iff (number : ∀ {v w}, part v w → OtherNumber v w)
    (convert : ∀ {v w}, ConvertedNumber v w → part v w) (ty : Ty) (v : Value) :
    accepts .lossless ty v = true ↔ ∃ w, Replaced part v w ∧ accepts .strict ty w = true :=
  ⟨exists_strict convert ty, fun ⟨_, replaced, h⟩ => accepts_of_replaced number ty replaced h⟩

theorem accepts_lossless (ty : Ty) {v : Value} (h : accepts .strict ty v = true) :
    accepts .lossless ty v = true :=
  accepts_of_replaced (fun other => other) ty .keep h

theorem refusing?_lossless {declared : Option Ty} {v : Value}
    (h : refusing? .strict declared v = none) : refusing? .lossless declared v = none := by
  rw [refusing?_eq_none_iff] at h ⊢
  cases declared with
  | none => rfl
  | some ty => exact accepts_lossless ty h

end Ty

/-- Of all that is wrong with a call, only a complaint about a type depends on the coercion. -/
theorem Member.mismatch?_lossless {m : Member} {arguments : Arguments}
    (h : m.mismatch? .strict arguments = none) : m.mismatch? .lossless arguments = none := by
  simp only [mismatch?] at h ⊢
  split_ifs at h ⊢
  cases named : Binding.byNames (m.hasParam .restKeyword)
    (Binding.byPosition m.params arguments.positional).1 [] arguments.named.entries with
  | error mismatch =>
    rw [named] at h
    cases h
  | ok delivered =>
    rw [named] at h
    cases missing : delivered.1.find? Binding.isMissing with
    | some slot => simp only [missing, reduceCtorEq] at h
    | none =>
      simp only [missing, List.findSome?_eq_none_iff, Binding.typeMismatch?,
        Option.map_eq_none_iff] at h ⊢
      exact fun slot mem entry there => Ty.refusing?_lossless (h slot mem entry there)

theorem Fault.ofResult?_lossless {label : String} {declared : Option Ty} {value : Value}
    (h : ofResult? .strict label declared value = none) :
    ofResult? .lossless label declared value = none :=
  Option.map_eq_none_iff.2 (Ty.refusing?_lossless (Option.map_eq_none_iff.1 h))

namespace Ty

/-- Lossless coercion is strict matching up to numbers: a type accepts a value losslessly exactly if
    it strictly accepts one that comes from it by replacing integers by floating-point numbers and
    floating-point numbers that denote integers by integers, wherever they stand outside of
    objects; and then replacing them by what they are converted to is enough. So types, and
    with them the checks of calls and of results, accept all that they accept strictly. -/
theorem lossless_iff :
    (∀ (ty : Ty) (v : Value),
      (accepts .lossless ty v = true ↔
        ∃ w, v.Replaced OtherNumber w ∧ accepts .strict ty w = true) ∧
      (accepts .lossless ty v = true ↔
        ∃ w, v.Replaced ConvertedNumber w ∧ accepts .strict ty w = true) ∧
      (accepts .strict ty v = true → accepts .lossless ty v = true)) ∧
    (∀ (m : Member) (arguments : Arguments),
      m.mismatch? .strict arguments = none → m.mismatch? .lossless arguments = none) ∧
    ∀ (label : String) (declared : Option Ty) (value : Value),
      Fault.ofResult? .strict label declared value = none →
        Fault.ofResult? .lossless label declared value = none :=
  ⟨fun ty v => ⟨accepts_lossless_iff (fun other => other) (fun converted => converted.other) ty v,
      accepts_lossless_iff (fun converted => converted.other) (fun converted => converted) ty v,
      accepts_lossless ty⟩,
    fun _ _ => Member.mismatch?_lossless, fun _ _ _ => Fault.ofResult?_lossless⟩

/-- A list of integers is accepted as one of floating-point numbers, but not strictly. -/
theorem lossless_iff_drawing :
    (accepts .strict (.list .float) (.list [.int 2]) = false ∧
      ∃ w, (Value.list [.int 2]).Replaced ConvertedNumber w ∧
        accepts .strict (.list .float) w = true) ∧
    (Sample.drawSample.mismatch? .strict Sample.drawing = none ∧
      Sample.drawSample.mismatch? .lossless Sample.drawing = none) ∧
    (Fault.ofResult? .strict "Random.randint" (some .int) (.int 4) = none ∧
      Fault.ofResult? .lossless "Random.randint" (some .int) (.int 4) = none) := by
  obtain ⟨types, calls, results⟩ := lossless_iff
  exact ⟨⟨rfl, (types (.list .float) (.list [.int 2])).2.1.1 rfl⟩, ⟨rfl, calls _ _ rfl⟩,
    rfl, results _ _ _ rfl⟩

end Ty

end Understudy
