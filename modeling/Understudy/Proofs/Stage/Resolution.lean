import Mathlib.Data.List.Forall2
import Understudy.Proofs.Stage.History

/-!
# Which rule decides a call

What becomes of a call is a matter of the history of the member and of nothing else. Of the rules
declared since the last reset the latest that accepts the arguments decides, and of its outcomes
it is the turn of the one behind those that it was drawn for before; the last one has its turn
again and again.

A stage keeps less than the history: of every rule only the outcomes that are still to come. The
two are tied by an invariant, `History.Explains`, that every step keeps. And whatever is still to
come from rules was declared: `Rules.Stock` grows with declarations only.

* `MemberState.Moves.stock`: what is still to come.
* `Session.call_resolved`: every accepted call of every session goes on as its history has it.
-/

namespace Understudy

/-! ## What the history says -/

/-- A rule as it was declared. -/
structure DeclaredRule where
  /-- How much had happened to the member before. -/
  index : Nat
  /-- Which calls it is for. -/
  matcher : Matcher
  /-- What becomes of them, one after the other. -/
  outcomes : List Outcome

namespace History

/-- The rules declared since the last reset, the latest at the head. -/
def declared : History → List DeclaredRule
  | [] => []
  | .declared matcher outcomes :: before => ⟨before.length, matcher, outcomes⟩ :: declared before
  | .called _ :: before | .read :: before => declared before
  | .forgotten :: _ => []

/-- The rule that decides a call: the latest one that accepts the arguments. -/
def decisive? (history : History) (arguments : Arguments) : Option DeclaredRule :=
  history.declared.find? (·.matcher.accepts arguments)

/-- Whether a call is decided by the rule of the given index. -/
def DecidedBy (history : History) (index : Nat) (arguments : Arguments) : Prop :=
  (history.decisive? arguments).map (·.index) = some index

instance (history : History) (index : Nat) (arguments : Arguments) :
    Decidable (history.DecidedBy index arguments) :=
  inferInstanceAs (Decidable (_ = _))

/-- How many calls were decided by the rule of the given index. -/
def uses : History → Nat → Nat
  | .called arguments :: before, index =>
    uses before index + if DecidedBy before index arguments then 1 else 0
  | _ :: before, index => uses before index
  | [], _ => 0

/-- What becomes of a call of a member of the declared type, given its history. -/
def outcome? (history : History) (result : Option Ty) (arguments : Arguments) : Option Outcome :=
  match history.decisive? arguments with
  | none => some (.value (Ty.placeholder result))
  | some rule => rule.outcomes[min (history.uses rule.index) (rule.outcomes.length - 1)]?

/-! ## Indices -/

theorem index_lt_of_mem_declared {history : History} {rule : DeclaredRule}
    (h : rule ∈ history.declared) : rule.index < history.length := by
  induction history with
  | nil => cases h
  | cons happening before ih =>
    rw [List.length_cons]
    cases happening with
    | declared matcher outcomes =>
      rcases List.mem_cons.1 h with rfl | h
      · exact Nat.lt_succ_self _
      · exact Nat.lt_succ_of_lt (ih h)
    | called arguments => exact Nat.lt_succ_of_lt (ih h)
    | read => exact Nat.lt_succ_of_lt (ih h)
    | forgotten => cases h

/-- No two declared rules have one index. -/
theorem declared_distinct (history : History) :
    history.declared.Pairwise fun a b => a.index ≠ b.index := by
  induction history with
  | nil => exact .nil
  | cons happening before ih =>
    cases happening with
    | declared matcher outcomes =>
      exact .cons (fun rule mem => Nat.ne_of_gt (index_lt_of_mem_declared mem)) ih
    | called arguments => exact ih
    | read => exact ih
    | forgotten => exact .nil

/-- A rule decides no call before it is declared. -/
theorem uses_eq_zero {history : History} {index : Nat} (h : history.length ≤ index) :
    history.uses index = 0 := by
  induction history with
  | nil => rfl
  | cons happening before ih =>
    have earlier : before.length ≤ index := Nat.le_of_succ_le h
    cases happening with
    | called arguments =>
      have other : ¬ DecidedBy before index arguments := by
        intro decided
        obtain ⟨rule, decisive, rfl⟩ := Option.map_eq_some_iff.1 decided
        have := index_lt_of_mem_declared (List.mem_of_find?_eq_some decisive)
        omega
      rw [uses, ih earlier, if_neg other]
    | declared matcher outcomes => exact ih earlier
    | read => exact ih earlier
    | forgotten => exact ih earlier

/-- A rule is not used less often when more happened. -/
theorem uses_le_append (more history : History) (index : Nat) :
    history.uses index ≤ uses (more ++ history) index := by
  induction more with
  | nil => exact Nat.le_refl _
  | cons happening more ih =>
    cases happening with
    | called => exact Nat.le_trans ih (Nat.le_add_right _ _)
    | declared | read | forgotten => exact ih

/-- The rule that decides a call is used once more behind it. -/
theorem uses_called {history : History} {arguments : Arguments} {rule : DeclaredRule}
    (decisive : history.decisive? arguments = some rule) :
    uses (.called arguments :: history) rule.index = history.uses rule.index + 1 := by
  have decided : history.DecidedBy rule.index arguments := by rw [DecidedBy, decisive]; rfl
  rw [uses, if_pos decided]

end History

/-! ## What the stage keeps of it -/

theorem OutcomeQueue.toList_of_ofList? {outcomes : List Outcome} {queue : OutcomeQueue}
    (h : ofList? outcomes = some queue) : queue.toList = outcomes := by
  cases outcomes with
  | nil => cases h
  | cons next rest =>
    obtain rfl := Option.some.inj h
    rfl

/-- The rule is what is left of a declared one after it decided so many calls. -/
structure DeclaredRule.LeftAs (declared : DeclaredRule) (uses : Nat) (rule : Rule) : Prop where
  matcher : rule.matcher = declared.matcher
  outcomes : rule.outcomes.toList =
    declared.outcomes.drop (min uses (declared.outcomes.length - 1))

namespace DeclaredRule.LeftAs

variable {declared : DeclaredRule} {uses : Nat} {rule : Rule}

/-- The next outcome is the one whose turn it is. -/
theorem next (h : declared.LeftAs uses rule) :
    declared.outcomes[min uses (declared.outcomes.length - 1)]? = some rule.outcomes.next := by
  rw [← List.head?_drop, ← h.outcomes]
  rfl

/-- A draw is one more use. -/
theorem advance (h : declared.LeftAs uses rule) :
    declared.LeftAs (uses + 1) { rule with outcomes := rule.outcomes.advance } := by
  refine ⟨h.matcher, ?_⟩
  have left := h.outcomes
  have length := congrArg List.length left
  rw [List.length_drop] at length
  rcases rest : rule.outcomes.rest with _ | ⟨next, behind⟩
  · -- The last outcome stays, and the minimum does not grow any more.
    have last : rule.outcomes.advance = rule.outcomes := by rw [OutcomeQueue.advance, rest]
    have one : rule.outcomes.toList.length = 1 := by simp [OutcomeQueue.toList, rest]
    rw [last, left]
    congr 1
    omega
  · have tail : rule.outcomes.advance.toList = rule.outcomes.toList.drop 1 := by
      simp [OutcomeQueue.advance, OutcomeQueue.toList, rest]
    have more : 2 ≤ rule.outcomes.toList.length := by simp [OutcomeQueue.toList, rest]
    rw [tail, left, List.drop_drop]
    congr 1
    omega

end DeclaredRule.LeftAs

/-- The rules are what is left of the declared ones. -/
def LeftOver (uses : Nat → Nat) (declared : List DeclaredRule) (rules : Rules) : Prop :=
  List.Forall₂ (fun d rule => d.LeftAs (uses d.index) rule) declared rules

theorem Rules.after_cons (arguments : Arguments) (rule : Rule) (rules : Rules) :
    Rules.after arguments (rule :: rules) =
      if rule.matcher.accepts arguments then
        { rule with outcomes := rule.outcomes.advance } :: rules
      else rule :: rules.after arguments := by
  unfold after
  rw [draw]
  split
  · rfl
  · cases draw arguments rules <;> rfl

namespace LeftOver

variable {uses others : Nat → Nat} {declared : List DeclaredRule} {rules : Rules}
  {arguments : Arguments}

/-- Only the uses of the declared rules matter. -/
theorem congr (h : LeftOver uses declared rules)
    (same : ∀ d ∈ declared, others d.index = uses d.index) : LeftOver others declared rules := by
  refine ((List.forall₂_and_left _ _).2 ⟨same, h⟩).imp ?_
  rintro d rule ⟨same, left⟩
  rw [same]
  exact left

/-- A call that no declared rule accepts draws from no rule. -/
theorem draw_none (h : LeftOver uses declared rules)
    (undecided : declared.find? (·.matcher.accepts arguments) = none) :
    rules.draw arguments = none := by
  induction h with
  | nil => rfl
  | @cons d rule _ rules left _ ih =>
    rw [List.find?_cons] at undecided
    split at undecided
    · cases undecided
    · next refuses =>
      rw [Rules.draw, left.matcher, refuses, if_neg Bool.false_ne_true, ih undecided]
      rfl

/-- A call draws the next outcome of what is left of the rule that decides it. -/
theorem draw_some {d : DeclaredRule} (h : LeftOver uses declared rules)
    (decisive : declared.find? (·.matcher.accepts arguments) = some d) :
    ∃ rule behind, d.LeftAs (uses d.index) rule ∧
      rules.draw arguments = some (rule.outcomes.next, behind) := by
  induction h with
  | nil => cases decisive
  | @cons c rule _ rules left _ ih =>
    rw [List.find?_cons] at decisive
    split at decisive
    · next accepts =>
      obtain rfl := Option.some.inj decisive
      refine ⟨rule, { rule with outcomes := rule.outcomes.advance } :: rules, left, ?_⟩
      rw [Rules.draw, left.matcher, accepts, if_pos rfl]
    · next refuses =>
      obtain ⟨drawn, behind, left', drawing⟩ := ih decisive
      refine ⟨drawn, rule :: behind, left', ?_⟩
      rw [Rules.draw, left.matcher, refuses, if_neg Bool.false_ne_true, drawing, Option.map_some]

/-- Behind a call the rule that decided it is used once more, and no other is. -/
theorem after (h : LeftOver uses declared rules)
    (distinct : declared.Pairwise fun a b => a.index ≠ b.index)
    (counted : ∀ d ∈ declared, others d.index = uses d.index +
      if (declared.find? (·.matcher.accepts arguments)).map (·.index) = some d.index then 1
      else 0) :
    LeftOver others declared (rules.after arguments) := by
  induction h with
  | nil => exact .nil
  | @cons d rule declared rules left more ih =>
    obtain ⟨other, distinct⟩ := List.pairwise_cons.1 distinct
    have here := counted d List.mem_cons_self
    have behind := fun e mem => counted e (List.mem_cons_of_mem d mem)
    rw [Rules.after_cons, left.matcher]
    cases accepts : d.matcher.accepts arguments with
    | true =>
      -- The rule at the head decides the call, so it is used once more and those behind are not.
      simp only [List.find?_cons, accepts, Option.map_some, Option.some.injEq, if_true]
        at here behind
      refine .cons ?_ (LeftOver.congr more ?_)
      · rw [here, ← left.matcher]
        exact left.advance
      · intro e mem
        rw [behind e mem, if_neg (other e mem), Nat.add_zero]
    | false =>
      -- A rule behind decides the call, if any does. It is not the one at the head, as the indices
      -- are distinct, and what is left of that does not change.
      simp only [List.find?_cons, accepts] at here behind
      refine .cons ?_ (ih distinct behind)
      have unused : (declared.find? (·.matcher.accepts arguments)).map (·.index) ≠
          some d.index := by
        intro same
        obtain ⟨e, found, index⟩ := Option.map_eq_some_iff.1 same
        exact other e (List.mem_of_find?_eq_some found) index.symm
      rw [here, if_neg unused, Nat.add_zero]
      exact left

end LeftOver

/-! ## The invariant -/

/-- The rules of a state. Only callable members have rules. -/
def MemberState.rulesOf : Option MemberState → Rules
  | some (.callable _ rules) => rules
  | _ => []

/-- The rules of the state are what the history leaves over. -/
def History.Explains (history : History) (state : Option MemberState) : Prop :=
  LeftOver history.uses history.declared (MemberState.rulesOf state)

/-- A move goes on with the history that explains where it starts. -/
theorem MemberState.Moves.explains {before after : Option MemberState}
    {happening : Option Happening} {history : History} (move : Moves before happening after)
    (h : history.Explains before) : History.Explains (happening.toList ++ history) after := by
  cases move with
  | stays => exact h
  | @made kind =>
    cases kind <;> exact h
  | called => exact LeftOver.after h history.declared_distinct fun _ _ => rfl
  | @declared records rules matcher outcomes queue queued =>
    -- The index of the new rule is above all that happened, so nothing was decided by it.
    have fresh : History.uses history history.length = 0 := History.uses_eq_zero (Nat.le_refl _)
    refine .cons ⟨rfl, ?_⟩ (LeftOver.congr h fun _ _ => rfl)
    change queue.toList = outcomes.drop (min (History.uses history history.length) _)
    rw [fresh, Nat.zero_min, List.drop_zero]
    exact OutcomeQueue.toList_of_ofList? queued
  | readField => exact h
  | readProperty => exact h
  | written => exact h
  | attached => exact h
  | forgotten =>
    rcases before with _ | _ | _ | _ <;> exact .nil

/-- On every stage of a session the history of a member explains its state. -/
theorem Session.explained {steps : List Step} {stage : Stage} (session : Session steps stage)
    (id : MockId) (name : String) :
    (historyOf id name steps).Explains (stage.stateOf? id name) :=
  session.of_moves .nil (fun move h => move.explains h) id name

/-! ## What is still to come -/

/-- What is left of a queue are outcomes of the queue. -/
theorem OutcomeQueue.toList_advance_subset (queue : OutcomeQueue) :
    queue.advance.toList ⊆ queue.toList := by
  rcases queue with ⟨next, _ | ⟨second, rest⟩⟩
  · exact List.Subset.refl _
  · exact List.subset_cons_self next (second :: rest)

/-- Whether the outcome is still to come from one of the rules. -/
def Rules.Stock (rules : Rules) (outcome : Outcome) : Prop :=
  ∃ rule ∈ rules, outcome ∈ rule.outcomes.toList

namespace Rules.Stock

variable {arguments : Arguments} {rules behind : Rules} {outcome : Outcome}

/-- What is drawn is the next outcome of one of the rules. -/
theorem of_draw (drawn : rules.draw arguments = some (outcome, behind)) : rules.Stock outcome := by
  induction rules generalizing behind with
  | nil => cases drawn
  | cons rule rules ih =>
    rw [draw] at drawn
    split at drawn
    · obtain ⟨rfl, -⟩ := Prod.mk.inj (Option.some.inj drawn)
      exact ⟨rule, List.mem_cons_self, List.mem_cons_self⟩
    · obtain ⟨⟨_, others⟩, later, same⟩ := Option.map_eq_some_iff.1 drawn
      obtain ⟨rfl, -⟩ := Prod.mk.inj same
      obtain ⟨other, mem, there⟩ := ih later
      exact ⟨other, List.mem_cons_of_mem rule mem, there⟩

/-- A draw adds nothing to what is still to come. -/
theorem of_after (stock : (rules.after arguments).Stock outcome) : rules.Stock outcome := by
  induction rules with
  | nil => exact stock
  | cons rule rules ih =>
    rw [after_cons] at stock
    obtain ⟨left, mem, there⟩ := stock
    split at mem
    · rcases List.mem_cons.1 mem with rfl | mem
      · exact ⟨rule, List.mem_cons_self, rule.outcomes.toList_advance_subset there⟩
      · exact ⟨left, List.mem_cons_of_mem rule mem, there⟩
    · rcases List.mem_cons.1 mem with rfl | mem
      · exact ⟨left, List.mem_cons_self, there⟩
      · obtain ⟨other, mem, there⟩ := ih ⟨left, mem, there⟩
        exact ⟨other, List.mem_cons_of_mem rule mem, there⟩

end Rules.Stock

/-- What is still to come behind a move was still to come before it, or is declared in it. -/
theorem MemberState.Moves.stock {before after : Option MemberState}
    {happening : Option Happening} {outcome : Outcome} (move : Moves before happening after)
    (stock : (rulesOf after).Stock outcome) : (rulesOf before).Stock outcome ∨
      ∃ matcher outcomes, happening = some (.declared matcher outcomes) ∧ outcome ∈ outcomes := by
  cases move with
  | stays | readField | readProperty | written | attached => exact .inl stock
  | @made kind =>
    obtain ⟨rule, mem, -⟩ := stock
    cases kind <;> cases mem
  | called => exact .inl stock.of_after
  | @declared records rules matcher outcomes queue queued =>
    obtain ⟨rule, mem, there⟩ := stock
    rcases List.mem_cons.1 mem with rfl | mem
    · rw [OutcomeQueue.toList_of_ofList? queued] at there
      exact .inr ⟨matcher, outcomes, rfl, there⟩
    · exact .inl ⟨rule, mem, there⟩
  | forgotten =>
    obtain ⟨rule, mem, -⟩ := stock
    rcases before with _ | _ | _ | _ <;> cases mem

/-! ## Calls -/

/-- Where its history explains the state of a member, an accepted call has the outcome that the
    history has for it. -/
theorem Stage.resolved_of_explained {stage : Stage} {history : History} {id : MockId}
    {name : String} {arguments : Arguments} (explained : history.Explains (stage.stateOf? id name))
    (accepted : (stage.begin (.call id name arguments)).1.accepted = true) :
    ∃ mock m outcome, stage.At id name mock m ∧
      history.outcome? m.spec.result arguments = some outcome ∧
      (stage.begin (.call id name arguments)).1 = outcome.progress arguments := by
  obtain ⟨mock, m, records, rules, found, state, fits⟩ :=
    (stage.begin_effect (.call id name arguments)).at_of_accepted accepted
  rw [Stage.stateOf?_of_at found, state] at explained
  rw [Stage.begin_call_of_fits found state fits]
  refine ⟨mock, m, (m.draw rules arguments).1, found, ?_, rfl⟩
  rw [History.outcome?, MockMember.draw]
  rcases decisive : history.decisive? arguments with _ | rule
  · have undrawn : rules.draw arguments = none := explained.draw_none decisive
    rw [undrawn]
    rfl
  · obtain ⟨left, behind, leftAs, drawn⟩ := explained.draw_some decisive
    rw [show rules.draw arguments = some (left.outcomes.next, behind) from drawn]
    exact leftAs.next

/-- An accepted call has the outcome that follows from the history of the member: that of the
    latest rule that accepts it, and of its outcomes the one whose turn it is, or a placeholder if
    there is no such rule. -/
theorem Session.call_resolved {steps : List Step} {stage : Stage} {id : MockId} {name : String}
    {arguments : Arguments} (session : Session steps stage)
    (accepted : (stage.begin (.call id name arguments)).1.accepted = true) :
    ∃ mock m outcome, stage.At id name mock m ∧
      (historyOf id name steps).outcome? m.spec.result arguments = some outcome ∧
      (stage.begin (.call id name arguments)).1 = outcome.progress arguments :=
  Stage.resolved_of_explained (session.explained id name) accepted

theorem Session.call_resolved_dialogue :
    ∃ mock m outcome, (performed Sample.dialogue).2.At ⟨0⟩ "think" mock m ∧
      (historyOf ⟨0⟩ "think" (performed Sample.dialogue).1).outcome? m.spec.result
        (.ofList [.str "beauty"]) = some outcome ∧
      ((performed Sample.dialogue).2.begin (.call ⟨0⟩ "think" (.ofList [.str "beauty"]))).1 =
        outcome.progress (.ofList [.str "beauty"]) :=
  Session.call_resolved (.of_performed _) rfl

end Understudy
