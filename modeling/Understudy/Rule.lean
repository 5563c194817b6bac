import Understudy.Script

/-!
# Rules

A rule says which calls it is for and what becomes of them. Its outcomes are drawn one after the
other, and the last one again and again. Of all rules of a member the one declared last that
accepts a call is drawn from.

* `Rules.draw` is the only way in which rules change once they are declared.
-/

namespace Understudy

/-- Which calls a rule accepts. -/
inductive Matcher where
  | any
  /-- The calls with arguments equal to these. -/
  | exact (arguments : Arguments)
  | satisfying (p : Arguments → Bool)

/-- Whether the rule accepts the call. -/
def Matcher.accepts : Matcher → Arguments → Bool
  | .any, _ => true
  | .exact rehearsed, arguments => rehearsed.same arguments
  | .satisfying p, arguments => p arguments

/-- Outcomes that are drawn in order, the last one without end. -/
structure OutcomeQueue where
  /-- The outcome that is drawn next. -/
  next : Outcome
  /-- The outcomes behind it. -/
  rest : List Outcome

namespace OutcomeQueue

/-- The queue of the outcomes, if there are any. -/
def ofList? : List Outcome → Option OutcomeQueue
  | [] => none
  | next :: rest => some ⟨next, rest⟩

/-- The outcomes that are still to come. -/
def toList (queue : OutcomeQueue) : List Outcome := queue.next :: queue.rest

/-- The queue after a draw. -/
def advance (queue : OutcomeQueue) : OutcomeQueue :=
  match queue.rest with
  | [] => queue
  | next :: rest => ⟨next, rest⟩

end OutcomeQueue

/-- A rule of a member. -/
structure Rule where
  /-- Which calls it accepts. -/
  matcher : Matcher
  /-- What becomes of them. -/
  outcomes : OutcomeQueue

/-- The rules of a member, the one declared last at the head. -/
abbrev Rules := List Rule

/-- Draws the outcome of a call from the first rule that accepts it. -/
def Rules.draw (arguments : Arguments) : Rules → Option (Outcome × Rules)
  | [] => none
  | rule :: rules =>
    if rule.matcher.accepts arguments then
      some (rule.outcomes.next, { rule with outcomes := rule.outcomes.advance } :: rules)
    else (draw arguments rules).map fun (outcome, rules) => (outcome, rule :: rules)

end Understudy
