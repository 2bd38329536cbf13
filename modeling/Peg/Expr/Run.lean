import Peg.Matcher

/-! Running an expression.

`attempt` matches an expression without its own listener; `run` also records the
visit and calls the listener. The parts of an expression are run, but the body of a
production is attempted. -/
namespace Peg.Expr

variable {α : Type} [TreeLike α]

def attempt : Expr α → Matcher α
  | .terminal _ literal => .terminal literal
  | .empty _ => .empty
  | .sequence _ first second =>
    .sequence (.visit first first.attempt) (.visit second second.attempt)
  | .choice _ first second => .choice (.visit first first.attempt) (.visit second second.attempt)
  | .optional _ body => .optional (.visit body body.attempt)
  | .repetition _ body min => .repetition (.visit body body.attempt) min
  | .ahead _ current forward =>
    .guarded true (.visit current current.attempt) (.visit forward forward.attempt)
  | .notAhead _ current forward =>
    .guarded false (.visit current current.attempt) (.visit forward forward.attempt)
  | .production _ body => body.attempt

def run (e : Expr α) : Matcher α := .visit e e.attempt

/-! ### The parts of an expression are run -/

section Parts
variable (mark : Mark α) (a b : Expr α)

theorem attempt_sequence : attempt (.sequence mark a b) = .sequence a.run b.run := rfl

theorem attempt_choice : attempt (.choice mark a b) = .choice a.run b.run := rfl

theorem attempt_optional : attempt (.optional mark a) = .optional a.run := rfl

theorem attempt_repetition (min : Nat) :
    attempt (.repetition mark a min) = .repetition a.run min := rfl

theorem attempt_ahead : attempt (.ahead mark a b) = .guarded true a.run b.run := rfl

theorem attempt_notAhead : attempt (.notAhead mark a b) = .guarded false a.run b.run := rfl

end Parts

theorem attempt_remark (mark : Mark α) (e : Expr α) : (e.remark mark).attempt = e.attempt := by
  cases e <;> rfl

end Peg.Expr
