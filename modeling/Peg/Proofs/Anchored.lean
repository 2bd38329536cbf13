import Peg.Proofs.Indifference
import Peg.Proofs.Repetition

/-! Expressions that start where they are put.

A repetition is always strict, so a token that is one starts where it is looked for,
even when the parse around it is lenient. The same goes for an expression that has
repetitions, or nothing at all, wherever a lenient match would look further on:
everywhere on its leading edge it is `anchored`. What stands behind the edge may be
anything, since it is strict by then.

An anchored expression takes no notice of the mode (`Matcher.Steady`): it comes to the
same outcome in both, value included, after the same visits and the same calls of
listeners. `Grammar.run_anchored`. -/
namespace Peg

variable {α β γ : Type}

/-- No literal on the leading edge is looked for. The second part of a sequence belongs to the edge
if the first part may match nothing. -/
def Expr.anchored : Expr α → Bool
  | .terminal _ literal => literal.isEmpty
  | .empty _ => true
  | .sequence _ first second => first.anchored && (!first.nullable || second.anchored)
  | .choice _ first second => first.anchored && second.anchored
  | .optional _ body => body.anchored
  | .repetition .. => true
  | .ahead _ current _ => current.anchored
  | .notAhead _ current _ => current.anchored
  | .production _ body => body.anchored

/-! ### The same run -/

namespace Recorded

@[simp] theorem calls_bind (r : Recorded (Entry α) β) (f : β → Recorded (Entry α) γ) :
    (r >>= f).calls = r.calls ++ (f r.result).calls := by
  simp [calls]

/-- The same result, and the same events and calls on the way to it. -/
structure SameRun (r s : Recorded (Entry α) β) : Prop where
  result : r.result = s.result
  events : r.events = s.events
  calls : r.calls = s.calls

namespace SameRun

variable {r s : Recorded (Entry α) β}

theorem refl (r : Recorded (Entry α) β) : SameRun r r := ⟨rfl, rfl, rfl⟩

theorem bind {f g : β → Recorded (Entry α) γ} (h : SameRun r s)
    (hfg : SameRun (f s.result) (g s.result)) : SameRun (r >>= f) (s >>= g) := by
  obtain ⟨hresult, hevents, hcalls⟩ := h
  refine ⟨?_, ?_, ?_⟩
  · rw [result_bind, result_bind, hresult, hfg.result]
  · rw [events_bind, events_bind, hresult, hevents, hfg.events]
  · rw [calls_bind, calls_bind, hresult, hcalls, hfg.calls]

end SameRun

end Recorded

/-! ### Combinators -/

namespace Matcher
open Outcome Recorded

variable {first second body current forward : Matcher α}

/-- Runs alike in both modes. -/
def Steady (m : Matcher α) : Prop := ∀ input, SameRun (m .lenient input) (m .strict input)

theorem steady_terminal_nil [TreeLike α] : Steady (terminal [] : Matcher α) := by
  intro input
  unfold terminal
  rw [offset?_nil, offset?_nil]
  exact .refl _

theorem steady_empty [TreeLike α] : Steady (empty : Matcher α) := fun _ => .refl _

/-- The second part stands on the leading edge only where the first one matches nothing. -/
theorem Steady.sequence [TreeLike α] (pa : first.Partitioning) (ha : first.Steady)
    (hb : first.Consuming ∨ second.Steady) : (sequence first second).Steady := by
  intro input
  refine .bind (ha input) ?_
  have hparts := pa .lenient input
  have hlenient := hparts.followMode_eq
  rw [(ha input).result] at hparts hlenient
  have hstrict : followMode .strict input (first .strict input).result.remaining = .strict :=
    ite_self _
  cases hv : (first .strict input).result.value? with
  | none => exact .refl _
  | some a =>
    dsimp only
    rw [hlenient, hstrict]
    by_cases hm : (first .strict input).result.matched = []
    · rw [if_pos hm]
      rcases hb with hc | hb
      · exact absurd hm (hc .strict input (isSuccess_of_value? hv))
      · exact .bind (hb _) (.refl _)
    · rw [if_neg hm]
      exact .refl _

theorem Steady.choice (ha : first.Steady) (hb : second.Steady) : (choice first second).Steady := by
  intro input
  refine .bind (ha input) ?_
  split
  · exact .refl _
  · exact hb input

theorem Steady.optional [TreeLike α] (h : body.Steady) : (optional body).Steady :=
  fun input => .bind (h input) (.refl _)

/-- The items of a repetition are strict in any case. -/
theorem steady_repetition [TreeLike α] (min : Nat) : (repetition body min).Steady :=
  fun _ => .refl _

/-- So is what is looked at ahead. -/
theorem Steady.guarded (expected : Bool) (h : current.Steady) :
    (guarded expected current forward).Steady := fun input => .bind (h input) (.refl _)

/-- Events do not show the mode. -/
theorem Steady.visit (node : Expr α) (h : body.Steady) : (visit node body).Steady :=
  fun input => .bind (h input) (.bind ⟨rfl, rfl, rfl⟩ (.refl _))

end Matcher

/-! ### Expressions -/

namespace Expr

variable [TreeLike α]

theorem attempt_steady {e : Expr α} (h : e.WellFormed) (ha : e.anchored = true) :
    e.attempt.Steady := by
  induction e with
  | terminal mark literal =>
    obtain rfl : literal = [] := List.isEmpty_iff.mp ha
    exact Matcher.steady_terminal_nil
  | empty mark => exact Matcher.steady_empty
  | sequence mark a b iha ihb =>
    obtain ⟨_, hwa, hwb⟩ := h
    obtain ⟨hfirst, hedge⟩ := Bool.and_eq_true_iff.mp ha
    refine ((iha hwa hfirst).visit a).sequence a.run_partitioning ?_
    rcases Bool.or_eq_true_iff.mp hedge with hn | hsecond
    · exact .inl (run_consuming hwa (by simpa using hn))
    · exact .inr ((ihb hwb hsecond).visit b)
  | choice mark a b iha ihb =>
    obtain ⟨hfirst, hsecond⟩ := Bool.and_eq_true_iff.mp ha
    exact ((iha h.2.1 hfirst).visit a).choice ((ihb h.2.2 hsecond).visit b)
  | optional mark body ih => exact ((ih h.2 ha).visit body).optional
  | repetition mark body min _ => exact Matcher.steady_repetition min
  | ahead mark a b iha _ => exact ((iha h.2.1 ha).visit a).guarded true
  | notAhead mark a b iha _ => exact ((iha h.2.1 ha).visit a).guarded false
  | production mark body ih => exact ih h.2.2 ha

theorem run_steady {e : Expr α} (h : e.WellFormed) (ha : e.anchored = true) : e.run.Steady :=
  (attempt_steady h ha).visit e

end Expr

/-! ### Grammars -/

namespace Grammar
open ReadyMade

/-- **An anchored grammar takes no notice of the mode.** Leniently it comes to the very outcome that
it comes to strictly, after the same visits and the same calls; so it never skips. -/
theorem run_anchored [TreeLike α] (g : Grammar α) (h : g.expr.anchored = true) (input : Text) :
    g.parseIn .lenient input = g.parseIn .strict input ∧
    (g.run .lenient input).events = (g.run .strict input).events ∧
    (g.run .lenient input).calls = (g.run .strict input).calls ∧
    (g.parse input).isPartial = false := by
  have hrun := Expr.run_steady g.wellFormed h input
  refine ⟨hrun.result, hrun.events, hrun.calls, Bool.eq_false_iff.mpr fun hp => ?_⟩
  have hparts := g.expr.run_partitioning .strict input
  rw [← hrun.result] at hparts
  exact hparts.skipped_ne_nil hp hparts.skipped_strict

/-- A name stands at the front or nowhere, although its listener would see the difference; and so
does a number whose point, taken by itself, would be looked for. -/
theorem run_anchored_tokens :
    let number : Grammar Tree := (empty.andThen digits).andThen ((terminal ['.']).andThen digits)
    (identifier.expr.anchored = true ∧ identifier.parse " x_1".toList = .failure " x_1".toList) ∧
    number.expr.anchored = true ∧ (terminal ['.'] : Grammar Tree).expr.anchored = false ∧
      number.parse "1.5+2".toList = number.parseIn .strict "1.5+2".toList ∧
      (number.run .lenient "1.5+2".toList).events = (number.run .strict "1.5+2".toList).events := by
  intro number
  have hnumber := run_anchored number rfl "1.5+2".toList
  refine ⟨⟨rfl, ?_⟩, rfl, rfl, hnumber.1, hnumber.2.1⟩
  have hstrict : identifier.parseIn .strict " x_1".toList = .failure " x_1".toList := by
    decide +kernel
  exact (run_anchored identifier rfl " x_1".toList).1.trans hstrict

end Grammar

end Peg
