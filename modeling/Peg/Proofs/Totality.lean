import Mathlib.Tactic.TFAE
import Peg.Diagnosis
import Peg.Proofs.Indifference
import Peg.Proofs.Repetition

/-! What nullability means where nothing is looked ahead at.

In general the flag says only that an expression may match nothing. Without
look-ahead it says more: a flagged expression never fails (`Matcher.Total`), whatever
the text and the mode. One with look-ahead can, since it has a say in where it
matches nothing.

With `nullable_sound` for the other direction, `Grammar.nullable_exact` has four ways
to say that a grammar is nullable, and what follows for repeating and examining it. -/
namespace Peg

variable {α : Type}

namespace Expr

/-- No node looks ahead. -/
def LookaheadFree (e : Expr α) : Prop :=
  ∀ node ∈ e.nodes, node.kind ≠ .ahead ∧ node.kind ≠ .notAhead

instance (e : Expr α) : Decidable e.LookaheadFree :=
  inferInstanceAs (Decidable (∀ node ∈ e.nodes, node.kind ≠ .ahead ∧ node.kind ≠ .notAhead))

end Expr

/-! ### Combinators -/

namespace Matcher
open Outcome

variable {first second body : Matcher α}

/-- Never fails. -/
def Total (m : Matcher α) : Prop := ∀ mode input, (m mode input).result.isSuccess = true

theorem total_terminal_nil [TreeLike α] : Total (terminal [] : Matcher α) := by
  intro mode input
  rw [result_terminal_nil]
  rfl

theorem total_empty [TreeLike α] : Total (empty : Matcher α) := by
  intro mode input
  rw [result_empty]
  rfl

/-- Whatever the first part leaves, and whichever mode that makes for the second. -/
theorem Total.sequence [TreeLike α] (ha : first.Total) (hb : second.Total) :
    (sequence first second).Total :=
  fun mode input => isSuccess_sequence.mpr ⟨ha mode input, hb _ _⟩

/-- It is enough that one of the alternatives never fails. -/
theorem total_choice (h : first.Total ∨ second.Total) : (choice first second).Total := by
  intro mode input
  rw [result_choice]
  by_cases hs : (first mode input).result.isSuccess = true
  · rw [if_pos hs]
    exact hs
  · rw [if_neg hs]
    rcases h with h | h
    · exact absurd (h mode input) hs
    · exact h mode input

theorem total_optional [TreeLike α] : (optional body).Total := fun _ _ => isSuccess_optional

/-- No items are enough. -/
theorem total_repetition_zero [TreeLike α] : (repetition body 0).Total := by
  intro mode input
  rw [result_repetition, if_neg (Nat.not_lt_zero _)]
  exact isSuccess_of_value? (value?_ofParts ..)

/-- What is asked for next is always there. -/
theorem Total.ahead (h : body.Total) {forward : Matcher α} (h' : forward.Total) :
    (guarded true body forward).Total := by
  intro mode input
  rw [result_guarded, if_pos (h mode input), if_pos (h' .strict _)]
  exact h mode input

theorem Total.visit (node : Expr α) (h : body.Total) : (visit node body).Total := by
  intro mode input
  rw [isSuccess_visit]
  exact h mode input

end Matcher

/-! ### Expressions -/

namespace Expr

variable [TreeLike α]

theorem attempt_total {e : Expr α} (h : e.WellFormed) (hfree : e.LookaheadFree)
    (hn : e.nullable = true) : e.attempt.Total := by
  induction e with
  | terminal mark literal =>
    obtain rfl : literal = [] := List.isEmpty_iff.mp (h.1.symm.trans hn)
    exact Matcher.total_terminal_nil
  | empty mark => exact Matcher.total_empty
  | sequence mark a b iha ihb =>
    obtain ⟨hflag, hwa, hwb⟩ := h
    obtain ⟨ha, hb⟩ := forall_mem_parts hfree
    obtain ⟨hna, hnb⟩ := Bool.and_eq_true_iff.mp (hflag.symm.trans hn)
    exact ((iha hwa ha hna).visit a).sequence ((ihb hwb hb hnb).visit b)
  | choice mark a b iha ihb =>
    obtain ⟨hflag, hwa, hwb⟩ := h
    obtain ⟨ha, hb⟩ := forall_mem_parts hfree
    refine Matcher.total_choice ?_
    rcases Bool.or_eq_true_iff.mp (hflag.symm.trans hn) with hna | hnb
    · exact .inl ((iha hwa ha hna).visit a)
    · exact .inr ((ihb hwb hb hnb).visit b)
  | optional mark body => exact Matcher.total_optional
  | repetition mark body min =>
    obtain rfl : min = 0 := eq_of_beq (h.1.symm.trans hn)
    exact Matcher.total_repetition_zero
  | ahead => exact absurd rfl (hfree _ (self_mem_nodes _)).1
  | notAhead => exact absurd rfl (hfree _ (self_mem_nodes _)).2
  | production mark body ih =>
    exact ih h.2.2 (forall_mem_body hfree) (h.1.symm.trans hn)

theorem run_total {e : Expr α} (h : e.WellFormed) (hfree : e.LookaheadFree)
    (hn : e.nullable = true) : e.run.Total := (attempt_total h hfree hn).visit e

end Expr

/-! ### Grammars -/

namespace Grammar

theorem times_error_iff (g : Grammar α) (min : Nat) :
    (∃ error, g.times min = .error error) ↔ g.nullable = true := by
  cases hn : g.nullable with
  | false =>
    refine iff_of_false ?_ Bool.false_ne_true
    rintro ⟨error, h⟩
    rw [times_atLeast hn] at h
    cases h
  | true =>
    have hflag : ¬ g.nullable = false := fun h => Bool.false_ne_true (h.symm.trans hn)
    exact iff_of_true ⟨.nullableRepetition min g, dif_neg hflag⟩ rfl

variable [TreeLike α]

/-- A success on nothing gives the flag away. -/
theorem nullable_of_matched_nil {g : Grammar α} {mode : Mode} {input : Text}
    (hs : (g.parseIn mode input).isSuccess = true) (hm : (g.parseIn mode input).matched = []) :
    g.nullable = true := by
  refine eq_true_of_ne_false fun hn => ?_
  exact Expr.run_consuming g.wellFormed hn mode input hs hm

theorem nullable_of_isSuccess_nil {g : Grammar α} {mode : Mode}
    (hs : (g.parseIn mode []).isSuccess = true) : g.nullable = true :=
  nullable_of_matched_nil hs (g.expr.run_partitioning mode []).of_nil.1

/-- **Without look-ahead, nullability is exact.** A grammar is flagged just when it succeeds on the
empty input, just when it succeeds on every input, and just when it ever succeeds on nothing. So a
repetition is refused just when its loop could come to an item that leaves all it was given; and
there is never anything to expect just when the grammar is nullable. -/
theorem nullable_exact (g : Grammar α) (hfree : g.expr.LookaheadFree) :
    [g.nullable = true,
      (g.parseIn .strict []).isSuccess = true,
      (g.parseIn .lenient []).isSuccess = true,
      ∀ mode input, (g.parseIn mode input).isSuccess = true,
      ∃ mode input, (g.parseIn mode input).isSuccess = true ∧
        (g.parseIn mode input).matched = []].TFAE ∧
    (∀ min, (∃ error, g.times min = .error error) ↔
      ∃ input items rest, Matcher.Iterates g.run input items rest ∧
        (g.parseIn .strict rest).isSuccess = true ∧ (g.parseIn .strict rest).remaining = rest) ∧
    ((∀ input, g.diagnose input = none) ↔ g.nullable = true) := by
  have hparts : g.run.Partitioning := g.expr.run_partitioning
  have htotal (hn : g.nullable = true) : g.run.Total := Expr.run_total g.wellFormed hfree hn
  refine ⟨?_, fun min => ?_, ?_⟩
  · tfae_have 1 → 4 := htotal
    tfae_have 4 → 2 := fun h => h .strict []
    tfae_have 4 → 3 := fun h => h .lenient []
    tfae_have 2 → 1 := nullable_of_isSuccess_nil
    tfae_have 3 → 1 := nullable_of_isSuccess_nil
    tfae_have 4 → 5 := fun h => ⟨.strict, [], h .strict [], (hparts .strict []).of_nil.1⟩
    tfae_have 5 → 1 := fun ⟨_, _, hs, hm⟩ => nullable_of_matched_nil hs hm
    tfae_finish
  · rw [times_error_iff]
    constructor
    · intro hn
      exact ⟨[], [], [], .nil [], htotal hn .strict [], (hparts .strict []).of_nil.2⟩
    · rintro ⟨_, _, rest, _, hs, hidle⟩
      have hrest := (hparts .strict rest).byteSize_remaining.mp (congrArg Text.byteSize hidle)
      exact nullable_of_matched_nil hs hrest
  · simp only [diagnose_eq_none]
    exact ⟨fun h => nullable_of_isSuccess_nil (h []), fun hn => htotal hn .lenient⟩

/-- A list that may be empty never fails, and is not to be repeated; one item may be missed. -/
theorem nullable_exact_lists :
    let item : Grammar Tree := (terminal ['a']).orElse (terminal ['b'])
    let many : Grammar Tree := (item.atLeast 0 rfl).andThen (item.atLeast 2 rfl).optionally
    many.expr.LookaheadFree ∧ many.nullable = true ∧
      (∀ input, (many.parseIn .strict input).isSuccess = true) ∧
      (∃ error, many.times 1 = .error error) ∧
    item.expr.LookaheadFree ∧ item.nullable = false ∧ ¬ ∀ input, item.diagnose input = none := by
  intro item many
  have hmany : many.expr.LookaheadFree := by decide +kernel
  have hitem : item.expr.LookaheadFree := by decide +kernel
  obtain ⟨htfae, htimes, _⟩ := nullable_exact many hmany
  have hall : many.nullable = true ↔ ∀ mode input, (many.parseIn mode input).isSuccess = true :=
    htfae.out 0 3
  refine ⟨hmany, rfl, hall.mp rfl .strict, ?_, hitem, rfl, ?_⟩
  · exact (htimes 1).mpr ⟨[], [], [], .nil [], by decide +kernel, by decide +kernel⟩
  · rw [(nullable_exact item hitem).2.2]
    exact Bool.false_ne_true

/-- A look-ahead may refuse where there is nothing to match. -/
example : (empty.before (terminal ['a']) : Grammar Tree).nullable = true ∧
    ((empty.before (terminal ['a']) : Grammar Tree).parse []).isSuccess = false := by
  decide +kernel

end Grammar

end Peg
