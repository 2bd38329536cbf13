import Peg.Proofs.Derivation
import Peg.Proofs.Repetition

/-! Strict matching is the textbook's.

A matcher `Realizes` a form when what it does in strict mode is what the form
derives, on every text. Each combinator realizes the form that its name promises
when its parts realize theirs; only the repetition needs more, a body that consumes,
for its star to end. Since a form has one verdict at most, the verdict that the
matcher reaches is the only one. -/
namespace Peg

variable {α : Type}

/-- What an outcome says of the input, apart from its value. -/
def Outcome.verdict : Outcome α → Verdict
  | .success matched remaining _ => .consumed matched remaining
  | .partialSuccess _ matched remaining _ => .consumed matched remaining
  | .failure _ => .fail

namespace Outcome

variable {o : Outcome α}

theorem verdict_eq_consumed (h : o.isSuccess = true) :
    o.verdict = .consumed o.matched o.remaining := by
  cases o with
  | success | partialSuccess => rfl
  | failure => exact nomatch h

theorem verdict_eq_fail (h : o.isSuccess = false) : o.verdict = .fail := by
  cases o with
  | success | partialSuccess => exact nomatch h
  | failure => rfl

theorem exists_failure (h : o.verdict = .fail) : ∃ rest, o = .failure rest := by
  cases o with
  | failure rest => exact ⟨rest, rfl⟩
  | success | partialSuccess => exact nomatch h

@[simp] theorem verdict_withValue (a : α) : (o.withValue a).verdict = o.verdict := by
  cases o <;> rfl

end Outcome

/-- A strict match is never partial. -/
theorem Partitions.exists_success {o : Outcome α} {input matched rest : Text}
    (h : Partitions .strict input o) (hv : o.verdict = .consumed matched rest) :
    ∃ value, o = .success matched rest value := by
  cases h with
  | @success _ _ value _ =>
    obtain ⟨rfl, rfl⟩ := Verdict.consumed.inj hv
    exact ⟨value, rfl⟩
  | partialSuccess _ hmode => exact nomatch hmode
  | failure => exact nomatch hv

/-! ### Combinators -/

namespace Matcher
open Outcome

variable {first second body current forward : Matcher α} {f g : Form}

/-- In strict mode, the matcher does what the form derives. -/
def Realizes (m : Matcher α) (f : Form) : Prop :=
  ∀ input, Derives f input (m .strict input).result.verdict

theorem Realizes.consumed (h : body.Realizes f) {input : Text}
    (hs : (body .strict input).result.isSuccess = true) :
    Derives f input (.consumed (body .strict input).result.matched
      (body .strict input).result.remaining) := by
  rw [← verdict_eq_consumed hs]
  exact h input

theorem Realizes.fail (h : body.Realizes f) {input : Text}
    (hs : (body .strict input).result.isSuccess = false) : Derives f input .fail := by
  rw [← verdict_eq_fail hs]
  exact h input

theorem realizes_terminal [TreeLike α] (literal : Text) :
    Realizes (terminal literal : Matcher α) (.literal literal) := by
  intro input
  by_cases h : literal <+: input
  · obtain ⟨rest, rfl⟩ := h
    rw [result_terminal_strict]
    exact .literal rfl
  · rw [result_terminal_of_absent h]
    exact .literal_fail h

theorem realizes_empty [TreeLike α] : Realizes (empty : Matcher α) .nothing := by
  intro input
  rw [result_empty]
  exact .nothing

/-- The second part is strict whatever the first one left. -/
theorem follow_strict (input : Text) : follow first second .strict input =
    (second .strict (first .strict input).result.remaining).result := by
  have hmode (rest : Text) : followMode .strict input rest = .strict := ite_self _
  unfold follow
  simp only [hmode]

theorem Realizes.sequence [TreeLike α] (pa : first.Partitioning) (pb : second.Partitioning)
    (ha : first.Realizes f) (hb : second.Realizes g) :
    (sequence first second).Realizes (.seq f g) := by
  intro input
  have hsplit := pa.result_sequence pb .strict input
  rw [follow_strict] at hsplit
  rcases hsplit with ⟨h, hnone⟩ | ⟨a, b, hva, hvb, h⟩
  · rw [h]
    by_cases hs : (first .strict input).result.isSuccess = true
    · obtain ⟨a, hva⟩ := exists_value? hs
      have hnone' := hnone.resolve_left fun hno => nomatch hva.symm.trans hno
      exact .seq_fail_second (ha.consumed hs) (hb.fail (value?_eq_none.mp hnone'))
    · exact .seq_fail_first (ha.fail (eq_false_of_ne_true hs))
  · have hda := ha.consumed (isSuccess_of_value? hva)
    have hdb := hb.consumed (isSuccess_of_value? hvb)
    rw [h, (pa .strict input).skipped_strict, (pb .strict _).skipped_strict]
    exact .seq hda hdb

theorem Realizes.choice (ha : first.Realizes f) (hb : second.Realizes g) :
    (choice first second).Realizes (.alt f g) := by
  intro input
  rw [result_choice]
  by_cases hs : (first .strict input).result.isSuccess = true
  · rw [if_pos hs, verdict_eq_consumed hs]
    exact .alt_first (ha.consumed hs)
  · rw [if_neg hs]
    exact .alt_second (ha.fail (eq_false_of_ne_true hs)) (hb input)

theorem Realizes.optional [TreeLike α] (h : body.Realizes f) :
    (optional body).Realizes (.alt f .nothing) := by
  intro input
  rw [result_optional]
  by_cases hs : (body .strict input).result.isSuccess = true
  · rw [if_pos hs, verdict_eq_consumed hs]
    exact .alt_first (h.consumed hs)
  · rw [if_neg hs]
    exact .alt_second (h.fail (eq_false_of_ne_true hs)) .nothing

/-- The loop, run to its end, is the star. -/
theorem Realizes.star (h : body.Realizes f) (hp : body.Partitioning) {input rest : Text}
    {items : List α} (hiter : Iterates body input items rest)
    (hend : (body .strict rest).result.value? = none) :
    ∃ taken, taken ++ rest = input ∧ Star f input items.length taken rest := by
  induction hiter with
  | nil input => exact ⟨[], rfl, .nil (h.fail (value?_eq_none.mp hend))⟩
  | @cons input rest a items hv _ ih =>
    obtain ⟨taken, htaken, hstar⟩ := ih hend
    have hitem := hp .strict input
    have hparts := hitem.parts
    rw [hitem.skipped_strict, List.nil_append, ← htaken, ← List.append_assoc] at hparts
    exact ⟨_, hparts, .cons (h.consumed (isSuccess_of_value? hv)) hstar⟩

theorem Realizes.repetition [TreeLike α] (h : body.Realizes f) (hp : body.Partitioning)
    (hc : body.Consuming) (min : Nat) : (repetition body min).Realizes (.many min f) := by
  intro input
  obtain ⟨hiter, hend⟩ := chain_iterates hc hp input
  obtain ⟨taken, htaken, hstar⟩ := h.star hp hiter hend
  rw [result_repetition]
  by_cases hlen : (chain body input).result.1.length < min
  · rw [if_pos hlen]
    exact .many_fail hstar hlen
  · rw [if_neg hlen, split_chain htaken]
    exact .many hstar (Nat.not_lt.mp hlen)

theorem Realizes.ahead (h : forward.Realizes g) (rest : Text) : Derives (.ahead g) rest
    (if (forward .strict rest).result.isSuccess = true then .consumed [] rest else .fail) := by
  by_cases hs : (forward .strict rest).result.isSuccess = true
  · rw [if_pos hs]
    exact .ahead (h.consumed hs)
  · rw [if_neg hs]
    exact .ahead_fail (h.fail (eq_false_of_ne_true hs))

theorem Realizes.notAhead (h : forward.Realizes g) (rest : Text) : Derives (.notAhead g) rest
    (if (forward .strict rest).result.isSuccess = false then .consumed [] rest else .fail) := by
  by_cases hs : (forward .strict rest).result.isSuccess = false
  · rw [if_pos hs]
    exact .notAhead (h.fail hs)
  · rw [if_neg hs]
    exact .notAhead_fail (h.consumed (eq_true_of_ne_false hs))

/-- A guard is a sequence whose second part `look` consumes nothing. -/
theorem Realizes.guarded {look : Form} {expected : Bool} (h : current.Realizes f)
    (hlook : ∀ rest, Derives look rest
      (if (forward .strict rest).result.isSuccess = expected then .consumed [] rest else .fail)) :
    (guarded expected current forward).Realizes (.seq f look) := by
  intro input
  rw [result_guarded]
  by_cases hs : (current .strict input).result.isSuccess = true
  · have hcurrent := h.consumed hs
    have hnext := hlook (current .strict input).result.remaining
    rw [if_pos hs]
    split at hnext
    next hexpected =>
      rw [if_pos hexpected, verdict_eq_consumed hs,
        ← List.append_nil (current .strict input).result.matched]
      exact .seq hcurrent hnext
    next hexpected =>
      rw [if_neg hexpected]
      exact .seq_fail_second hcurrent hnext
  · rw [if_neg hs]
    exact .seq_fail_first (h.fail (eq_false_of_ne_true hs))

theorem Realizes.visit (node : Expr α) (h : body.Realizes f) : (visit node body).Realizes f := by
  intro input
  rw [result_visit]
  split
  · exact h input
  · rw [verdict_withValue]
    exact h input

end Matcher

/-! ### Expressions -/

namespace Expr

variable [TreeLike α]

theorem attempt_realizes {e : Expr α} (h : e.WellFormed) : e.attempt.Realizes e.form := by
  induction e with
  | terminal mark literal => exact Matcher.realizes_terminal literal
  | empty mark => exact Matcher.realizes_empty
  | sequence mark a b iha ihb =>
    exact .sequence a.run_partitioning b.run_partitioning ((iha h.2.1).visit a)
      ((ihb h.2.2).visit b)
  | choice mark a b iha ihb => exact ((iha h.2.1).visit a).choice ((ihb h.2.2).visit b)
  | optional mark body ih => exact ((ih h.2).visit body).optional
  | repetition mark body min ih =>
    obtain ⟨_, hn, hwf⟩ := h
    exact ((ih hwf).visit body).repetition body.run_partitioning (run_consuming hwf hn) min
  | ahead mark a b iha ihb => exact ((iha h.2.1).visit a).guarded ((ihb h.2.2).visit b).ahead
  | notAhead mark a b iha ihb =>
    exact ((iha h.2.1).visit a).guarded ((ihb h.2.2).visit b).notAhead
  | production mark body ih => exact ih h.2.2

theorem run_realizes {e : Expr α} (h : e.WellFormed) : e.run.Realizes e.form :=
  (attempt_realizes h).visit e

end Expr

/-- **Strict matching is exactly that of parsing expressions.** A grammar succeeds just where its
form consumes, with the same text and the same rest, and fails just where its form fails; and its
form has exactly one verdict on every text. -/
theorem Grammar.parseIn_strict_iff_derives [TreeLike α] (g : Grammar α) (input : Text) :
    (∀ matched rest, (∃ value, g.parseIn .strict input = .success matched rest value) ↔
      Derives g.expr.form input (.consumed matched rest)) ∧
    ((∃ rest, g.parseIn .strict input = .failure rest) ↔ Derives g.expr.form input .fail) ∧
    ∃ v, Derives g.expr.form input v ∧ ∀ v', Derives g.expr.form input v' → v' = v := by
  have hderives : Derives g.expr.form input (g.parseIn .strict input).verdict :=
    Expr.run_realizes g.wellFormed input
  have hparts : Partitions .strict input (g.parseIn .strict input) :=
    g.expr.run_partitioning .strict input
  refine ⟨fun matched rest => ⟨?_, fun h => ?_⟩, ⟨?_, fun h => ?_⟩,
    _, hderives, fun v' h => g.expr.form.decides h hderives⟩
  · rintro ⟨value, h⟩
    rw [h] at hderives
    exact hderives
  · exact hparts.exists_success (g.expr.form.decides hderives h)
  · rintro ⟨rest, h⟩
    rw [h] at hderives
    exact hderives
  · exact Outcome.exists_failure (g.expr.form.decides hderives h)

end Peg
