import Peg.Proofs.Repetition
import Peg.Grammar.ReadyMade

/-! What a match begins with.

A set `Opens` a text when one of its literals stands at the front. What an expression
matches, if it is anything, opens with a literal of its first set
(`attempt_opensWith`).

A sequence is the case to look at. Where its first part matches nothing, the match is
that of the second part, whose literals belong to the first set only if the first
part is flagged nullable. Without the flag the first part consumes, so this does not
happen; here the first set rests on what the flags promise. -/
namespace Peg

/-- One of the literals stands at the front of the text. -/
def LiteralSet.Opens (s : LiteralSet) (text : Text) : Prop := ∃ literal ∈ s, literal <+: text

namespace LiteralSet.Opens

variable {s t : LiteralSet} {text : Text}

theorem trans (h : s.Opens text) {longer : Text} (hl : text <+: longer) : s.Opens longer := by
  obtain ⟨literal, hmem, hstands⟩ := h
  exact ⟨literal, hmem, hstands.trans hl⟩

theorem union_left (h : s.Opens text) (t : LiteralSet) : (s ∪ t).Opens text := by
  obtain ⟨literal, hmem, hstands⟩ := h
  exact ⟨literal, mem_union.mpr (.inl hmem), hstands⟩

theorem union_right (h : t.Opens text) (s : LiteralSet) : (s ∪ t).Opens text := by
  obtain ⟨literal, hmem, hstands⟩ := h
  exact ⟨literal, mem_union.mpr (.inr hmem), hstands⟩

end LiteralSet.Opens

variable {α : Type}

/-! ### Combinators -/

namespace Matcher
open Outcome

variable {first second body current forward : Matcher α} {s t : LiteralSet}

/-- What is matched opens with a literal of the set, unless it is nothing. -/
def OpensWith (s : LiteralSet) (m : Matcher α) : Prop :=
  ∀ mode input, (m mode input).result.matched ≠ [] → s.Opens (m mode input).result.matched

theorem OpensWith.union_left (h : body.OpensWith s) (t : LiteralSet) : body.OpensWith (s ∪ t) :=
  fun mode input hm => (h mode input hm).union_left t

theorem OpensWith.union_right (h : body.OpensWith t) (s : LiteralSet) : body.OpensWith (s ∪ t) :=
  fun mode input hm => (h mode input hm).union_right s

theorem opensWith_terminal [TreeLike α] {literal : Text} (h : literal ≠ [] → literal ∈ s) :
    OpensWith s (terminal literal : Matcher α) := by
  intro mode input hm
  rw [result_terminal] at hm ⊢
  cases hn : offset? literal mode input with
  | none =>
    rw [hn] at hm
    exact absurd rfl hm
  | some n =>
    obtain ⟨front, back, rfl, rfl, _⟩ := offset?_eq_some hn
    simp only [hn, split_byteSize, matched_ofParts] at hm ⊢
    exact ⟨literal, h hm, List.prefix_refl literal⟩

theorem opensWith_empty [TreeLike α] : OpensWith s (empty : Matcher α) := by
  intro mode input hm
  rw [result_empty] at hm
  exact absurd rfl hm

/-- What the second part opens with does not matter where the first one consumes. -/
theorem OpensWith.sequence [TreeLike α] (pa : first.Partitioning) (pb : second.Partitioning)
    (ha : first.OpensWith s) (hb : first.Consuming ∨ second.OpensWith s) :
    (sequence first second).OpensWith s := by
  intro mode input hm
  rcases pa.result_sequence pb mode input with ⟨hf, _⟩ | ⟨a, b, hva, _, hj⟩
  · rw [hf] at hm
    exact absurd rfl hm
  · rw [hj, matched_ofParts] at hm ⊢
    by_cases hfirst : (first mode input).result.matched = []
    · rcases hb with hc | hb
      · exact absurd hfirst (hc mode input (isSuccess_of_value? hva))
      · rw [hfirst, List.nil_append] at hm ⊢
        exact hb _ _ hm
    · exact (ha mode input hfirst).trans (List.prefix_append _ _)

theorem OpensWith.choice (ha : first.OpensWith s) (hb : second.OpensWith s) :
    (choice first second).OpensWith s := by
  intro mode input hm
  rw [result_choice] at hm ⊢
  split at hm
  next hs =>
    rw [if_pos hs]
    exact ha mode input hm
  next hs =>
    rw [if_neg hs]
    exact hb mode input hm

theorem OpensWith.optional [TreeLike α] (h : body.OpensWith s) : (optional body).OpensWith s := by
  intro mode input hm
  rw [result_optional] at hm ⊢
  split at hm
  next hs =>
    rw [if_pos hs]
    exact h mode input hm
  next => exact absurd rfl hm

/-- What a chain takes begins with its first item. -/
theorem Partitioning.prefix_chain (hp : body.Partitioning) {input taken : Text} {a : α}
    (hv : (body .strict input).result.value? = some a)
    (hless : (body .strict input).result.remaining.length < input.length)
    (htaken : taken ++ (Matcher.chain body input).result.2 = input) :
    (body .strict input).result.matched <+: taken := by
  obtain ⟨more, hmore⟩ := hp.chain (body .strict input).result.remaining
  have hparts := (hp .strict input).parts
  rw [(hp .strict input).skipped_strict, List.nil_append] at hparts
  rw [result_chain_some hv hless] at htaken
  have hsplit : (body .strict input).result.matched ++ more ++
      (Matcher.chain body (body .strict input).result.remaining).result.2 =
        taken ++ (Matcher.chain body (body .strict input).result.remaining).result.2 := by
    rw [List.append_assoc, hmore, hparts]
    exact htaken.symm
  exact ⟨more, List.append_cancel_right hsplit⟩

theorem OpensWith.repetition [TreeLike α] (hp : body.Partitioning) (hc : body.Consuming)
    (h : body.OpensWith s) (min : Nat) : (repetition body min).OpensWith s := by
  intro mode input hm
  obtain ⟨taken, htaken⟩ := hp.chain input
  rw [result_repetition] at hm ⊢
  by_cases hlen : (chain body input).result.1.length < min
  · rw [if_pos hlen] at hm
    exact absurd rfl hm
  rw [if_neg hlen, split_chain htaken] at hm ⊢
  cases hv : (body .strict input).result.value? with
  | none =>
    rw [result_chain_none hv] at htaken
    exact absurd (List.append_left_eq_self.mp htaken) hm
  | some a =>
    have hs := isSuccess_of_value? hv
    have hless := hc.length_remaining_lt hp hs
    exact (h .strict input (hc .strict input hs)).trans (hp.prefix_chain hv hless htaken)

theorem OpensWith.guarded (expected : Bool) (h : current.OpensWith s) :
    (guarded expected current forward).OpensWith s := by
  intro mode input hm
  rw [result_guarded] at hm ⊢
  split at hm
  next hs =>
    rw [if_pos hs]
    split at hm
    next hf =>
      rw [if_pos hf]
      exact h mode input hm
    next => exact absurd rfl hm
  next => exact absurd rfl hm

theorem OpensWith.visit (node : Expr α) (h : body.OpensWith s) :
    (visit node body).OpensWith s := by
  intro mode input hm
  rw [matched_visit] at hm ⊢
  exact h mode input hm

end Matcher

/-! ### Expressions -/

namespace Expr

theorem nil_not_mem_first (e : Expr α) : [] ∉ e.first := by
  induction e with
  | terminal mark literal => cases literal <;> simp [first]
  | empty mark => simp [first]
  | sequence mark a b iha ihb | ahead mark a b iha ihb =>
    rw [first]
    split
    · simp [iha, ihb]
    · exact iha
  | choice mark a b iha ihb => simp [first, iha, ihb]
  | optional mark body ih => exact ih
  | repetition mark body min ih => exact ih
  | notAhead mark a b iha _ => exact iha
  | production mark body ih => exact ih

variable [TreeLike α]

theorem attempt_opensWith {e : Expr α} (h : e.WellFormed) : e.attempt.OpensWith e.first := by
  induction e with
  | terminal mark literal =>
    refine Matcher.opensWith_terminal fun hne => ?_
    simp [first, hne]
  | empty mark => exact Matcher.opensWith_empty
  | sequence mark a b iha ihb =>
    have ha := (iha h.2.1).visit a
    have hb := (ihb h.2.2).visit b
    rw [first]
    split
    next =>
      exact (ha.union_left _).sequence a.run_partitioning b.run_partitioning
        (.inr (hb.union_right _))
    next hn =>
      exact ha.sequence a.run_partitioning b.run_partitioning
        (.inl (run_consuming h.2.1 (eq_false_of_ne_true hn)))
  | choice mark a b iha ihb =>
    exact (((iha h.2.1).visit a).union_left _).choice (((ihb h.2.2).visit b).union_right _)
  | optional mark body ih => exact ((ih h.2).visit body).optional
  | repetition mark body min ih =>
    obtain ⟨_, hn, hwf⟩ := h
    exact ((ih hwf).visit body).repetition body.run_partitioning (run_consuming hwf hn) min
  | ahead mark a b iha _ =>
    have ha := (iha h.2.1).visit a
    rw [first]
    split
    · exact (ha.union_left _).guarded true
    · exact ha.guarded true
  | notAhead mark a b iha _ => exact ((iha h.2.1).visit a).guarded false
  | production mark body ih => exact ih h.2.2

theorem run_opensWith {e : Expr α} (h : e.WellFormed) : e.run.OpensWith e.first :=
  (attempt_opensWith h).visit e

end Expr

/-! ### Grammars -/

/-- **First sets are sound.** The empty literal is not in them, and what a grammar matches, if it
is anything, opens with one of the literals. So a grammar that is not nullable has nothing to match
where none of them stands at the front, nor leniently where none of them occurs. -/
theorem Grammar.first_sound [TreeLike α] (g : Grammar α) (mode : Mode) (input : Text) :
    [] ∉ g.first ∧
    ((g.parseIn mode input).isSuccess = true → (g.parseIn mode input).matched ≠ [] →
      ∃ literal ∈ g.first, literal <+: (g.parseIn mode input).matched) ∧
    (g.nullable = false →
      ((∀ literal ∈ g.first, ¬ literal <+: input) → g.parseIn .strict input = .failure input) ∧
      ((∀ literal ∈ g.first, ¬ literal <:+: input) →
        g.parseIn .lenient input = .failure input)) := by
  have hopens := Expr.run_opensWith g.wellFormed
  have hparts := g.expr.run_partitioning
  refine ⟨g.expr.nil_not_mem_first, fun _ => hopens mode input, fun hn => ⟨?_, ?_⟩⟩
  · intro habsent
    refine (hparts .strict input).eq_failure (Bool.eq_false_iff.mpr fun hs => ?_)
    obtain ⟨literal, hmem, hstands⟩ :=
      hopens .strict input (Expr.run_consuming g.wellFormed hn .strict input hs)
    have hinput := (hparts .strict input).parts
    rw [(hparts .strict input).skipped_strict, List.nil_append] at hinput
    exact habsent literal hmem (hstands.trans ⟨_, hinput⟩)
  · intro habsent
    refine (hparts .lenient input).eq_failure (Bool.eq_false_iff.mpr fun hs => ?_)
    obtain ⟨literal, hmem, hstands⟩ :=
      hopens .lenient input (Expr.run_consuming g.wellFormed hn .lenient input hs)
    have hinput := (hparts .lenient input).parts
    rw [← List.append_assoc] at hinput
    exact habsent literal hmem (hstands.isInfix.trans ⟨_, _, hinput⟩)

/-- A greeting opens with one of its words, skipped input or not; without either there is none. -/
theorem Grammar.first_sound_greeting :
    (∃ literal ∈ ReadyMade.greeting.first,
      literal <+: (ReadyMade.greeting.parse "say hi bob".toList).matched) ∧
    ReadyMade.greeting.nullable = false ∧
    (∀ literal ∈ ReadyMade.greeting.first, ¬ literal <:+: "hey you".toList) ∧
    ReadyMade.greeting.parse "hey you".toList = .failure "hey you".toList := by
  have hnowhere : ∀ literal ∈ ReadyMade.greeting.first, ¬ literal <:+: "hey you".toList := by
    show ∀ literal ∈ ReadyMade.greeting.first.toList, ¬ literal <:+: "hey you".toList
    decide +kernel
  refine ⟨?_, rfl, hnowhere, ?_⟩
  · exact (ReadyMade.greeting.first_sound .lenient "say hi bob".toList).2.1
      (by decide +kernel) (by decide +kernel)
  · exact ((ReadyMade.greeting.first_sound .lenient "hey you".toList).2.2 rfl).2 hnowhere

end Peg
