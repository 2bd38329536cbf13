import Peg.Proofs.Partition
import Peg.Grammar.ReadyMade

/-! What leniency costs.

A lenient match looks for its first literal further on, and what it finds there is a
match. A choice takes the first alternative that matches, and an option its body if it
does; so where one of them is found after skipped input, what stands at the front is
not looked at any more. The match then goes on from a later place, where the rest of
the expression need not match: a lenient match can fail on what a strict match takes
(`Grammar.lenient_loses_greeting`).

This is the only way. Of a lenient match beside a strict one there are three cases
(`Compares`): they come to the same, or the strict one fails and the lenient one skips,
or the lenient one strays (`Expr.Strays`), at a choice or an option that it comes to
with nothing taken yet. The first two pass through every combinator except a choice or
an option that is offered skipped input. -/
namespace Peg

variable {α : Type}

/-! ### Straying -/

namespace Matcher

/-- It is found leniently, but only further on and not at the front. -/
def FoundLater (m : Matcher α) (input : Text) : Prop :=
  (m .lenient input).result.isPartial = true ∧ (m .strict input).result.isSuccess = false

/-- It succeeds leniently on nothing, so that what follows stands at the front and is lenient too. -/
def PassesOver (m : Matcher α) (input : Text) : Prop :=
  (m .lenient input).result.isSuccess = true ∧ (m .lenient input).result.matched = []

instance (m : Matcher α) (input : Text) : Decidable (m.FoundLater input) :=
  inferInstanceAs (Decidable (_ = true ∧ _ = false))

instance (m : Matcher α) (input : Text) : Decidable (m.PassesOver input) :=
  inferInstanceAs (Decidable (_ = true ∧ _ = []))

end Matcher

namespace Expr

variable [TreeLike α]

/-- The lenient match of `input` comes, with nothing taken yet, to a choice or an option whose first
alternative, or whose body, is found only further on, while the node itself matches at the front: an
option always, a choice by its second alternative. What is strict in a lenient match as well does
not stray: the items of a repetition, what is looked ahead at, and all that follows once something
is taken. -/
def Strays (input : Text) : Expr α → Prop
  | .sequence _ first second =>
    first.Strays input ∨ first.run.PassesOver input ∧ second.Strays input
  | .choice _ first second =>
    first.run.FoundLater input ∧ (second.run .strict input).result.isSuccess = true ∨
      first.Strays input ∨
      (first.run .lenient input).result.isSuccess = false ∧ second.Strays input
  | .optional _ body => body.run.FoundLater input ∨ body.Strays input
  | .ahead _ current _ => current.Strays input
  | .notAhead _ current _ => current.Strays input
  | .production _ body => body.Strays input
  | .terminal .. | .empty _ | .repetition .. => False

instance decidableStrays (input : Text) : (e : Expr α) → Decidable (e.Strays input)
  | .sequence _ first second =>
    have := decidableStrays input first
    have := decidableStrays input second
    inferInstanceAs (Decidable (_ ∨ _ ∧ _))
  | .choice _ first second =>
    have := decidableStrays input first
    have := decidableStrays input second
    inferInstanceAs (Decidable (_ ∧ _ ∨ _ ∨ _ ∧ _))
  | .optional _ body =>
    have := decidableStrays input body
    inferInstanceAs (Decidable (_ ∨ _))
  | .ahead _ current _ | .notAhead _ current _ => decidableStrays input current
  | .production _ body => decidableStrays input body
  | .terminal .. | .empty _ | .repetition .. => isFalse id

/-- The lenient match of `input` strays where the expression goes on: in the first part of a
sequence, or in what a look ahead comes behind. -/
def StraysUnderway (input : Text) : Expr α → Prop
  | .sequence _ first second =>
    first.Strays input ∨ first.run.PassesOver input ∧ second.StraysUnderway input
  | .choice _ first second =>
    first.StraysUnderway input ∨
      (first.run .lenient input).result.isSuccess = false ∧ second.StraysUnderway input
  | .ahead _ current _ => current.Strays input
  | .notAhead _ current _ => current.Strays input
  | .production _ body => body.StraysUnderway input
  | .terminal .. | .empty _ | .optional .. | .repetition .. => False

end Expr

namespace Matcher
open Outcome

variable {first second body current forward : Matcher α} {input : Text} {p q : Prop}

/-! ### Both modes compared -/

/-- A lenient match of `input` beside a strict one, where `p` is how the lenient one strays. -/
inductive Compares (p : Prop) (m : Matcher α) (input : Text) : Prop where
  | same : (m .lenient input).result = (m .strict input).result → Compares p m input
  | skips : (m .strict input).result.isSuccess = false →
      (m .lenient input).result.isPartial = true → Compares p m input
  | strays : p → Compares p m input

/-- A literal that stands at the front is found there. -/
theorem compares_terminal [TreeLike α] (literal input : Text) :
    Compares p (terminal literal : Matcher α) input := by
  cases hn : offset? literal .lenient input with
  | none =>
    have habsent : ¬ literal <+: input := by
      rintro ⟨back, rfl⟩
      exact Text.find?_eq_none_iff.mp hn [] back rfl
    refine .same ?_
    rw [result_terminal_of_absent habsent, result_terminal, hn]
  | some n =>
    obtain ⟨front, back, rfl, rfl, hleft⟩ := Text.find?_eq_some hn
    by_cases hp : literal <+: front ++ (literal ++ back)
    · obtain ⟨back', hback'⟩ := hp
      have hzero : front.byteSize = 0 := Nat.le_zero.mp (hleft [] back' hback'.symm)
      refine .same ?_
      rw [result_terminal, hn, hzero, ← hback', result_terminal_strict]
      exact split_byteSize [] literal back' _
    · have hfront : front ≠ [] := by
        rintro rfl
        exact hp (List.prefix_append literal back)
      refine .skips ?_ ?_
      · rw [result_terminal_of_absent hp]
        rfl
      · rw [result_terminal, hn]
        simp only [split_byteSize]
        exact isPartial_ofParts hfront ..

/-- Where one of the parts skips, the sequence does or fails. -/
theorem compares_sequence_of_failure [TreeLike α] (pa : first.Partitioning)
    (pb : second.Partitioning)
    (hfail : (sequence first second .strict input).result = .failure input)
    (hs : (first .lenient input).result.skipped ≠ [] ∨
      (follow first second .lenient input).skipped ≠ []) :
    (sequence first second).Compares p input := by
  rcases pa.result_sequence pb .lenient input with ⟨hf, _⟩ | ⟨a, b, _, _, hj⟩
  · exact .same (hf.trans hfail.symm)
  · refine .skips (by rw [hfail]; rfl) ?_
    rw [hj]
    refine isPartial_ofParts ?_ ..
    rcases hs with hs | hs
    · exact List.append_ne_nil_of_left_ne_nil hs _
    · exact List.append_ne_nil_of_right_ne_nil _ hs

theorem Compares.sequence [TreeLike α] (pa : first.Partitioning) (pb : second.Partitioning)
    (ha : first.Compares p input) (hb : second.Compares q input) :
    (sequence first second).Compares (p ∨ first.PassesOver input ∧ q) input := by
  cases ha with
  | strays h => exact .strays (.inl h)
  | skips hno hp =>
    exact compares_sequence_of_failure pa pb (result_sequence_none (value?_eq_none.mpr hno))
      (.inl ((pa .lenient input).skipped_ne_nil hp))
  | same heq =>
    by_cases hm : (first .strict input).result.matched = []
    · -- the second part stands at the front as well, and takes over
      have hm' : (first .lenient input).result.matched = [] := heq ▸ hm
      have hstrict : follow first second .strict input = (second .strict input).result :=
        pa.follow_idle hm
      have hlenient : follow first second .lenient input = (second .lenient input).result :=
        pa.follow_idle hm'
      cases hv : (first .lenient input).result.value? with
      | none =>
        have hv' : (first .strict input).result.value? = none := heq ▸ hv
        exact .same ((result_sequence_none hv).trans (result_sequence_none hv').symm)
      | some a =>
        have hv' : (first .strict input).result.value? = some a := heq ▸ hv
        cases hb with
        | same heq' => exact .same (result_sequence_congr heq (by rw [hstrict, hlenient, heq']))
        | skips hno hp =>
          refine compares_sequence_of_failure pa pb ?_ (.inr ?_)
          · exact result_sequence_some_none hv' (value?_eq_none.mpr (hstrict ▸ hno))
          · rw [hlenient]
            exact (pb .lenient input).skipped_ne_nil hp
        | strays h => exact .strays (.inr ⟨⟨isSuccess_of_value? hv, hm'⟩, h⟩)
    · -- the second part is strict in both
      refine .same (result_sequence_congr heq ?_)
      rw [pa.follow_moved hm, pa.follow_moved (heq ▸ hm), heq]

theorem Compares.choice (ha : first.Compares p input) (hb : second.Compares q input) :
    (choice first second).Compares
      (first.FoundLater input ∧ (second .strict input).result.isSuccess = true ∨
        p ∨ (first .lenient input).result.isSuccess = false ∧ q) input := by
  cases ha with
  | strays h => exact .strays (.inr (.inl h))
  | skips hno hp =>
    have hstrict : (Matcher.choice first second .strict input).result =
        (second .strict input).result := by
      rw [result_choice, if_neg (Bool.eq_false_iff.mp hno)]
    by_cases hyes : (second .strict input).result.isSuccess = true
    · exact .strays (.inl ⟨⟨hp, hno⟩, hyes⟩)
    · refine .skips (by rw [hstrict]; exact Bool.eq_false_iff.mpr hyes) ?_
      rwa [result_choice, if_pos (isSuccess_of_isPartial hp)]
  | same heq =>
    by_cases hs : (first .strict input).result.isSuccess = true
    · exact .same (by rw [result_choice, result_choice, heq, if_pos hs, if_pos hs])
    · -- the second alternative is all there is, in either mode
      have hs' : ¬ (first .lenient input).result.isSuccess = true := by rwa [heq]
      have hstrict : (Matcher.choice first second .strict input).result =
          (second .strict input).result := by
        rw [result_choice, if_neg hs]
      have hlenient : (Matcher.choice first second .lenient input).result =
          (second .lenient input).result := by
        rw [result_choice, if_neg hs']
      cases hb with
      | same heq' => exact .same (by rw [hstrict, hlenient, heq'])
      | skips hno hp => exact .skips (by rwa [hstrict]) (by rwa [hlenient])
      | strays h => exact .strays (.inr (.inr ⟨Bool.eq_false_iff.mpr hs', h⟩))

theorem Compares.optional [TreeLike α] (h : body.Compares p input) :
    (optional body).Compares (body.FoundLater input ∨ p) input := by
  cases h with
  | same heq => exact .same (by rw [result_optional, result_optional, heq])
  | skips hno hp => exact .strays (.inl ⟨hp, hno⟩)
  | strays h => exact .strays (.inr h)

theorem Compares.guarded (expected : Bool) (h : current.Compares p input) :
    (guarded expected current forward).Compares p input := by
  cases h with
  | same heq => exact .same (by rw [result_guarded, result_guarded, heq])
  | skips hno hp =>
    have hstrict : (Matcher.guarded expected current forward .strict input).result =
        .failure input := by
      rw [result_guarded, if_neg (Bool.eq_false_iff.mp hno)]
    have hs := isSuccess_of_isPartial hp
    by_cases hnext : (forward .strict (current .lenient input).result.remaining).result.isSuccess =
        expected
    · refine .skips (by rw [hstrict]; rfl) ?_
      rw [result_guarded, if_pos hs, if_pos hnext]
      exact hp
    · refine .same ?_
      rw [result_guarded, if_pos hs, if_neg hnext, hstrict]
  | strays h => exact .strays h

theorem compares_repetition [TreeLike α] (min : Nat) : (repetition body min).Compares p input :=
  .same (by rw [result_repetition, result_repetition])

theorem Compares.visit (node : Expr α) (h : body.Compares p input) :
    (visit node body).Compares p input := by
  cases h with
  | same heq => exact .same (by rw [result_visit, result_visit, heq])
  | skips hno hp => exact .skips (by rwa [isSuccess_visit]) (by rwa [isPartial_visit])
  | strays h => exact .strays h

/-! ### What is accepted -/

/-- What a strict match takes, a lenient one takes, if it does not stray in the way of `p`. -/
def Accepts (p : Prop) (m : Matcher α) (input : Text) : Prop :=
  (m .strict input).result.isSuccess = true → (m .lenient input).result.isSuccess = true ∨ p

theorem Compares.accepts {m : Matcher α} (h : m.Compares p input) : m.Accepts p input := by
  intro hs
  cases h with
  | same heq => exact .inl (heq ▸ hs)
  | skips hno _ => exact absurd hs (Bool.eq_false_iff.mp hno)
  | strays h => exact .inr h

/-- Only the first part has to come to the same in both modes: the second one ends the sequence. -/
theorem Accepts.sequence [TreeLike α] (pa : first.Partitioning) (ha : first.Compares p input)
    (hb : second.Accepts q input) :
    (sequence first second).Accepts (p ∨ first.PassesOver input ∧ q) input := by
  intro hs
  obtain ⟨hfirst, hsecond⟩ := isSuccess_sequence.mp hs
  cases ha with
  | strays h => exact .inr (.inl h)
  | skips hno _ => exact absurd hfirst (Bool.eq_false_iff.mp hno)
  | same heq =>
    have hfirst' : (first .lenient input).result.isSuccess = true := heq ▸ hfirst
    by_cases hm : (first .strict input).result.matched = []
    · have hm' : (first .lenient input).result.matched = [] := heq ▸ hm
      rw [pa.follow_idle hm] at hsecond
      rcases hb hsecond with hok | hstray
      · exact .inl (isSuccess_sequence.mpr ⟨hfirst', by rwa [pa.follow_idle hm']⟩)
      · exact .inr (.inr ⟨⟨hfirst', hm'⟩, hstray⟩)
    · rw [pa.follow_moved hm] at hsecond
      refine .inl (isSuccess_sequence.mpr ⟨hfirst', ?_⟩)
      rwa [pa.follow_moved (heq ▸ hm), heq]

/-- Either alternative will do, so it does not matter which one it is. -/
theorem Accepts.choice (ha : first.Accepts p input) (hb : second.Accepts q input) :
    (choice first second).Accepts
      (p ∨ (first .lenient input).result.isSuccess = false ∧ q) input := by
  intro hs
  rw [result_choice] at hs
  by_cases hfirst' : (first .lenient input).result.isSuccess = true
  · refine .inl ?_
    rwa [result_choice, if_pos hfirst']
  · by_cases hfirst : (first .strict input).result.isSuccess = true
    · exact .inr (.inl ((ha hfirst).resolve_left hfirst'))
    · rw [if_neg hfirst] at hs
      rcases hb hs with hok | hstray
      · refine .inl ?_
        rwa [result_choice, if_neg hfirst']
      · exact .inr (.inr ⟨Bool.eq_false_iff.mpr hfirst', hstray⟩)

theorem Accepts.visit (node : Expr α) (h : body.Accepts p input) :
    (visit node body).Accepts p input := by
  intro hs
  rw [isSuccess_visit] at hs ⊢
  exact h hs

end Matcher

/-! ### Expressions -/

namespace Expr
open Matcher Outcome

variable [TreeLike α]

theorem attempt_compares (e : Expr α) (input : Text) :
    e.attempt.Compares (e.Strays input) input := by
  induction e with
  | terminal mark literal => exact compares_terminal literal input
  | empty mark => exact .same (by rw [attempt, result_empty, result_empty])
  | sequence mark a b iha ihb =>
    exact .sequence a.run_partitioning b.run_partitioning (iha.visit a) (ihb.visit b)
  | choice mark a b iha ihb => exact (iha.visit a).choice (ihb.visit b)
  | optional mark body ih => exact (ih.visit body).optional
  | repetition mark body min _ => exact compares_repetition min
  | ahead mark a b iha _ => exact (iha.visit a).guarded true
  | notAhead mark a b iha _ => exact (iha.visit a).guarded false
  | production mark body ih => exact ih

theorem run_compares (e : Expr α) (input : Text) : e.run.Compares (e.Strays input) input :=
  (e.attempt_compares input).visit e

/-- Only what the expression goes on behind has to be compared. -/
theorem attempt_accepts (e : Expr α) (input : Text) :
    e.attempt.Accepts (e.StraysUnderway input) input := by
  induction e with
  | terminal mark literal => exact (compares_terminal literal input).accepts
  | empty mark => exact fun hs => .inl hs
  | sequence mark a b _ ihb =>
    exact .sequence a.run_partitioning (a.run_compares input) (ihb.visit b)
  | choice mark a b iha ihb => exact (iha.visit a).choice (ihb.visit b)
  | optional mark body _ => exact fun _ => .inl isSuccess_optional
  | repetition mark body min _ => exact (compares_repetition min).accepts
  | ahead mark a b _ _ => exact ((a.run_compares input).guarded true).accepts
  | notAhead mark a b _ _ => exact ((a.run_compares input).guarded false).accepts
  | production mark body ih => exact ih

theorem run_accepts (e : Expr α) (input : Text) :
    e.run.Accepts (e.StraysUnderway input) input := (e.attempt_accepts input).visit e

end Expr

/-! ### Grammars -/

namespace Grammar
open ReadyMade

/-- **What a strict match takes, a lenient one takes,** unless it strays where the grammar goes on;
and it comes to the same, unless it strays anywhere. -/
theorem lenient_accepts_or_strays [TreeLike α] (g : Grammar α) (input : Text)
    (h : (g.parseIn .strict input).isSuccess = true) :
    ((g.parse input).isSuccess = true ∨ g.expr.StraysUnderway input) ∧
    (g.parse input = g.parseIn .strict input ∨ g.expr.Strays input) := by
  refine ⟨g.expr.run_accepts input h, ?_⟩
  cases g.expr.run_compares input with
  | same heq => exact .inl heq
  | skips hno _ => exact absurd h (Bool.eq_false_iff.mp hno)
  | strays hstray => exact .inr hstray

/-- It is not so without the exception: `hello` is found behind `hi`, and no name behind `hello`. -/
theorem lenient_loses_greeting :
    (greeting.parseIn .strict "hi hello".toList).isSuccess = true ∧
      (greeting.parse "hi hello".toList).isSuccess = false := by
  decide +kernel

/-- Digits have no part that the match goes on behind, and are accepted. A greeting comes to the same
where it does not stray, and strays where it fails. -/
theorem lenient_accepts_or_strays_ready_made :
    (digits.parse "42".toList).isSuccess = true ∧
      greeting.parse "hi bob".toList = greeting.parseIn .strict "hi bob".toList ∧
      greeting.expr.StraysUnderway "hi hello".toList := by
  refine ⟨?_, ?_, ?_⟩
  · exact (lenient_accepts_or_strays digits "42".toList (by decide +kernel)).1.resolve_right id
  · exact (lenient_accepts_or_strays greeting "hi bob".toList
      (by decide +kernel)).2.resolve_right (by decide +kernel)
  · exact (lenient_accepts_or_strays greeting "hi hello".toList
      (by decide +kernel)).1.resolve_left (by decide +kernel)

end Grammar

end Peg
