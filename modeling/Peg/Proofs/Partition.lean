import Peg.Proofs.Combinators
import Peg.Proofs.Journal
import Peg.Proofs.Utf8

/-! How an outcome divides its input.

What was skipped, what was matched and what remains are the input again, and only a
lenient match skips, and only where it then matches something: `Partitions`. Every
combinator keeps this (`Partitioning`), whatever the expression and its listeners
do, and so it holds at every visit of a run.

The second half of the statement carries the induction. A sequence adds up the bytes
that both of its parts skipped; that is right because the second part may skip only
where the first one matched nothing, and then the first one skipped nothing either
(`join_eq`). -/
namespace Peg

variable {α : Type}

/-- What the outcome of matching `input` in `mode` may look like. -/
inductive Partitions (mode : Mode) (input : Text) : Outcome α → Prop where
  | success {matched remaining : Text} {value : α} : matched ++ remaining = input →
      Partitions mode input (.success matched remaining value)
  | partialSuccess {skipped matched remaining : Text} {value : α} :
      skipped ++ (matched ++ remaining) = input → mode = .lenient → skipped ≠ [] → matched ≠ [] →
      Partitions mode input (.partialSuccess skipped matched remaining value)
  | failure : Partitions mode input (.failure input)

namespace Partitions
open Outcome

variable {mode : Mode} {input : Text} {o : Outcome α}

theorem parts (h : Partitions mode input o) :
    o.skipped ++ (o.matched ++ o.remaining) = input := by
  cases h with
  | success h => exact h
  | partialSuccess h => exact h
  | failure => rfl

theorem remaining_suffix (h : Partitions mode input o) : o.remaining <:+ input := by
  refine ⟨o.skipped ++ o.matched, ?_⟩
  rw [List.append_assoc, h.parts]

theorem sizes (h : Partitions mode input o) :
    o.skipped.byteSize + (o.matched.byteSize + o.remaining.byteSize) = input.byteSize := by
  rw [← h.parts, Text.byteSize_append, Text.byteSize_append]

theorem of_skipped (h : Partitions mode input o) (hs : o.skipped ≠ []) :
    mode = .lenient ∧ o.matched ≠ [] := by
  cases h with
  | partialSuccess _ hmode _ hmatched => exact ⟨hmode, hmatched⟩
  | success | failure => exact absurd rfl hs

theorem eq_failure (h : Partitions mode input o) (hs : o.isSuccess = false) :
    o = .failure input := by
  cases h with
  | success | partialSuccess => exact nomatch hs
  | failure => rfl

theorem exists_ofParts (h : Partitions mode input o) (hs : o.isSuccess = true) :
    ∃ value, o = .ofParts o.skipped o.matched o.remaining value := by
  cases h with
  | @success _ _ value => exact ⟨value, rfl⟩
  | @partialSuccess skipped _ _ value _ _ hne =>
    refine ⟨value, ?_⟩
    cases skipped with
    | nil => exact absurd rfl hne
    | cons => rfl
  | failure => exact nomatch hs

theorem skipped_ne_nil (h : Partitions mode input o) (hp : o.isPartial = true) :
    o.skipped ≠ [] := by
  cases h with
  | success | failure => exact nomatch hp
  | partialSuccess _ _ hs => exact hs

theorem skipped_strict (h : Partitions .strict input o) : o.skipped = [] := by
  by_cases hs : o.skipped = []
  · exact hs
  · exact nomatch (h.of_skipped hs).1

protected theorem ofParts {p m r : Text} (a : α) (h : p ++ (m ++ r) = input)
    (hs : p ≠ [] → mode = .lenient ∧ m ≠ []) : Partitions mode input (ofParts p m r a) := by
  cases p with
  | nil => exact .success h
  | cons c p =>
    obtain ⟨hmode, hm⟩ := hs (List.cons_ne_nil c p)
    exact .partialSuccess h hmode (List.cons_ne_nil c p) hm

protected theorem withValue (h : Partitions mode input o) (a : α) :
    Partitions mode input (o.withValue a) := by
  cases h with
  | success h => exact .success h
  | partialSuccess h hmode hs hm => exact .partialSuccess h hmode hs hm
  | failure => exact .failure

/-! ### Matching nothing -/

theorem remaining_eq (h : Partitions mode input o) (hm : o.matched = []) :
    o.skipped = [] ∧ o.remaining = input := by
  have hs : o.skipped = [] := by
    by_cases hs : o.skipped = []
    · exact hs
    · exact absurd hm (h.of_skipped hs).2
  have hparts := h.parts
  rw [hs, hm] at hparts
  exact ⟨hs, hparts⟩

theorem of_nil (h : Partitions mode [] o) : o.matched = [] ∧ o.remaining = [] :=
  List.append_eq_nil_iff.mp (List.append_eq_nil_iff.mp h.parts).2

/-- All of the input is left exactly when nothing was matched. -/
theorem byteSize_remaining (h : Partitions mode input o) :
    o.remaining.byteSize = input.byteSize ↔ o.matched = [] := by
  constructor
  · intro hsize
    have hsizes := h.sizes
    exact Text.byteSize_eq_zero.mp (by omega)
  · intro hm
    rw [(h.remaining_eq hm).2]

theorem followMode_eq (h : Partitions mode input o) :
    Matcher.followMode mode input o.remaining = if o.matched = [] then mode else .strict := by
  simp only [Matcher.followMode, h.byteSize_remaining]

/-! ### Sequence -/

/-- The second part skips only where the first one used up nothing. -/
theorem nil_of_follow_skipped {right : Outcome α} (hl : Partitions mode input o)
    (hr : Partitions (Matcher.followMode mode input o.remaining) o.remaining right)
    (hs : right.skipped ≠ []) : mode = .lenient ∧ o.skipped = [] ∧ o.matched = [] := by
  have hmode := (hr.of_skipped hs).1
  rw [hl.followMode_eq] at hmode
  by_cases hm : o.matched = []
  · rw [if_pos hm] at hmode
    exact ⟨hmode, (hl.remaining_eq hm).1, hm⟩
  · rw [if_neg hm] at hmode
    exact nomatch hmode

/-- The two skipped texts and the two matched texts of a sequence are contiguous. -/
theorem follow_parts {right : Outcome α} (hl : Partitions mode input o)
    (hr : Partitions (Matcher.followMode mode input o.remaining) o.remaining right) :
    (o.skipped ++ right.skipped) ++ ((o.matched ++ right.matched) ++ right.remaining) = input := by
  have hleft := hl.parts
  have hright := hr.parts
  by_cases hs : right.skipped = []
  · rw [hs, List.nil_append] at hright
    rw [hs, List.append_nil, List.append_assoc, hright, hleft]
  · obtain ⟨_, hs', hm'⟩ := hl.nil_of_follow_skipped hr hs
    rw [hs', hm', List.nil_append, List.nil_append] at hleft
    rw [hs', hm', List.nil_append, List.nil_append, hright, hleft]

/-- **What a sequence skips and matches is what its parts do, joined.** -/
theorem join_eq [TreeLike α] {right : Outcome α} (hl : Partitions mode input o)
    (hr : Partitions (Matcher.followMode mode input o.remaining) o.remaining right) (a b : α) :
    Matcher.join input o right a b = ofParts (o.skipped ++ right.skipped)
      (o.matched ++ right.matched) right.remaining (TreeLike.pair a b) := by
  have hparts := hl.follow_parts hr
  have hsize : input.byteSize - (o.skipped.byteSize + right.skipped.byteSize) -
      right.remaining.byteSize = (o.matched ++ right.matched).byteSize := by
    rw [← hparts]
    simp only [Text.byteSize_append]
    omega
  unfold Matcher.join
  simp only [hsize]
  rw [← Text.byteSize_append, ← hparts, split_byteSize]

end Partitions

/-! ### Combinators -/

namespace Matcher
open Outcome

variable {first second body current forward : Matcher α}

/-- Whatever it is run on, the outcome divides the input. -/
def Partitioning (m : Matcher α) : Prop := ∀ mode input, Partitions mode input (m mode input).result

/-- Where a literal is taken, it stands; and only a literal of some characters is searched for
beyond the front. -/
theorem offset?_eq_some {literal input : Text} {mode : Mode} {n : Nat}
    (h : offset? literal mode input = some n) :
    ∃ front back, input = front ++ (literal ++ back) ∧ front.byteSize = n ∧
      (front ≠ [] → mode = .lenient ∧ literal ≠ []) := by
  cases mode with
  | strict =>
    simp only [offset?] at h
    split at h
    next hp =>
      obtain ⟨back, rfl⟩ := List.isPrefixOf_iff_prefix.mp hp
      exact ⟨[], back, rfl, Option.some.inj h, fun hne => absurd rfl hne⟩
    next => exact nomatch h
  | lenient =>
    obtain ⟨front, back, rfl, rfl, hleft⟩ := Text.find?_eq_some h
    refine ⟨front, back, rfl, rfl, fun hne => ⟨rfl, ?_⟩⟩
    rintro rfl
    exact hne (Text.byteSize_eq_zero.mp (Nat.le_zero.mp (hleft [] _ rfl)))

theorem partitioning_terminal [TreeLike α] (literal : Text) :
    Partitioning (terminal literal : Matcher α) := by
  intro mode input
  rw [result_terminal]
  split
  next n h =>
    obtain ⟨front, back, rfl, rfl, hfront⟩ := offset?_eq_some h
    rw [split_byteSize]
    exact .ofParts _ rfl hfront
  next => exact .failure

theorem partitioning_empty [TreeLike α] : Partitioning (empty : Matcher α) := by
  intro mode input
  rw [result_empty]
  exact .success rfl

theorem followMode_self (mode : Mode) (input : Text) : followMode mode input input = mode :=
  if_pos rfl

/-- Where the first part matches nothing, the second is run as the sequence is. -/
theorem Partitioning.follow_idle (ha : first.Partitioning) {mode : Mode} {input : Text}
    (hm : (first mode input).result.matched = []) :
    follow first second mode input = (second mode input).result := by
  unfold follow
  simp only [((ha mode input).remaining_eq hm).2, followMode_self]

/-- Where it matches something, the second part has to start right there. -/
theorem Partitioning.follow_moved (ha : first.Partitioning) {mode : Mode} {input : Text}
    (hm : (first mode input).result.matched ≠ []) :
    follow first second mode input =
      (second .strict (first mode input).result.remaining).result := by
  have hmode := (ha mode input).followMode_eq
  rw [if_neg hm] at hmode
  unfold follow
  simp only [hmode]

theorem Partitioning.result_sequence_some_some [TreeLike α] (ha : first.Partitioning)
    (hb : second.Partitioning) {mode : Mode} {input : Text} {a b : α}
    (h : (first mode input).result.value? = some a)
    (h' : (follow first second mode input).value? = some b) :
    (sequence first second mode input).result =
      ofParts ((first mode input).result.skipped ++ (follow first second mode input).skipped)
        ((first mode input).result.matched ++ (follow first second mode input).matched)
        (follow first second mode input).remaining (TreeLike.pair a b) := by
  rw [Matcher.result_sequence_some_some h h']
  exact (ha mode input).join_eq (hb _ _) a b

/-- What a sequence comes to: a failure that gives the input back, or the parts of its parts,
joined. -/
theorem Partitioning.result_sequence [TreeLike α] (ha : first.Partitioning)
    (hb : second.Partitioning) (mode : Mode) (input : Text) :
    ((sequence first second mode input).result = .failure input ∧
      ((first mode input).result.value? = none ∨
        (follow first second mode input).value? = none)) ∨
    ∃ a b, (first mode input).result.value? = some a ∧
      (follow first second mode input).value? = some b ∧
      (sequence first second mode input).result =
        ofParts ((first mode input).result.skipped ++ (follow first second mode input).skipped)
          ((first mode input).result.matched ++ (follow first second mode input).matched)
          (follow first second mode input).remaining (TreeLike.pair a b) := by
  cases h : (first mode input).result.value? with
  | none => exact .inl ⟨result_sequence_none h, .inl rfl⟩
  | some a =>
    cases h' : (follow first second mode input).value? with
    | none => exact .inl ⟨result_sequence_some_none h h', .inr rfl⟩
    | some b => exact .inr ⟨a, b, rfl, rfl, ha.result_sequence_some_some hb h h'⟩

theorem Partitioning.sequence [TreeLike α] (ha : first.Partitioning) (hb : second.Partitioning) :
    (sequence first second).Partitioning := by
  intro mode input
  rcases ha.result_sequence hb mode input with ⟨h, _⟩ | ⟨a, b, _, _, h⟩
  · rw [h]
    exact .failure
  · have hl := ha mode input
    have hr : Partitions _ _ (follow first second mode input) := hb _ _
    rw [h]
    refine .ofParts _ (hl.follow_parts hr) fun hne => ?_
    -- one of the two parts skipped, and that one matched something
    by_cases hs : (first mode input).result.skipped = []
    · rw [hs, List.nil_append] at hne
      exact ⟨(hl.nil_of_follow_skipped hr hne).1,
        List.append_ne_nil_of_right_ne_nil _ (hr.of_skipped hne).2⟩
    · obtain ⟨hmode, hm⟩ := hl.of_skipped hs
      exact ⟨hmode, List.append_ne_nil_of_left_ne_nil hm _⟩

theorem Partitioning.choice (ha : first.Partitioning) (hb : second.Partitioning) :
    (choice first second).Partitioning := by
  intro mode input
  rw [result_choice]
  split
  · exact ha mode input
  · exact hb mode input

theorem Partitioning.optional [TreeLike α] (h : body.Partitioning) :
    (optional body).Partitioning := by
  intro mode input
  rw [result_optional]
  split
  · exact h mode input
  · exact .success rfl

/-- What a chain leaves is the end of its input. -/
theorem Partitioning.chain (h : body.Partitioning) (input : Text) :
    ∃ taken, taken ++ (chain body input).result.2 = input := by
  have hitem := h .strict input
  have hparts := hitem.parts
  rw [hitem.skipped_strict, List.nil_append] at hparts
  cases hv : (body .strict input).result.value? with
  | none => exact ⟨[], by rw [result_chain_none hv, List.nil_append]⟩
  | some a =>
    by_cases hless : (body .strict input).result.remaining.length < input.length
    · obtain ⟨taken, htaken⟩ := h.chain (body .strict input).result.remaining
      refine ⟨(body .strict input).result.matched ++ taken, ?_⟩
      rw [result_chain_some hv hless, List.append_assoc, htaken, hparts]
    · exact ⟨(body .strict input).result.matched, by rw [result_chain_idle hv hless, hparts]⟩
termination_by input.length

/-- The bytes that a chain leaves tell what it took. -/
theorem split_chain {input taken rest : Text} (h : taken ++ rest = input) (a : α) :
    split input 0 (input.byteSize - rest.byteSize) a = .success taken rest a := by
  have hsize : input.byteSize - rest.byteSize = taken.byteSize := by
    rw [← h, Text.byteSize_append, Nat.add_sub_cancel]
  rw [hsize, ← h]
  exact split_byteSize [] taken rest a

theorem Partitioning.repetition [TreeLike α] (h : body.Partitioning) (min : Nat) :
    (repetition body min).Partitioning := by
  intro mode input
  obtain ⟨taken, htaken⟩ := h.chain input
  rw [result_repetition]
  split
  · exact .failure
  · rw [split_chain htaken]
    exact .success htaken

theorem Partitioning.guarded (expected : Bool) (h : current.Partitioning) :
    (guarded expected current forward).Partitioning := by
  intro mode input
  rw [result_guarded]
  split
  · split
    · exact h mode input
    · exact .failure
  · exact .failure

theorem Partitioning.visit (node : Expr α) (h : body.Partitioning) :
    (visit node body).Partitioning := by
  intro mode input
  rw [result_visit]
  split
  · exact h mode input
  · exact (h mode input).withValue _

end Matcher

/-! ### Expressions -/

namespace Expr

variable [TreeLike α]

theorem attempt_partitioning (e : Expr α) : e.attempt.Partitioning := by
  induction e with
  | terminal mark literal => exact Matcher.partitioning_terminal literal
  | empty mark => exact Matcher.partitioning_empty
  | sequence mark a b iha ihb => exact (iha.visit a).sequence (ihb.visit b)
  | choice mark a b iha ihb => exact (iha.visit a).choice (ihb.visit b)
  | optional mark body ih => exact (ih.visit body).optional
  | repetition mark body min ih => exact (ih.visit body).repetition min
  | ahead mark a b iha _ => exact (iha.visit a).guarded true
  | notAhead mark a b iha _ => exact (iha.visit a).guarded false
  | production mark body ih => exact ih

theorem run_partitioning (e : Expr α) : e.run.Partitioning := e.attempt_partitioning.visit e

end Expr

/-! ### Grammars -/

theorem Grammar.parseIn_partitions [TreeLike α] (g : Grammar α) (mode : Mode) (input : Text) :
    Partitions mode input (g.parseIn mode input) :=
  g.expr.run_partitioning mode input

/-- **Every result partitions its input**: that of a grammar and that of any of its nodes, with
and without their listeners; and a visit recorded in a run has the outcome of an attempt at a node,
which partitions the input handed to that node. -/
theorem Grammar.partitions [TreeLike α] (g : Grammar α) (mode : Mode) (input : Text) :
    Partitions mode input (g.parseIn mode input) ∧
    Partitions mode input (g.attempt mode input).result ∧
    (∀ node ∈ g.expr.nodes, ∀ mode' input', Partitions mode' input' (node.run mode' input').result ∧
      Partitions mode' input' (node.attempt mode' input').result) ∧
    ∀ node mode' input' outcome,
      .visit node mode' input' outcome ∈ (g.run mode input).journal →
        node ∈ g.expr.nodes ∧ outcome = (node.attempt mode' input').result ∧
          Partitions mode' input' outcome := by
  refine ⟨g.expr.run_partitioning mode input, g.expr.attempt_partitioning mode input, ?_, ?_⟩
  · intro node _ mode' input'
    exact ⟨node.run_partitioning mode' input', node.attempt_partitioning mode' input'⟩
  · intro node mode' input' outcome h
    obtain ⟨hnode, rfl⟩ := Expr.visit_mem_journal h
    exact ⟨hnode, rfl, node.attempt_partitioning mode' input'⟩

end Peg
