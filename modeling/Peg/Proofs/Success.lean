import Peg.Proofs.StrictMatching

/-! Where a strict match succeeds.

A strict match succeeds in full or not at all, so that a grammar which is built from
others can be told by where it succeeds: a literal where it stands, a sequence where
its parts succeed one behind the other, a choice where its first half does or else
its second. What follows from the outcomes of a grammar is then proved without a look
at the matcher that it is run by. -/
namespace Peg

variable {α : Type}

/-! ### Outcomes by their parts -/

namespace Outcome

variable {p m r p' m' r' : Text} {a a' : α}

theorem ofParts_inj (h : ofParts p m r a = ofParts p' m' r' a') :
    p = p' ∧ m = m' ∧ r = r' ∧ a = a' := by
  have hp := congrArg skipped h
  have hm := congrArg matched h
  have hr := congrArg remaining h
  have ha := congrArg value? h
  rw [skipped_ofParts, skipped_ofParts] at hp
  rw [matched_ofParts, matched_ofParts] at hm
  rw [remaining_ofParts, remaining_ofParts] at hr
  rw [value?_ofParts, value?_ofParts] at ha
  exact ⟨hp, hm, hr, Option.some.inj ha⟩

theorem ofParts_of_ne_nil (h : p ≠ []) : ofParts p m r a = .partialSuccess p m r a :=
  if_neg (by simpa using h)

theorem failure_ne_ofParts (rest : Text) : failure rest ≠ ofParts p m r a := by
  cases p <;> nofun

end Outcome

namespace Partitions

variable {mode : Mode} {input : Text} {o : Outcome α}

theorem strict_cases (h : Partitions .strict input o) :
    o = .failure input ∨ ∃ matched remaining value, o = .success matched remaining value := by
  cases h with
  | success => exact .inr ⟨_, _, _, rfl⟩
  | partialSuccess _ hmode => exact nomatch hmode
  | failure => exact .inl rfl

theorem eq_ofParts (h : Partitions mode input o) {a : α} (ha : o.value? = some a) :
    o = .ofParts o.skipped o.matched o.remaining a := by
  obtain ⟨b, hb⟩ := h.exists_ofParts (Outcome.isSuccess_of_value? ha)
  rw [hb, Outcome.value?_ofParts] at ha
  rwa [Option.some.inj ha] at hb

theorem matched_stands (h : Partitions .strict input o) : o.matched <+: input := by
  have hparts := h.parts
  rw [h.skipped_strict, List.nil_append] at hparts
  exact ⟨_, hparts⟩

/-- A strict match skips nothing. -/
theorem of_strict {p m r : Text} {a : α} (h : Partitions .strict input (.ofParts p m r a)) :
    p = [] ∧ m ++ r = input := by
  have hskipped := h.skipped_strict
  have hparts := h.parts
  rw [Outcome.skipped_ofParts] at hskipped
  subst hskipped
  rw [Outcome.skipped_ofParts, Outcome.matched_ofParts, Outcome.remaining_ofParts] at hparts
  exact ⟨rfl, hparts⟩

end Partitions

/-! ### The parts of a sequence -/

namespace Matcher.Partitioning
open Outcome

variable [TreeLike α] {first second : Matcher α} {mode : Mode} {input m r : Text}

/-- What a sequence comes to is made of what its parts come to, and of nothing else. -/
theorem sequence_parts (pa : first.Partitioning) (pb : second.Partitioning) {p : Text} {v : α}
    (h : (Matcher.sequence first second mode input).result = .ofParts p m r v) :
    ∃ p₁ m₁ r₁ a p₂ m₂ b, (first mode input).result = .ofParts p₁ m₁ r₁ a ∧
      follow first second mode input = .ofParts p₂ m₂ r b ∧
      p = p₁ ++ p₂ ∧ m = m₁ ++ m₂ ∧ v = TreeLike.pair a b := by
  rcases pa.result_sequence pb mode input with ⟨hf, _⟩ | ⟨a, b, hva, hvb, hj⟩
  · exact absurd (hf.symm.trans h) (failure_ne_ofParts input)
  · have hleft := (pa mode input).eq_ofParts hva
    have hright : follow first second mode input = _ := (pb _ _).eq_ofParts hvb
    obtain ⟨hp, hm, rfl, hv⟩ := ofParts_inj (h.symm.trans hj)
    exact ⟨_, _, _, a, _, _, b, hleft, hright, hp, hm, hv⟩

theorem sequence_of_success (pa : first.Partitioning) (pb : second.Partitioning) {m' r' : Text}
    {a b : α} (h : (first .strict input).result = .success m r a)
    (h' : (second .strict r).result = .success m' r' b) :
    (Matcher.sequence first second .strict input).result =
      .success (m ++ m') r' (TreeLike.pair a b) := by
  have hfollow : follow first second .strict input = .success m' r' b := by
    rw [follow_strict, h]
    exact h'
  rw [pa.result_sequence_some_some pb (congrArg value? h) (congrArg value? hfollow), h, hfollow]
  rfl

end Matcher.Partitioning

namespace Grammar

variable [TreeLike α] {g : Grammar α} {mode : Mode} {input : Text}

/-- A strict match succeeds in full or not at all. -/
theorem parseIn_strict_cases (g : Grammar α) (input : Text) :
    g.parseIn .strict input = .failure input ∨ ∃ matched remaining value,
      g.parseIn .strict input = .success matched remaining value :=
  (g.parseIn_partitions .strict input).strict_cases

theorem isSuccess_strict_iff : (g.parseIn .strict input).isSuccess = true ↔
    ∃ matched remaining value, g.parseIn .strict input = .success matched remaining value := by
  constructor
  · intro hs
    rcases parseIn_strict_cases g input with hno | hyes
    · rw [hno] at hs
      exact nomatch hs
    · exact hyes
  · rintro ⟨_, _, _, h⟩
    rw [h]
    rfl

section Success

variable {matched remaining : Text} {value : α}

theorem append_eq_of_success (h : g.parseIn mode input = .success matched remaining value) :
    matched ++ remaining = input := by
  have hparts := g.parseIn_partitions mode input
  rw [h] at hparts
  exact hparts.parts

theorem matched_ne_nil (hn : g.nullable = false)
    (h : g.parseIn mode input = .success matched remaining value) : matched ≠ [] := by
  have hc : g.run.Consuming := Expr.run_consuming g.wellFormed hn
  have hmatched : (g.parseIn mode input).matched ≠ [] := by
    apply hc mode input
    show (g.parseIn mode input).isSuccess = true
    rw [h]
    rfl
  rwa [h] at hmatched

end Success

/-! ### Listeners -/

/-- Without a listener there is nothing beside the attempt that could matter. -/
theorem parseIn_eq_attempt (h : g.expr.listener? = none) (mode : Mode) (input : Text) :
    g.parseIn mode input = (g.attempt mode input).result := by
  show (Matcher.visit g.expr g.expr.attempt mode input).result = _
  rw [Matcher.result_visit, h]
  rfl

theorem parseIn_listen (g : Grammar α) (listener : Listener α) (mode : Mode) (input : Text) :
    (g.listen listener).parseIn mode input = ((g.attempt mode input).result).withValue
      (listener.action (g.attempt mode input).result) :=
  Matcher.result_visit _

/-! ### What is built from others -/

theorem parseIn_empty (mode : Mode) (input : Text) :
    (empty : Grammar α).parseIn mode input = .success [] input (TreeLike.text []) :=
  (parseIn_eq_attempt rfl ..).trans (Outcome.split_zero ..)

theorem parseIn_terminal (literal rest : Text) :
    (terminal literal : Grammar α).parseIn .strict (literal ++ rest) =
      .success literal rest (TreeLike.text literal) :=
  (parseIn_eq_attempt rfl ..).trans (Matcher.result_terminal_strict literal rest)

theorem parseIn_terminal_of_absent {literal : Text} (h : ¬ literal <+: input) :
    (terminal literal : Grammar α).parseIn .strict input = .failure input :=
  (parseIn_eq_attempt rfl ..).trans (Matcher.result_terminal_of_absent h)

theorem terminal_success_iff {literal matched remaining : Text} {value : α} :
    (terminal literal : Grammar α).parseIn .strict input = .success matched remaining value ↔
      literal ++ remaining = input ∧ matched = literal ∧ value = TreeLike.text literal := by
  constructor
  · intro h
    by_cases hstands : literal <+: input
    · obtain ⟨rest, rfl⟩ := hstands
      obtain ⟨rfl, rfl, rfl⟩ := Outcome.success.inj ((parseIn_terminal literal rest).symm.trans h)
      exact ⟨rfl, rfl, rfl⟩
    · exact nomatch (parseIn_terminal_of_absent hstands).symm.trans h
  · rintro ⟨rfl, rfl, rfl⟩
    exact parseIn_terminal matched remaining

section Sequence

variable {next : Grammar α} {m r : Text} {a : α}

theorem andThen_of_success {m' r' : Text} {b : α} (h : g.parseIn .strict input = .success m r a)
    (h' : next.parseIn .strict r = .success m' r' b) :
    (g.andThen next).parseIn .strict input = .success (m ++ m') r' (TreeLike.pair a b) := by
  rw [parseIn_eq_attempt rfl]
  exact g.expr.run_partitioning.sequence_of_success next.expr.run_partitioning h h'

theorem andThen_success_iff {matched remaining : Text} {value : α} :
    (g.andThen next).parseIn .strict input = .success matched remaining value ↔
      ∃ m r a m' b, g.parseIn .strict input = .success m r a ∧
        next.parseIn .strict r = .success m' remaining b ∧
        matched = m ++ m' ∧ value = TreeLike.pair a b := by
  have hp : g.run.Partitioning := g.expr.run_partitioning
  have hp' : next.run.Partitioning := next.expr.run_partitioning
  constructor
  · intro h
    have hwhole : (Matcher.sequence g.run next.run .strict input).result =
        .ofParts [] matched remaining value := (parseIn_eq_attempt rfl ..).symm.trans h
    obtain ⟨p₁, m₁, r₁, a, p₂, m₂, b, hfirst, hfollow, hskipped, hm, hv⟩ :=
      hp.sequence_parts hp' hwhole
    obtain ⟨rfl, rfl⟩ := List.append_eq_nil_iff.mp hskipped.symm
    rw [Matcher.follow_strict, hfirst] at hfollow
    exact ⟨m₁, r₁, a, m₂, b, hfirst, hfollow, hm, hv⟩
  · rintro ⟨m, r, a, m', b, hfirst, hsecond, rfl, rfl⟩
    exact andThen_of_success hfirst hsecond

end Sequence

theorem parseIn_orElse (g other : Grammar α) (mode : Mode) (input : Text) :
    (g.orElse other).parseIn mode input =
      if (g.parseIn mode input).isSuccess then g.parseIn mode input
      else other.parseIn mode input :=
  (parseIn_eq_attempt rfl ..).trans Matcher.result_choice

theorem orElse_success_iff {other : Grammar α} {matched remaining : Text} {value : α} :
    (g.orElse other).parseIn .strict input = .success matched remaining value ↔
      g.parseIn .strict input = .success matched remaining value ∨
        g.parseIn .strict input = .failure input ∧
          other.parseIn .strict input = .success matched remaining value := by
  rw [parseIn_orElse]
  rcases parseIn_strict_cases g input with hno | ⟨_, _, _, hyes⟩
  · rw [hno]
    simp [Outcome.isSuccess]
  · rw [hyes]
    simp [Outcome.isSuccess]

end Grammar

end Peg
