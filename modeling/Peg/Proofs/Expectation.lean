import Peg.Proofs.Totality

/-! Whether there is anything to expect.

What is reported where a parse fails is the first set of the whole grammar, wherever in
the tree and in the text the failure came from. It could be that this set is empty, and
the message then says nothing. It is not, unless something must not come next: the first
set of an expression that may fail has a literal in it.

Read the other way round this is a fact about matchers that never fail. An empty first
set makes an expression nullable (`nullable_of_first_eq_empty`), so what comes behind
it is in the first set of the whole, and has an empty one as well. Without negative
look-ahead there is then nothing left that could fail (`attempt_total_of_first`). -/
namespace Peg

variable {α : Type}

/-! ### Empty sets of literals -/

namespace LiteralSet

variable {s t : LiteralSet} {literal : Text}

theorem eq_empty_iff : s = ∅ ↔ ∀ literal, literal ∉ s := by
  constructor
  · rintro rfl literal
    exact not_mem_empty literal
  · intro h
    ext literal
    exact iff_of_false (h literal) (not_mem_empty literal)

theorem isEmpty_iff : s.isEmpty = true ↔ s = ∅ := by
  simp [eq_empty_iff, isEmpty, mem_iff, List.eq_nil_iff_forall_not_mem]

@[simp] theorem union_eq_empty : s ∪ t = ∅ ↔ s = ∅ ∧ t = ∅ := by
  simp only [eq_empty_iff, mem_union, not_or, forall_and]

@[simp] theorem singleton_ne_empty : ({literal} : LiteralSet) ≠ ∅ := by
  intro h
  exact eq_empty_iff.mp h literal (mem_singleton.mpr rfl)

/-- The message names a literal as soon as there is one. -/
theorem expectation_eq_nothing : s.expectation = "expected nothing".toList ↔ s = ∅ := by
  rw [← isEmpty_iff]
  obtain ⟨literals, _⟩ := s
  match literals with
  | [] => exact iff_of_true rfl rfl
  | [literal] =>
    refine iff_of_false (fun h => ?_) nofun
    -- the two begin alike, up to where one of them has a quote
    have hmark := congrArg (fun message : Text => message[9]?) h
    simp [expectation, size, enumerate, Text.quote] at hmark
  | literal :: other :: more =>
    refine iff_of_false (fun h => ?_) nofun
    have hmark := congrArg (fun message : Text => message[9]?) h
    simp [expectation, size] at hmark

end LiteralSet

/-! ### Expressions -/

namespace Expr

/-- No node asks for what must not come next. -/
def NegationFree (e : Expr α) : Prop := ∀ node ∈ e.nodes, node.kind ≠ .notAhead

instance (e : Expr α) : Decidable e.NegationFree :=
  inferInstanceAs (Decidable (∀ node ∈ e.nodes, node.kind ≠ .notAhead))

/-- An expression that begins with no literal may match nothing. -/
theorem nullable_of_first_eq_empty {e : Expr α} (h : e.WellFormed) (he : e.first = ∅) :
    e.nullable = true := by
  induction e with
  | terminal mark literal =>
    rw [first] at he
    split at he
    next hnil => exact h.1.trans hnil
    next => exact absurd he LiteralSet.singleton_ne_empty
  | empty mark | optional mark body => exact h.1
  | sequence mark a b iha ihb =>
    obtain ⟨hflag, ha, hb⟩ := h
    rw [first] at he
    split at he
    next hn =>
      have hback := ihb hb (LiteralSet.union_eq_empty.mp he).2
      exact hflag.trans (Bool.and_eq_true_iff.mpr ⟨hn, hback⟩)
    next hn => exact absurd (iha ha he) hn
  | choice mark a b iha _ =>
    obtain ⟨hflag, ha, _⟩ := h
    have hfirst := iha ha (LiteralSet.union_eq_empty.mp he).1
    exact hflag.trans (Bool.or_eq_true_iff.mpr (.inl hfirst))
  | repetition mark body min ih =>
    -- the body of a repetition is not nullable
    obtain ⟨_, hn, hbody⟩ := h
    exact absurd (hn.symm.trans (ih hbody he)) Bool.false_ne_true
  | ahead mark a b iha _ =>
    obtain ⟨hflag, ha, _⟩ := h
    rw [first] at he
    split at he
    next hn => exact hflag.trans hn
    next => exact hflag.trans (iha ha he)
  | notAhead mark a b iha _ => exact h.1.trans (iha h.2.1 he)
  | production mark body ih => exact h.1.trans (ih h.2.2 he)

variable [TreeLike α]

/-- Where there is no literal to begin with there is nothing that could fail, unless something must
not come next. -/
theorem attempt_total_of_first {e : Expr α} (h : e.WellFormed) (hfree : e.NegationFree)
    (he : e.first = ∅) : e.attempt.Total := by
  induction e with
  | terminal mark literal =>
    rw [first] at he
    split at he
    next hnil =>
      obtain rfl := List.isEmpty_iff.mp hnil
      exact Matcher.total_terminal_nil
    next => exact absurd he LiteralSet.singleton_ne_empty
  | empty mark => exact Matcher.total_empty
  | sequence mark a b iha ihb =>
    obtain ⟨_, hwa, hwb⟩ := h
    obtain ⟨hfa, hfb⟩ := forall_mem_parts hfree
    rw [first] at he
    split at he
    next =>
      obtain ⟨ha, hb⟩ := LiteralSet.union_eq_empty.mp he
      exact ((iha hwa hfa ha).visit a).sequence ((ihb hwb hfb hb).visit b)
    next hn => exact absurd (nullable_of_first_eq_empty hwa he) hn
  | choice mark a b iha _ =>
    obtain ⟨hfa, _⟩ := forall_mem_parts hfree
    exact Matcher.total_choice (.inl ((iha h.2.1 hfa (LiteralSet.union_eq_empty.mp he).1).visit a))
  | optional mark body => exact Matcher.total_optional
  | repetition mark body min =>
    obtain ⟨_, hn, hbody⟩ := h
    exact absurd (hn.symm.trans (nullable_of_first_eq_empty hbody he)) Bool.false_ne_true
  | ahead mark a b iha ihb =>
    obtain ⟨_, hwa, hwb⟩ := h
    obtain ⟨hfa, hfb⟩ := forall_mem_parts hfree
    rw [first] at he
    split at he
    next =>
      obtain ⟨ha, hb⟩ := LiteralSet.union_eq_empty.mp he
      exact ((iha hwa hfa ha).visit a).ahead ((ihb hwb hfb hb).visit b)
    next hn => exact absurd (nullable_of_first_eq_empty hwa he) hn
  | notAhead => exact absurd rfl (hfree _ (self_mem_nodes _))
  | production mark body ih => exact ih h.2.2 (forall_mem_body hfree) he

theorem run_total_of_first {e : Expr α} (h : e.WellFormed) (hfree : e.NegationFree)
    (he : e.first = ∅) : e.run.Total := (attempt_total_of_first h hfree he).visit e

end Expr

/-! ### Grammars -/

namespace Grammar

variable [TreeLike α]

/-- **A failed parse has something to report.** Where nothing is asked not to come next, what is
expected on a failure is never empty, and its message never says that nothing is; and a grammar
that begins with no literal is nullable, whatever it asks for. -/
theorem diagnose_not_empty (g : Grammar α) :
    (g.expr.NegationFree → ∀ input expected, g.diagnose input = some expected →
      expected.isEmpty = false ∧ expected.expectation ≠ "expected nothing".toList) ∧
    (g.first.isEmpty = true → g.nullable = true) := by
  refine ⟨fun hfree input expected h => ?_, fun he => ?_⟩
  · rw [diagnose_eq] at h
    split at h
    next => exact nomatch h
    next hfailed =>
      obtain rfl := Option.some.inj h
      have hfirst : g.first ≠ ∅ := by
        intro he
        exact hfailed (Expr.run_total_of_first g.wellFormed hfree he .lenient input)
      refine ⟨?_, mt LiteralSet.expectation_eq_nothing.mp hfirst⟩
      exact eq_false_of_ne_true (mt LiteralSet.isEmpty_iff.mp hfirst)
  · exact Expr.nullable_of_first_eq_empty g.wellFormed (LiteralSet.isEmpty_iff.mp he)

/-- What fails here is what comes after the match; it is among what was expected, since there may be
no match before it. And a text of no characters begins with no literal. -/
theorem diagnose_not_empty_ahead :
    let sign : Grammar Tree := (terminal ['-']).optionally.before (terminal ['1'])
    let nothing : Grammar Tree := (terminal []).before empty
    (sign.expr.NegationFree ∧ ∃ expected, sign.diagnose "-x".toList = some expected ∧
      expected.isEmpty = false ∧ expected.expectation ≠ "expected nothing".toList) ∧
    (nothing.first.isEmpty = true ∧ nothing.nullable = true) := by
  intro sign nothing
  have hfree : sign.expr.NegationFree := by decide +kernel
  have hreport : sign.diagnose "-x".toList = some sign.first := by decide +kernel
  have hnone : nothing.first.isEmpty = true := by decide +kernel
  refine ⟨⟨hfree, sign.first, hreport, ?_⟩, hnone, ?_⟩
  · exact (diagnose_not_empty sign).1 hfree _ _ hreport
  · exact (diagnose_not_empty nothing).2 hnone

/-- Where something must not come next a parse can fail with nothing to expect. -/
example : ((empty.notBefore empty : Grammar Tree).diagnose []).map LiteralSet.expectation =
    some "expected nothing".toList := by decide +kernel

end Grammar

end Peg
