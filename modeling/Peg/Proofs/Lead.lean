import Peg.Proofs.Indifference
import Peg.Proofs.Repetition

/-! Lenient matching behind a fixed literal.

Some expressions begin with one literal, whatever comes of the match: their `lead?`.
A lenient match looks for this literal and for nothing else. It skips to where the
literal stands first and is from there on the strict match of what follows
(`Resumes`); if that one fails, so does the lenient match, and no later occurrence is
tried. `Grammar.parse_from_lead` says so of a grammar.

The two matches that are compared differ in their inputs and in their modes. A
sequence keeps them together: either its first part matches something, and then the
second one is strict in both, or its first part is nothing, and then the second one
does what the sequence does. -/
namespace Peg

variable {α : Type}

/-- The literal that a match has to begin with, where there is one that is always looked for first.
A first part that is nullable hides it, unless it is nothing but the empty literal. -/
def Expr.lead? : Expr α → Option Text
  | .terminal _ literal => some literal
  | .sequence _ first second =>
    if !first.nullable then first.lead?
    else if first.literal? = some [] then second.lead?
    else none
  | .ahead _ current _ => current.lead?
  | .notAhead _ current _ => current.lead?
  | .production _ body => body.lead?
  | .empty _ | .choice .. | .optional .. | .repetition .. => none

/-! ### Outcomes behind skipped text -/

namespace Outcome

variable {o : Outcome α} {front : Text}

/-- The outcome on a longer input, with the text in front of it skipped. -/
def behind (front : Text) : Outcome α → Outcome α
  | .success matched remaining value => .ofParts front matched remaining value
  | .partialSuccess skipped matched remaining value =>
    .partialSuccess (front ++ skipped) matched remaining value
  | .failure remaining => .failure (front ++ remaining)

theorem behind_ofParts (p m r : Text) (a : α) :
    (ofParts p m r a).behind front = ofParts (front ++ p) m r a := by
  cases p with
  | nil => rw [List.append_nil]; rfl
  | cons => cases front <;> rfl

@[simp] theorem value?_behind : (o.behind front).value? = o.value? := by
  cases o with
  | success => exact value?_ofParts ..
  | partialSuccess | failure => rfl

@[simp] theorem isSuccess_behind : (o.behind front).isSuccess = o.isSuccess := by
  rw [isSuccess_eq, isSuccess_eq, value?_behind]

@[simp] theorem matched_behind : (o.behind front).matched = o.matched := by
  cases o with
  | success => exact matched_ofParts ..
  | partialSuccess | failure => rfl

theorem skipped_behind (h : o.isSuccess = true) :
    (o.behind front).skipped = front ++ o.skipped := by
  cases o with
  | success => exact (skipped_ofParts ..).trans (List.append_nil front).symm
  | partialSuccess => rfl
  | failure => exact nomatch h

theorem remaining_behind (h : o.isSuccess = true) :
    (o.behind front).remaining = o.remaining := by
  cases o with
  | success => exact remaining_ofParts ..
  | partialSuccess => rfl
  | failure => exact nomatch h

theorem span_behind : (o.behind front).span = o.span.behind front := by
  cases o with
  | success => exact span_ofParts ..
  | partialSuccess | failure => rfl

theorem SameSpan.behind {p : Outcome α} (h : o.SameSpan p) (front : Text) :
    (o.behind front).SameSpan (p.behind front) := by
  unfold SameSpan
  rw [span_behind, span_behind, h]

end Outcome

/-! ### Combinators -/

namespace Matcher
open Outcome Text

variable {first second body current forward : Matcher α} {literal front rest : Text}

/-- The lenient match of `front ++ rest` is the strict match of `rest`, behind `front`. -/
def Resumes (m : Matcher α) (front rest : Text) : Prop :=
  (m .lenient (front ++ rest)).result.SameSpan ((m .strict rest).result.behind front)

/-- Where the literal occurs, a lenient match resumes at its first occurrence; elsewhere it
fails. -/
structure LedBy (literal : Text) (m : Matcher α) : Prop where
  absent : ∀ input, ¬ literal <:+: input → (m .lenient input).result.isSuccess = false
  resumes : ∀ front rest, FirstAt literal front rest → m.Resumes front rest

theorem Resumes.isSuccess (h : body.Resumes front rest) :
    (body .lenient (front ++ rest)).result.isSuccess = (body .strict rest).result.isSuccess :=
  (SameSpan.isSuccess h).trans isSuccess_behind

theorem Resumes.remaining (h : body.Resumes front rest)
    (hs : (body .strict rest).result.isSuccess = true) :
    (body .lenient (front ++ rest)).result.remaining = (body .strict rest).result.remaining :=
  (SameSpan.remaining h).trans (remaining_behind hs)

/-- Where the strict match succeeds, the lenient one skips the front and has the same parts. -/
theorem Resumes.exists_ofParts (h : body.Resumes front rest) (hp : body.Partitioning)
    (hs : (body .strict rest).result.isSuccess = true) :
    ∃ value, (body .lenient (front ++ rest)).result = .ofParts front
      (body .strict rest).result.matched (body .strict rest).result.remaining value := by
  have hskipped : (body .lenient (front ++ rest)).result.skipped = front := by
    rw [SameSpan.skipped h, skipped_behind hs, (hp .strict rest).skipped_strict, List.append_nil]
  have hmatched : (body .lenient (front ++ rest)).result.matched =
      (body .strict rest).result.matched := (SameSpan.matched h).trans matched_behind
  obtain ⟨value, hvalue⟩ := (hp .lenient _).exists_ofParts (h.isSuccess.trans hs)
  rw [hskipped, hmatched, h.remaining hs] at hvalue
  exact ⟨value, hvalue⟩

theorem ledBy_terminal [TreeLike α] (literal : Text) :
    LedBy literal (terminal literal : Matcher α) := by
  constructor
  · intro input habsent
    have hnone : offset? literal .lenient input = none := by
      refine find?_eq_none_iff.mpr fun front back hs => habsent ⟨front, back, ?_⟩
      rw [hs, List.append_assoc]
    rw [result_terminal, hnone]
    rfl
  · intro front rest h
    obtain ⟨back, rfl⟩ := h.stands
    have hfound : offset? literal .lenient (front ++ (literal ++ back)) = some front.byteSize :=
      firstAt_iff_find?.mp h
    unfold Resumes
    rw [result_terminal_strict, result_terminal, hfound]
    exact congrArg span (split_byteSize ..)

/-- A first part that matches something makes the second one strict, in both modes. -/
theorem Resumes.sequence [TreeLike α] (pa : first.Partitioning) (pb : second.Partitioning)
    (hc : first.Consuming) (h : first.Resumes front rest) :
    (sequence first second).Resumes front rest := by
  unfold Resumes
  rcases h.values with ⟨hv, hv'⟩ | ⟨a, a', hv, hv'⟩
  · rw [value?_behind] at hv'
    rw [result_sequence_none hv, result_sequence_none hv']
    rfl
  rw [value?_behind] at hv'
  have hs := isSuccess_of_value? hv'
  have hm := hc .strict rest hs
  have hm' := hc .lenient (front ++ rest) (isSuccess_of_value? hv)
  have hfollow : follow first second .lenient (front ++ rest) =
      follow first second .strict rest := by
    rw [pa.follow_moved hm, pa.follow_moved hm', h.remaining hs]
  cases hw : (follow first second .strict rest).value? with
  | none =>
    rw [result_sequence_some_none hv (hfollow ▸ hw), result_sequence_some_none hv' hw]
    rfl
  | some b =>
    rw [pa.result_sequence_some_some pb hv (hfollow ▸ hw), pa.result_sequence_some_some pb hv' hw,
      behind_ofParts, hfollow, SameSpan.skipped h, skipped_behind hs, SameSpan.matched h,
      matched_behind, List.append_assoc]
    exact (span_ofParts ..).trans (span_ofParts ..).symm

/-- Succeeds everywhere, and matches nothing. -/
def Idle (m : Matcher α) : Prop :=
  ∀ mode input, (m mode input).result.isSuccess = true ∧ (m mode input).result.matched = []

theorem Idle.visit (node : Expr α) (h : body.Idle) : (visit node body).Idle := by
  intro mode input
  rw [isSuccess_visit, matched_visit]
  exact h mode input

/-- Behind a first part that is nothing, the second one does what the sequence does. -/
theorem Idle.sequence [TreeLike α] (hi : first.Idle) (pa : first.Partitioning)
    (pb : second.Partitioning) (mode : Mode) (input : Text) :
    (sequence first second mode input).result.SameSpan (second mode input).result := by
  obtain ⟨hsuccess, hm⟩ := hi mode input
  obtain ⟨a, hv⟩ := exists_value? hsuccess
  have hfollow : follow first second mode input = (second mode input).result := pa.follow_idle hm
  cases hw : (second mode input).result.value? with
  | none =>
    rw [result_sequence_some_none hv (hfollow ▸ hw),
      (pb mode input).eq_failure (value?_eq_none.mp hw)]
    rfl
  | some b =>
    obtain ⟨value, hparts⟩ := (pb mode input).exists_ofParts (isSuccess_of_value? hw)
    rw [pa.result_sequence_some_some pb hv (hfollow ▸ hw), hfollow, hm,
      ((pa mode input).remaining_eq hm).1, List.nil_append, List.nil_append]
    exact (span_ofParts ..).trans ((congrArg span hparts).trans (span_ofParts ..)).symm

theorem LedBy.sequence_of_consuming [TreeLike α] (pa : first.Partitioning)
    (pb : second.Partitioning) (hc : first.Consuming) (h : first.LedBy literal) :
    (sequence first second).LedBy literal := by
  constructor
  · intro input habsent
    rw [result_sequence_none (value?_eq_none.mpr (h.absent input habsent))]
    rfl
  · exact fun front rest hfirst => (h.resumes front rest hfirst).sequence pa pb hc

theorem LedBy.sequence_of_idle [TreeLike α] (pa : first.Partitioning) (pb : second.Partitioning)
    (hi : first.Idle) (h : second.LedBy literal) : (sequence first second).LedBy literal := by
  constructor
  · intro input habsent
    rw [(hi.sequence pa pb .lenient input).isSuccess]
    exact h.absent input habsent
  · intro front rest hfirst
    calc (Matcher.sequence first second .lenient (front ++ rest)).result.span
      _ = (second .lenient (front ++ rest)).result.span := hi.sequence pa pb ..
      _ = ((second .strict rest).result.behind front).span := h.resumes front rest hfirst
      _ = _ := ((hi.sequence pa pb .strict rest).behind front).symm

/-- What is looked at ahead is the same text in both. -/
theorem Resumes.guarded (expected : Bool) (h : current.Resumes front rest) :
    (guarded expected current forward).Resumes front rest := by
  unfold Resumes
  rw [result_guarded, result_guarded, h.isSuccess]
  by_cases hs : (current .strict rest).result.isSuccess = true
  · rw [if_pos hs, if_pos hs, h.remaining hs]
    split
    · exact h
    · rfl
  · rw [if_neg hs, if_neg hs]
    rfl

theorem LedBy.guarded (expected : Bool) (h : current.LedBy literal) :
    (guarded expected current forward).LedBy literal := by
  constructor
  · intro input habsent
    rw [result_guarded, if_neg (Bool.eq_false_iff.mp (h.absent input habsent))]
    rfl
  · exact fun front rest hfirst => (h.resumes front rest hfirst).guarded expected

theorem LedBy.visit (node : Expr α) (h : body.LedBy literal) : (visit node body).LedBy literal := by
  constructor
  · intro input habsent
    rw [isSuccess_visit]
    exact h.absent input habsent
  · intro front rest hfirst
    calc (Matcher.visit node body .lenient (front ++ rest)).result.span
      _ = (body .lenient (front ++ rest)).result.span := visit_sameSpan node ..
      _ = ((body .strict rest).result.behind front).span := h.resumes front rest hfirst
      _ = _ := (SameSpan.behind (visit_sameSpan node ..) front).symm

end Matcher

/-! ### Expressions -/

namespace Expr

variable [TreeLike α]

theorem run_idle {e : Expr α} (h : e.literal? = some []) : e.run.Idle := by
  refine Matcher.Idle.visit e fun mode input => ?_
  cases e with
  | terminal mark literal =>
    obtain rfl : literal = [] := Option.some.inj h
    rw [attempt, Matcher.result_terminal_nil]
    exact ⟨rfl, rfl⟩
  | empty mark =>
    rw [attempt, Matcher.result_empty]
    exact ⟨rfl, rfl⟩
  | _ => exact nomatch h

theorem attempt_ledBy {e : Expr α} (h : e.WellFormed) {literal : Text}
    (hl : e.lead? = some literal) : e.attempt.LedBy literal := by
  induction e with
  | terminal mark own =>
    obtain rfl : own = literal := Option.some.inj hl
    exact Matcher.ledBy_terminal own
  | sequence mark a b iha ihb =>
    obtain ⟨_, ha, hb⟩ := h
    rw [lead?] at hl
    split at hl
    next hn =>
      have hc := run_consuming ha (by simpa using hn)
      exact .sequence_of_consuming a.run_partitioning b.run_partitioning hc ((iha ha hl).visit a)
    next =>
      split at hl
      next hidle =>
        exact .sequence_of_idle a.run_partitioning b.run_partitioning (run_idle hidle)
          ((ihb hb hl).visit b)
      next => exact nomatch hl
  | ahead mark a b iha _ => exact ((iha h.2.1 hl).visit a).guarded true
  | notAhead mark a b iha _ => exact ((iha h.2.1 hl).visit a).guarded false
  | production mark body ih => exact ih h.2.2 hl
  | empty | choice | optional | repetition => exact nomatch hl

theorem run_ledBy {e : Expr α} (h : e.WellFormed) {literal : Text}
    (hl : e.lead? = some literal) : e.run.LedBy literal := (attempt_ledBy h hl).visit e

end Expr

/-! ### Grammars -/

namespace Grammar

/-- **A lenient match goes on strictly from the first occurrence of the leading literal.** Without
one it fails. Otherwise it skips the shortest front behind which the literal stands, and takes and
leaves what the strict match of the rest does; and it fails if that one does, whatever else occurs
further on. -/
theorem parse_from_lead [TreeLike α] (g : Grammar α) {literal : Text}
    (h : g.expr.lead? = some literal) (input : Text) :
    (¬ literal <:+: input → g.parse input = .failure input) ∧
    (literal <:+: input → ∃ front rest, front ++ rest = input ∧ Text.FirstAt literal front rest ∧
      ((g.parseIn .strict rest).isSuccess = false → g.parse input = .failure input) ∧
      ((g.parseIn .strict rest).isSuccess = true → ∃ value, g.parse input =
        .ofParts front (g.parseIn .strict rest).matched (g.parseIn .strict rest).remaining
          value)) := by
  have hled : g.run.LedBy literal := Expr.run_ledBy g.wellFormed h
  have hp : g.run.Partitioning := g.expr.run_partitioning
  refine ⟨fun habsent => (hp .lenient input).eq_failure (hled.absent input habsent),
    fun hoccurs => ?_⟩
  obtain ⟨front, rest, rfl, hfirst⟩ := Text.exists_firstAt hoccurs
  have hresumes := hled.resumes front rest hfirst
  refine ⟨front, rest, rfl, hfirst, fun hno => ?_, fun hs => hresumes.exists_ofParts hp hs⟩
  exact (hp .lenient _).eq_failure (hresumes.isSuccess.trans hno)

/-- The first `a` has no `b` behind it, and the second one is not looked at; and an expression that
is led by the second part of a sequence, and looks ahead. -/
theorem parse_from_lead_pairs :
    let pair : Grammar Tree := (terminal ['a']).andThen (terminal ['b'])
    let marked : Grammar Tree :=
      (empty.andThen (pair.before (terminal ['!']))).listen ReadyMade.matchedText
    pair.expr.lead? = some ['a'] ∧ pair.parse "xacab".toList = .failure "xacab".toList ∧
    marked.expr.lead? = some ['a'] ∧
      ∃ value, marked.parse "éxab!ab".toList =
        .partialSuccess "éx".toList "ab".toList "!ab".toList value := by
  intro pair marked
  refine ⟨rfl, ?_, rfl, ?_⟩
  · obtain ⟨front, rest, hinput, hfirst, hfails, _⟩ :=
      (parse_from_lead pair rfl "xacab".toList).2 (by decide +kernel)
    have hx : Text.FirstAt ['a'] ['x'] "acab".toList := by decide +kernel
    obtain ⟨rfl, rfl⟩ := hx.unique hfirst hinput.symm
    exact hfails (by decide +kernel)
  · obtain ⟨front, rest, hinput, hfirst, _, hsucceeds⟩ :=
      (parse_from_lead marked rfl "éxab!ab".toList).2 (by decide +kernel)
    have hx : Text.FirstAt ['a'] "éx".toList "ab!ab".toList := by decide +kernel
    obtain ⟨rfl, rfl⟩ := hx.unique hfirst hinput.symm
    obtain ⟨value, hvalue⟩ := hsucceeds (by decide +kernel)
    exact ⟨value, hvalue⟩

end Grammar

end Peg
