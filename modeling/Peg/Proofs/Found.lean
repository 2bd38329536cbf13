import Peg.Proofs.Anchored
import Peg.Proofs.First
import Peg.Proofs.Success

/-! Where a lenient match is found, a strict one stands.

A lenient match skips to where it finds something. A strict parse from there on need
not come to the same: an alternative that failed on the whole input may succeed where
another one was found, and a listener may look at what was skipped.

An expression is `Locatable` when neither can happen. Either nothing in it is looked
for, or its leading edge consumes, its choices are between literals of which none
begins with another, and its listeners overlook what was skipped. Then the lenient
match is the strict match from where it was found on, with the same value
(`Grammar.parseIn_strict_of_parse`). -/
namespace Peg

variable {α : Type}

/-! ### What is asked of listeners and literals -/

/-- The value does not depend on what was skipped. -/
def Listener.Overlooks (listener : Listener α) : Prop :=
  ∀ p m r a, listener.action (.ofParts p m r a) = listener.action (.success m r a)

/-- A listener, if there is one, overlooks what was skipped. -/
def Mark.Overlooks (mark : Mark α) : Prop :=
  ∀ listener, mark.listener? = some listener → listener.Overlooks

/-- No literal of one set begins with a literal of the other. -/
def LiteralSet.Apart (s t : LiteralSet) : Prop := ∀ a ∈ s, ∀ b ∈ t, ¬ a <+: b ∧ ¬ b <+: a

instance (s t : LiteralSet) : Decidable (s.Apart t) :=
  inferInstanceAs (Decidable (∀ a ∈ s.toList, ∀ b ∈ t.toList, ¬ a <+: b ∧ ¬ b <+: a))

/-- No text opens with literals of both. -/
theorem LiteralSet.Apart.not_opens {s t : LiteralSet} (h : s.Apart t) {text : Text}
    (hs : s.Opens text) : ¬ t.Opens text := by
  obtain ⟨a, ha, hfirst⟩ := hs
  rintro ⟨b, hb, hsecond⟩
  rcases Nat.le_total a.length b.length with hle | hle
  · exact (h a ha b hb).1 (List.prefix_of_prefix_length_le hfirst hsecond hle)
  · exact (h a ha b hb).2 (List.prefix_of_prefix_length_le hsecond hfirst hle)

/-- An outcome is as it was before its value was replaced, but for the value. -/
theorem Outcome.exists_of_withValue {o : Outcome α} {p m r : Text} {a a' : α}
    (h : o.withValue a' = .ofParts p m r a) : a' = a ∧ ∃ b, o = .ofParts p m r b := by
  cases p with
  | nil =>
    cases o with
    | success m' r' b =>
      obtain ⟨rfl, rfl, rfl⟩ := Outcome.success.inj h
      exact ⟨rfl, b, rfl⟩
    | partialSuccess | failure => exact nomatch h
  | cons c p =>
    cases o with
    | partialSuccess p' m' r' b =>
      obtain ⟨rfl, rfl, rfl, rfl⟩ := Outcome.partialSuccess.inj h
      exact ⟨rfl, b, rfl⟩
    | success | failure => exact nomatch h

/-! ### Combinators -/

namespace Matcher
open Outcome

variable {first second body current forward : Matcher α}

/-- A strict match from where a lenient one was found on comes to the same, with nothing
skipped. -/
def Locates (body : Matcher α) : Prop :=
  ∀ ⦃input p m r a⦄, (body .lenient input).result = .ofParts p m r a →
    (body .strict (m ++ r)).result = .success m r a

/-- On no text do both succeed strictly. -/
def Exclusive (first second : Matcher α) : Prop :=
  ∀ input, (second .strict input).result.isSuccess = true →
    (first .strict input).result.isSuccess = false

theorem locates_terminal [TreeLike α] (literal : Text) :
    Locates (terminal literal : Matcher α) := by
  intro input p m r a h
  rw [result_terminal] at h
  cases hn : offset? literal .lenient input with
  | none =>
    rw [hn] at h
    exact absurd h (failure_ne_ofParts input)
  | some n =>
    obtain ⟨front, back, rfl, rfl, _⟩ := offset?_eq_some hn
    simp only [hn, split_byteSize] at h
    obtain ⟨_, rfl, rfl, rfl⟩ := ofParts_inj h
    exact result_terminal_strict literal back

/-- Where nothing is looked for, nothing is skipped. -/
theorem Steady.locates (hs : body.Steady) (hp : body.Partitioning) : body.Locates := by
  intro input p m r a h
  have hstrict := (hs input).result.symm.trans h
  have hparts := hp .strict input
  rw [hstrict] at hparts
  obtain ⟨rfl, rfl⟩ := hparts.of_strict
  exact hstrict

/-- The second part is strict in any case, since the first one has consumed something. -/
theorem Locates.sequence [TreeLike α] (pa : first.Partitioning) (pb : second.Partitioning)
    (h : first.Locates) (hc : first.Consuming) : (sequence first second).Locates := by
  intro input p m r v hv
  obtain ⟨p₁, m₁, r₁, a, p₂, m₂, b, hfirst, hfollow, _, rfl, rfl⟩ := pa.sequence_parts pb hv
  have hs : (first .lenient input).result.isSuccess = true := by
    rw [hfirst]
    exact isSuccess_of_value? (value?_ofParts ..)
  rw [pa.follow_moved (hc .lenient input hs), hfirst, remaining_ofParts] at hfollow
  have hparts := pb .strict r₁
  rw [hfollow] at hparts
  obtain ⟨rfl, rfl⟩ := hparts.of_strict
  rw [List.append_assoc]
  exact pa.sequence_of_success pb (h hfirst) hfollow

/-- An alternative that failed does not get in the way of the one that was found. -/
theorem Locates.choice (ha : first.Locates) (hb : second.Locates) (he : Exclusive first second) :
    (choice first second).Locates := by
  intro input p m r a h
  rw [result_choice] at h ⊢
  split at h
  next =>
    rw [ha h]
    rfl
  next =>
    have hsecond := hb h
    have hfirst := he (m ++ r) (by rw [hsecond]; rfl)
    rw [hfirst, if_neg nofun]
    exact hsecond

/-- What is looked ahead at follows the match, wherever that was found. -/
theorem Locates.guarded (expected : Bool) (h : current.Locates) :
    (guarded expected current forward).Locates := by
  intro input p m r a hv
  rw [result_guarded] at hv ⊢
  split at hv
  next hs =>
    split at hv
    next hnext =>
      rw [hv, remaining_ofParts] at hnext
      rw [h hv]
      exact if_pos hnext
    next => exact absurd hv (failure_ne_ofParts input)
  next => exact absurd hv (failure_ne_ofParts input)

theorem Locates.visit {node : Expr α} (h : body.Locates)
    (hl : ∀ listener, node.listener? = some listener → listener.Overlooks) :
    (visit node body).Locates := by
  intro input p m r a hv
  rw [result_visit] at hv ⊢
  cases hnode : node.listener? with
  | none =>
    rw [hnode] at hv
    exact h hv
  | some listener =>
    rw [hnode] at hv
    obtain ⟨rfl, b, hb⟩ := exists_of_withValue hv
    rw [h hb, hb, hl listener hnode]
    rfl

/-- Two matchers that consume are exclusive if what they may begin with is apart. -/
theorem OpensWith.exclusive {s t : LiteralSet} (ha : first.OpensWith s) (hb : second.OpensWith t)
    (pa : first.Partitioning) (pb : second.Partitioning) (ca : first.Consuming)
    (cb : second.Consuming) (hapart : s.Apart t) : Exclusive first second := by
  intro input hs
  apply Bool.eq_false_iff.mpr
  intro hs'
  have hfirst := (ha .strict input (ca .strict input hs')).trans (pa .strict input).matched_stands
  have hsecond := (hb .strict input (cb .strict input hs)).trans (pb .strict input).matched_stands
  exact hapart.not_opens hfirst hsecond

end Matcher

/-! ### Expressions -/

namespace Expr

/-- A lenient match of the expression shows where a strict one stands. -/
inductive Locatable : Expr α → Prop where
  | anchored {e : Expr α} : e.anchored = true → Locatable e
  | terminal {mark : Mark α} {literal : Text} : mark.Overlooks → Locatable (.terminal mark literal)
  | sequence {mark : Mark α} {a b : Expr α} : mark.Overlooks → Locatable a → a.nullable = false →
      Locatable (.sequence mark a b)
  | choice {mark : Mark α} {a b : Expr α} : mark.Overlooks → Locatable a → Locatable b →
      a.nullable = false → b.nullable = false → a.first.Apart b.first →
      Locatable (.choice mark a b)
  | ahead {mark : Mark α} {a b : Expr α} : mark.Overlooks → Locatable a →
      Locatable (.ahead mark a b)
  | notAhead {mark : Mark α} {a b : Expr α} : mark.Overlooks → Locatable a →
      Locatable (.notAhead mark a b)
  | production {mark : Mark α} {body : Expr α} : mark.Overlooks → Locatable body →
      Locatable (.production mark body)

variable [TreeLike α]

/-- Its own listener does not stand in the way. -/
theorem Locatable.run {e : Expr α} (h : e.Locatable) (hw : e.WellFormed)
    (ha : e.attempt.Locates) : e.run.Locates := by
  cases h with
  | anchored h => exact (run_steady hw h).locates e.run_partitioning
  | terminal h | sequence h | choice h | ahead h | notAhead h | production h =>
    apply ha.visit
    exact h

theorem attempt_locates {e : Expr α} (h : e.Locatable) (hw : e.WellFormed) :
    e.attempt.Locates := by
  induction h with
  | anchored h => exact (attempt_steady hw h).locates (attempt_partitioning _)
  | terminal => exact Matcher.locates_terminal _
  | @sequence mark a b _ ha hn iha =>
    obtain ⟨_, hwa, _⟩ := hw
    exact (ha.run hwa (iha hwa)).sequence a.run_partitioning b.run_partitioning
      (run_consuming hwa hn)
  | @choice mark a b _ ha hb hna hnb hapart iha ihb =>
    obtain ⟨_, hwa, hwb⟩ := hw
    apply (ha.run hwa (iha hwa)).choice (hb.run hwb (ihb hwb))
    exact (run_opensWith hwa).exclusive (run_opensWith hwb) a.run_partitioning b.run_partitioning
      (run_consuming hwa hna) (run_consuming hwb hnb) hapart
  | ahead _ ha iha => exact (ha.run hw.2.1 (iha hw.2.1)).guarded true
  | notAhead _ ha iha => exact (ha.run hw.2.1 (iha hw.2.1)).guarded false
  | production _ _ ih => exact ih hw.2.2

theorem run_locates {e : Expr α} (h : e.Locatable) (hw : e.WellFormed) : e.run.Locates :=
  h.run hw (attempt_locates h hw)

end Expr

/-- **Where a lenient match is found, a strict one stands.** -/
theorem Grammar.parseIn_strict_of_parse [TreeLike α] {g : Grammar α} (h : g.expr.Locatable)
    {input p m r : Text} {a : α} (hparse : g.parse input = .ofParts p m r a) :
    g.parseIn .strict (m ++ r) = .success m r a :=
  Expr.run_locates h g.wellFormed hparse

end Peg
