import Peg.Proofs.Combinators
import Peg.Grammar.ReadyMade

/-! Matching takes no notice of listeners and productions.

A listener is an arbitrary function that is called in the middle of a run, and a
production is a node of its own. Neither has a say in what is matched:
`Grammar.alike_of_same_tree` compares two grammars, whatever their types of values, that
are the same tree once the productions are unwrapped (`unwrapped`) and the listeners
dropped (`bare`).

The comparison is one of two runs. They are `Alike` when they come to outcomes with
the same span and show the same events. How much of an event is looked at is a
parameter, the `view`: dropping listeners leaves events as they are, while unwrapping a
production changes the kind of node that an event names, and nothing else. -/
namespace Peg

variable {α β γ ν : Type}

/-! ### Outcomes without their values -/

namespace Outcome

/-- The outcome with its value forgotten. -/
def span : Outcome α → Outcome Unit
  | .success matched remaining _ => .success matched remaining ()
  | .partialSuccess skipped matched remaining _ => .partialSuccess skipped matched remaining ()
  | .failure remaining => .failure remaining

@[simp] theorem skipped_span (o : Outcome α) : o.span.skipped = o.skipped := by
  cases o <;> rfl

@[simp] theorem matched_span (o : Outcome α) : o.span.matched = o.matched := by
  cases o <;> rfl

@[simp] theorem remaining_span (o : Outcome α) : o.span.remaining = o.remaining := by
  cases o <;> rfl

@[simp] theorem isSuccess_span (o : Outcome α) : o.span.isSuccess = o.isSuccess := by
  cases o <;> rfl

@[simp] theorem span_withValue (o : Outcome α) (a : α) : (o.withValue a).span = o.span := by
  cases o <;> rfl

theorem span_ofParts (p m r : Text) (a : α) : (ofParts p m r a).span = ofParts p m r () := by
  cases p <;> rfl

theorem span_split (input : Text) (skip size : Nat) (a : α) :
    (split input skip size a).span = split input skip size () :=
  span_ofParts _ _ _ a

/-- Alike but for their values. -/
def SameSpan (o : Outcome α) (p : Outcome β) : Prop := o.span = p.span

namespace SameSpan

variable {o : Outcome α} {p : Outcome β}

theorem skipped (h : o.SameSpan p) : o.skipped = p.skipped := by
  simpa using congrArg Outcome.skipped h

theorem matched (h : o.SameSpan p) : o.matched = p.matched := by
  simpa using congrArg Outcome.matched h

theorem remaining (h : o.SameSpan p) : o.remaining = p.remaining := by
  simpa using congrArg Outcome.remaining h

theorem isSuccess (h : o.SameSpan p) : o.isSuccess = p.isSuccess := by
  simpa using congrArg Outcome.isSuccess h

theorem consumed (h : o.SameSpan p) : o.consumed = p.consumed := by
  unfold Outcome.consumed
  rw [h.skipped, h.matched]

/-- Both have a value, or neither has. -/
theorem values (h : o.SameSpan p) :
    (o.value? = none ∧ p.value? = none) ∨ ∃ a b, o.value? = some a ∧ p.value? = some b := by
  cases hs : o.isSuccess with
  | false => exact .inl ⟨value?_eq_none.mpr hs, value?_eq_none.mpr (h.isSuccess.symm.trans hs)⟩
  | true =>
    obtain ⟨a, ha⟩ := exists_value? hs
    obtain ⟨b, hb⟩ := exists_value? (h.isSuccess.symm.trans hs)
    exact .inr ⟨a, b, ha, hb⟩

theorem split (input : Text) (skip size : Nat) (a : α) (b : β) :
    (Outcome.split input skip size a).SameSpan (Outcome.split input skip size b) := by
  unfold SameSpan
  rw [span_split, span_split]

end SameSpan

end Outcome

/-! ### Two runs -/

namespace Recorded

variable {δ γ' δ' : Type}

@[simp] theorem events_bind (r : Recorded (Entry α) γ) (f : γ → Recorded (Entry α) δ) :
    (r >>= f).events = r.events ++ (f r.result).events := by
  simp [events]

/-- Results that are related, and the same events as far as `view` shows them. -/
structure Alike (view : Event → ν) (R : γ → δ → Prop) (r : Recorded (Entry α) γ)
    (s : Recorded (Entry β) δ) : Prop where
  result : R r.result s.result
  events : r.events.map view = s.events.map view

namespace Alike

variable {view : Event → ν} {R : γ → δ → Prop} {Q : γ' → δ' → Prop}
variable {r : Recorded (Entry α) γ} {s : Recorded (Entry β) δ}

theorem pure {b : γ} {c : δ} (h : R b c) :
    Alike view R (pure b : Recorded (Entry α) γ) (pure c : Recorded (Entry β) δ) := ⟨h, rfl⟩

theorem bind {f : γ → Recorded (Entry α) γ'} {g : δ → Recorded (Entry β) δ'}
    (h : Alike view R r s) (hfg : Alike view Q (f r.result) (g s.result)) :
    Alike view Q (r >>= f) (s >>= g) := by
  refine ⟨hfg.result, ?_⟩
  rw [events_bind, events_bind, List.map_append, List.map_append, h.events, hfg.events]

theorem map {f : γ → γ'} {g : δ → δ'} (h : Alike view R r s)
    (hfg : Q (f r.result) (g s.result)) : Alike view Q (f <$> r) (g <$> s) := ⟨hfg, h.events⟩

end Alike

end Recorded

/-! ### Combinators -/

namespace Matcher
open Outcome

variable {view : Event → ν} {first second body current forward : Matcher α}
variable {first' second' body' current' forward' : Matcher β}

/-- Whatever they are run on, outcomes of the same span, and the same events. -/
def Alike (view : Event → ν) (m : Matcher α) (n : Matcher β) : Prop :=
  ∀ mode input, (m mode input).Alike view SameSpan (n mode input)

theorem Alike.symm (h : body.Alike view body') : body'.Alike view body :=
  fun mode input => ⟨(h mode input).result.symm, (h mode input).events.symm⟩

theorem Alike.trans {body'' : Matcher γ} (h : body.Alike view body')
    (h' : body'.Alike view body'') : body.Alike view body'' :=
  fun mode input => ⟨(h mode input).result.trans (h' mode input).result,
    (h mode input).events.trans (h' mode input).events⟩

/-- As many items, and the same rest. -/
theorem Alike.chain (h : body.Alike view body') (input : Text) :
    (chain body input).Alike view (fun x y => x.1.length = y.1.length ∧ x.2 = y.2)
      (chain body' input) := by
  have hitem := (h .strict input).result
  rw [Matcher.chain, Matcher.chain]
  refine .bind (h .strict input) ?_
  rcases hitem.values with ⟨hv, hv'⟩ | ⟨a, a', hv, hv'⟩
  · simp only [hv, hv']
    exact .pure ⟨rfl, rfl⟩
  simp only [hv, hv', hitem.remaining]
  split
  · have hrest := h.chain (body' .strict input).result.remaining
    exact .map hrest ⟨congrArg (· + 1) hrest.result.1, hrest.result.2⟩
  · exact .pure ⟨rfl, rfl⟩
termination_by input.length

section Building
variable [TreeLike α] [TreeLike β]

theorem alike_terminal (literal : Text) :
    Alike view (terminal literal : Matcher α) (terminal literal : Matcher β) := by
  intro mode input
  refine .pure ?_
  cases offset? literal mode input with
  | none => rfl
  | some skip => exact .split ..

theorem alike_empty : Alike view (empty : Matcher α) (empty : Matcher β) :=
  fun _ _ => .pure (.split ..)

theorem join_sameSpan {left right : Outcome α} {left' right' : Outcome β} (input : Text)
    (hl : left.SameSpan left') (hr : right.SameSpan right') (a b : α) (a' b' : β) :
    (join input left right a b).SameSpan (join input left' right' a' b') := by
  unfold join
  rw [hl.skipped, hr.skipped, hr.remaining]
  exact .split ..

theorem Alike.sequence (ha : first.Alike view first') (hb : second.Alike view second') :
    (sequence first second).Alike view (sequence first' second') := by
  intro mode input
  have hl := (ha mode input).result
  refine .bind (ha mode input) ?_
  rcases hl.values with ⟨hv, hv'⟩ | ⟨a, a', hv, hv'⟩
  · simp only [hv, hv']
    exact .pure rfl
  simp only [hv, hv', hl.remaining]
  have hr := (hb (followMode mode input (first' mode input).result.remaining)
    (first' mode input).result.remaining).result
  refine .bind (hb _ _) ?_
  rcases hr.values with ⟨hw, hw'⟩ | ⟨b, b', hw, hw'⟩
  · simp only [hw, hw']
    exact .pure rfl
  · simp only [hw, hw']
    exact .pure (join_sameSpan input hl hr a b a' b')

theorem Alike.optional (h : body.Alike view body') :
    (optional body).Alike view (optional body') := by
  intro mode input
  have htaken := (h mode input).result
  refine .bind (h mode input) (.pure ?_)
  rw [htaken.isSuccess]
  split
  · exact htaken
  · exact .split ..

theorem Alike.repetition (h : body.Alike view body') (min : Nat) :
    (repetition body min).Alike view (repetition body' min) := by
  intro mode input
  obtain ⟨hlength, hrest⟩ := (h.chain input).result
  refine .bind (h.chain input) (.pure ?_)
  rw [hlength, hrest]
  split
  · rfl
  · exact .split ..

end Building

theorem Alike.choice (ha : first.Alike view first') (hb : second.Alike view second') :
    (choice first second).Alike view (choice first' second') := by
  intro mode input
  have hl := (ha mode input).result
  refine .bind (ha mode input) ?_
  rw [hl.isSuccess]
  split
  · exact .pure hl
  · exact hb mode input

theorem Alike.guarded (expected : Bool) (ha : current.Alike view current')
    (hb : forward.Alike view forward') :
    (guarded expected current forward).Alike view (guarded expected current' forward') := by
  intro mode input
  have hcurrent := (ha mode input).result
  refine .bind (ha mode input) ?_
  rw [hcurrent.isSuccess, hcurrent.remaining]
  split
  · have hnext := (hb .strict (current' mode input).result.remaining).result
    refine .bind (hb _ _) (.pure ?_)
    rw [hnext.isSuccess]
    split
    · exact hcurrent
    · rfl
  · exact .pure rfl

/-- Calling a listener changes the value at most, and is no event. -/
theorem notify_quiet (listener? : Option (Listener α)) (o : Outcome α) :
    (notify listener? o).result.SameSpan o ∧ (notify listener? o).events = [] := by
  unfold notify
  cases listener? with
  | none => exact ⟨rfl, rfl⟩
  | some listener =>
    dsimp only
    split
    · exact ⟨span_withValue o _, rfl⟩
    · exact ⟨rfl, rfl⟩

theorem visit_sameSpan (node : Expr α) (mode : Mode) (input : Text) :
    (visit node body mode input).result.SameSpan (body mode input).result :=
  (notify_quiet node.listener? _).1

theorem notify_alike {o : Outcome α} {p : Outcome β} (h : o.SameSpan p)
    (listener? : Option (Listener α)) (listener?' : Option (Listener β)) :
    (notify listener? o).Alike view SameSpan (notify listener?' p) := by
  obtain ⟨hspan, hevents⟩ := notify_quiet listener? o
  obtain ⟨hspan', hevents'⟩ := notify_quiet listener?' p
  exact ⟨(hspan.trans h).trans hspan'.symm, by rw [hevents, hevents']⟩

/-- Visits are alike if what they run is, and if the view does not tell their nodes apart. -/
theorem Alike.visit {node : Expr α} {node' : Expr β} (h : body.Alike view body')
    (hview : ∀ size consumed success,
      view ⟨node.kind, size, consumed, success⟩ = view ⟨node'.kind, size, consumed, success⟩) :
    (visit node body).Alike view (visit node' body') := by
  intro mode input
  have ho := (h mode input).result
  have hentry : (Recorded.record (.visit node mode input (body mode input).result)).Alike view
      (fun _ _ => True) (Recorded.record (.visit node' mode input (body' mode input).result)) := by
    refine ⟨trivial, ?_⟩
    show [view _] = [view _]
    rw [ho.consumed, hview, ho.isSuccess]
  exact .bind (h mode input) (.bind hentry (notify_alike ho _ _))

end Matcher

/-! ### Trees -/

/-- There is one value, and it is built of itself. -/
instance : TreeLike Unit := ⟨fun _ => (), fun _ _ => (), fun _ => (), ()⟩

/-- What an event shows apart from the kind of the node. -/
def Event.unnamed (e : Event) : Nat × Nat × Bool := (e.inputSize, e.consumed, e.success)

namespace Expr

/-- The tree without its listeners. No mark of the expression is looked at: the flags are set anew,
from the kinds of the nodes, the literals and the minima. -/
def bare : Expr α → Expr Unit
  | .terminal _ literal => .terminal { nullable := literal.isEmpty } literal
  | .empty _ => .empty { nullable := true }
  | .sequence _ first second =>
    .sequence { nullable := first.bare.nullable && second.bare.nullable } first.bare second.bare
  | .choice _ first second =>
    .choice { nullable := first.bare.nullable || second.bare.nullable } first.bare second.bare
  | .optional _ body => .optional { nullable := true } body.bare
  | .repetition _ body min => .repetition { nullable := min == 0 } body.bare min
  | .ahead _ current forward =>
    .ahead { nullable := current.bare.nullable } current.bare forward.bare
  | .notAhead _ current forward =>
    .notAhead { nullable := current.bare.nullable } current.bare forward.bare
  | .production _ body => .production { nullable := body.bare.nullable } body.bare

/-- The tree with every production replaced by what it stands for. -/
def unwrapped : Expr α → Expr α
  | .terminal mark literal => .terminal mark literal
  | .empty mark => .empty mark
  | .sequence mark first second => .sequence mark first.unwrapped second.unwrapped
  | .choice mark first second => .choice mark first.unwrapped second.unwrapped
  | .optional mark body => .optional mark body.unwrapped
  | .repetition mark body min => .repetition mark body.unwrapped min
  | .ahead mark current forward => .ahead mark current.unwrapped forward.unwrapped
  | .notAhead mark current forward => .notAhead mark current.unwrapped forward.unwrapped
  | .production _ body => body.unwrapped

/-! ### Flags and first sets -/

theorem nullable_bare {e : Expr α} (h : e.WellFormed) : e.bare.nullable = e.nullable := by
  rw [h.nullable_eq]
  induction e with
  | terminal | empty | optional | repetition => rfl
  | sequence mark a b iha ihb =>
    show (a.bare.nullable && b.bare.nullable) = (a.nullable && b.nullable)
    rw [iha h.2.1, ihb h.2.2, h.2.1.nullable_eq, h.2.2.nullable_eq]
  | choice mark a b iha ihb =>
    show (a.bare.nullable || b.bare.nullable) = (a.nullable || b.nullable)
    rw [iha h.2.1, ihb h.2.2, h.2.1.nullable_eq, h.2.2.nullable_eq]
  | ahead mark a b iha _ | notAhead mark a b iha _ => exact (iha h.2.1).trans h.2.1.nullable_eq.symm
  | production mark body ih => exact (ih h.2.2).trans h.2.2.nullable_eq.symm

theorem first_bare {e : Expr α} (h : e.WellFormed) : e.bare.first = e.first := by
  induction e with
  | terminal | empty => rfl
  | sequence mark a b iha ihb | ahead mark a b iha ihb =>
    simp only [bare, first, nullable_bare h.2.1, iha h.2.1, ihb h.2.2]
  | choice mark a b iha ihb => simp only [bare, first, iha h.2.1, ihb h.2.2]
  | optional mark body ih => exact ih h.2
  | notAhead mark a b iha _ => exact iha h.2.1
  | repetition mark body min ih | production mark body ih => exact ih h.2.2

theorem nullable_unwrapped {e : Expr α} (h : e.WellFormed) :
    e.unwrapped.nullable = e.nullable := by
  induction e with
  | production mark body ih => exact (ih h.2.2).trans h.nullable_eq.symm
  | _ => rfl

theorem WellFormed.unwrapped {e : Expr α} (h : e.WellFormed) : e.unwrapped.WellFormed := by
  induction e with
  | terminal | empty => exact h
  | sequence mark a b iha ihb | choice mark a b iha ihb =>
    refine ⟨h.1.trans ?_, iha h.2.1, ihb h.2.2⟩
    simp only [rule, Expr.unwrapped, nullable_unwrapped h.2.1, nullable_unwrapped h.2.2]
  | optional mark body ih => exact ⟨h.1, ih h.2⟩
  | repetition mark body min ih =>
    exact ⟨h.1, (nullable_unwrapped h.2.2).trans h.2.1, ih h.2.2⟩
  | ahead mark a b iha ihb | notAhead mark a b iha ihb =>
    exact ⟨h.1.trans (nullable_unwrapped h.2.1).symm, iha h.2.1, ihb h.2.2⟩
  | production mark body ih => exact ih h.2.2

theorem first_unwrapped {e : Expr α} (h : e.WellFormed) : e.unwrapped.first = e.first := by
  induction e with
  | terminal | empty => rfl
  | sequence mark a b iha ihb | ahead mark a b iha ihb =>
    simp only [unwrapped, first, nullable_unwrapped h.2.1, iha h.2.1, ihb h.2.2]
  | choice mark a b iha ihb => simp only [unwrapped, first, iha h.2.1, ihb h.2.2]
  | optional mark body ih => exact ih h.2
  | notAhead mark a b iha _ => exact iha h.2.1
  | repetition mark body min ih | production mark body ih => exact ih h.2.2

/-! ### Runs -/

theorem kind_bare (e : Expr α) : e.bare.kind = e.kind := by
  cases e <;> rfl

variable [TreeLike α]

/-- Dropping the listeners changes values at most. -/
theorem run_bare_alike {view : Event → ν} (e : Expr α) : e.run.Alike view e.bare.run := by
  have hrun : ∀ {e : Expr α}, e.attempt.Alike view e.bare.attempt → e.run.Alike view e.bare.run :=
    fun {e} h => h.visit fun _ _ _ => by rw [kind_bare]
  refine hrun ?_
  induction e with
  | terminal mark literal => exact Matcher.alike_terminal literal
  | empty mark => exact Matcher.alike_empty
  | sequence mark a b iha ihb => exact (hrun iha).sequence (hrun ihb)
  | choice mark a b iha ihb => exact (hrun iha).choice (hrun ihb)
  | optional mark body ih => exact (hrun ih).optional
  | repetition mark body min ih => exact (hrun ih).repetition min
  | ahead mark a b iha ihb => exact (hrun iha).guarded true (hrun ihb)
  | notAhead mark a b iha ihb => exact (hrun iha).guarded false (hrun ihb)
  | production mark body ih => exact ih

/-- Unwrapping the productions changes values at most, and which nodes the events name. -/
theorem run_unwrapped_alike (e : Expr α) : e.run.Alike Event.unnamed e.unwrapped.run := by
  have hrun : ∀ {e : Expr α}, e.attempt.Alike Event.unnamed e.unwrapped.attempt →
      e.run.Alike Event.unnamed e.unwrapped.run := fun h => h.visit fun _ _ _ => rfl
  refine hrun ?_
  induction e with
  | terminal mark literal => exact Matcher.alike_terminal literal
  | empty mark => exact Matcher.alike_empty
  | sequence mark a b iha ihb => exact (hrun iha).sequence (hrun ihb)
  | choice mark a b iha ihb => exact (hrun iha).choice (hrun ihb)
  | optional mark body ih => exact (hrun ih).optional
  | repetition mark body min ih => exact (hrun ih).repetition min
  | ahead mark a b iha ihb => exact (hrun iha).guarded true (hrun ihb)
  | notAhead mark a b iha ihb => exact (hrun iha).guarded false (hrun ihb)
  | production mark body ih => exact ih

end Expr

/-! ### Grammars -/

namespace Grammar

theorem isOk_times (g : Grammar α) (min : Nat) : (g.times min).isOk = !g.nullable := by
  unfold times
  split
  next h =>
    rw [h]
    rfl
  next h =>
    rw [eq_true_of_ne_false h]
    rfl

variable [TreeLike α] [TreeLike β]

/-- **Listeners and productions do not influence matching.** Two grammars that are the same tree
but for them agree on whether they are nullable and may be repeated and on what they may begin with;
and whatever they are run on, they skip, match and leave the same, and go through the same visits,
which show the same events where the productions stand at the same places. -/
theorem alike_of_same_tree (g : Grammar α) (g' : Grammar β)
    (h : g.expr.unwrapped.bare = g'.expr.unwrapped.bare) :
    g.nullable = g'.nullable ∧ g.first = g'.first ∧
    (∀ min, (g.times min).isOk = (g'.times min).isOk) ∧
    ∀ mode input, (g.parseIn mode input).span = (g'.parseIn mode input).span ∧
      (g.run mode input).events.map Event.unnamed = (g'.run mode input).events.map Event.unnamed ∧
      (g.expr.bare = g'.expr.bare → (g.run mode input).events = (g'.run mode input).events) := by
  have hwf := g.wellFormed.unwrapped
  have hwf' := g'.wellFormed.unwrapped
  have hnullable : g.nullable = g'.nullable := by
    calc g.expr.nullable
      _ = g.expr.unwrapped.bare.nullable := by
        rw [Expr.nullable_bare hwf, Expr.nullable_unwrapped g.wellFormed]
      _ = g'.expr.nullable := by
        rw [h, Expr.nullable_bare hwf', Expr.nullable_unwrapped g'.wellFormed]
  have hfirst : g.first = g'.first := by
    calc g.expr.first
      _ = g.expr.unwrapped.bare.first := by
        rw [Expr.first_bare hwf, Expr.first_unwrapped g.wellFormed]
      _ = g'.expr.first := by
        rw [h, Expr.first_bare hwf', Expr.first_unwrapped g'.wellFormed]
  have hrun : g.run.Alike Event.unnamed g'.run := by
    have hleft := g.expr.run_unwrapped_alike.trans g.expr.unwrapped.run_bare_alike
    have hright := g'.expr.run_unwrapped_alike.trans g'.expr.unwrapped.run_bare_alike
    rw [h] at hleft
    exact hleft.trans hright.symm
  refine ⟨hnullable, hfirst, fun min => ?_, fun mode input => ⟨?_, ?_, fun hbare => ?_⟩⟩
  · rw [isOk_times, isOk_times, hnullable]
  · exact (hrun mode input).result
  · exact (hrun mode input).events
  · have hleft : g.run.Alike id g.expr.bare.run := g.expr.run_bare_alike
    have hright : g'.run.Alike id g'.expr.bare.run := g'.expr.run_bare_alike
    rw [hbare] at hleft
    simpa using (hleft.trans hright.symm mode input).events

/-- Listeners of another type, and one more of them; then a production less. -/
theorem alike_of_same_tree_tokens :
    let sign : Grammar Tree := (terminal ['-']).listen ReadyMade.matchedText
    let sign' : Grammar Text := (terminal ['-']).listen { action := fun _ => [] }
    let one : Grammar Text := (terminal ['1']).withListener { action := Outcome.remaining }
    let number := sign.andThen ((terminal ['1']).atLeast 1 rfl)
    let number' := sign'.andThen (one.atLeast 1 rfl)
    let plain : Grammar Tree := (terminal ['-']).andThen ((terminal ['1']).atLeast 1 rfl)
    (number.expr.bare = number'.expr.bare ∧
      (number.run .lenient "x-11".toList).events = (number'.run .lenient "x-11".toList).events) ∧
    number.expr.unwrapped.bare = plain.expr.unwrapped.bare ∧ number.expr.bare ≠ plain.expr.bare ∧
      (number.parse "x-11".toList).span = (plain.parse "x-11".toList).span := by
  intro sign sign' one number number' plain
  have hsame : number.expr.unwrapped.bare = number'.expr.unwrapped.bare := rfl
  have hplain : number.expr.unwrapped.bare = plain.expr.unwrapped.bare := rfl
  refine ⟨⟨rfl, ?_⟩, hplain, nofun, ?_⟩
  · exact ((alike_of_same_tree number number' hsame).2.2.2 .lenient "x-11".toList).2.2 rfl
  · exact ((alike_of_same_tree number plain hplain).2.2.2 .lenient "x-11".toList).1

end Grammar

end Peg
