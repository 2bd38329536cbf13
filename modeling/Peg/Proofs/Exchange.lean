import Peg.Proofs.Lead

/-! Exchanging a part of a grammar.

Two grammars are `Equivalent` when they are nullable alike and come to outcomes of
the same span, whatever they are run on. Their values may differ, and so may the
visits on the way; nothing that is built around them tells them apart by either.

A `Context` is what is built around a part, one operation after another from the
inside outwards. An operation is refused for both of two equivalent parts or for
neither, and keeps them equivalent (`around_alike`); so does a context, however
deep in it the part stands (`fill_equivalent`). -/
namespace Peg

variable {α : Type}

/-! ### Combinators -/

namespace Matcher
open Outcome

variable {first second body current forward : Matcher α} {mode : Mode} {input : Text}
variable {first' second' body' current' forward' : Matcher α}

/-- Whatever they are run on, outcomes of the same span. -/
def Coextensive (m n : Matcher α) : Prop :=
  ∀ mode input, (m mode input).result.SameSpan (n mode input).result

theorem Coextensive.refl (m : Matcher α) : m.Coextensive m := fun _ _ => rfl

theorem Coextensive.symm (h : body.Coextensive body') : body'.Coextensive body :=
  fun mode input => Eq.symm (h mode input)

theorem Coextensive.trans {body'' : Matcher α} (h : body.Coextensive body')
    (h' : body'.Coextensive body'') : body.Coextensive body'' :=
  fun mode input => Eq.trans (h mode input) (h' mode input)

/-- The listener of a node sees to the value alone. -/
theorem coextensive_visit (node : Expr α) (body : Matcher α) : (visit node body).Coextensive body :=
  visit_sameSpan node

/-! What its parts enter in the journal has no say in what a combinator comes to. So coextensive
parts may as well be run without a journal, and then they run alike. -/

/-- The matcher without its journal. -/
def silent (m : Matcher α) : Matcher α := fun mode input => pure (m mode input).result

theorem Coextensive.alike (h : body.Coextensive body') :
    body.silent.Alike (fun _ => ()) body'.silent := fun mode input => ⟨h mode input, rfl⟩

theorem result_sequence_silent [TreeLike α] (first second : Matcher α) :
    (sequence first.silent second.silent mode input).result =
      (sequence first second mode input).result := by
  simp only [sequence, silent, Recorded.result_bind, Recorded.result_pure]
  split
  · rfl
  · rw [Recorded.result_bind, Recorded.result_bind, Recorded.result_pure]

theorem result_choice_silent (first second : Matcher α) :
    (choice first.silent second.silent mode input).result =
      (choice first second mode input).result := by
  rw [result_choice, result_choice]
  rfl

theorem result_guarded_silent (expected : Bool) (current forward : Matcher α) :
    (guarded expected current.silent forward.silent mode input).result =
      (guarded expected current forward mode input).result := by
  rw [result_guarded, result_guarded]
  rfl

theorem result_chain_silent (body : Matcher α) (input : Text) :
    (chain body.silent input).result = (chain body input).result := by
  rw [chain, chain]
  simp only [silent, Recorded.result_bind, Recorded.result_pure]
  split
  · rfl
  · split
    · rw [Recorded.result_map, Recorded.result_map,
        result_chain_silent body (body .strict input).result.remaining]
    · rfl
termination_by input.length

section Building
variable [TreeLike α]

theorem Coextensive.sequence (ha : first.Coextensive first') (hb : second.Coextensive second') :
    (sequence first second).Coextensive (sequence first' second') := by
  intro mode input
  rw [← result_sequence_silent first, ← result_sequence_silent first']
  exact (ha.alike.sequence hb.alike mode input).result

theorem Coextensive.optional (h : body.Coextensive body') :
    (optional body).Coextensive (optional body') :=
  fun mode input => (h.alike.optional mode input).result

theorem Coextensive.repetition (h : body.Coextensive body') (min : Nat) :
    (repetition body min).Coextensive (repetition body' min) := by
  intro mode input
  rw [result_repetition, result_repetition, ← result_chain_silent body, ← result_chain_silent body']
  exact (h.alike.repetition min mode input).result

end Building

theorem Coextensive.choice (ha : first.Coextensive first') (hb : second.Coextensive second') :
    (choice first second).Coextensive (choice first' second') := by
  intro mode input
  rw [← result_choice_silent first, ← result_choice_silent first']
  exact (ha.alike.choice hb.alike mode input).result

theorem Coextensive.guarded (expected : Bool) (ha : current.Coextensive current')
    (hb : forward.Coextensive forward') :
    (guarded expected current forward).Coextensive (guarded expected current' forward') := by
  intro mode input
  rw [← result_guarded_silent expected current, ← result_guarded_silent expected current']
  exact (ha.alike.guarded expected hb.alike mode input).result

end Matcher

/-! ### Grammars -/

namespace Grammar
open Matcher

/-- Nullable alike, and on every input in both modes the same but for the value. -/
structure Equivalent [TreeLike α] (g g' : Grammar α) : Prop where
  nullable : g.nullable = g'.nullable
  spans : ∀ mode input, (g.parseIn mode input).SameSpan (g'.parseIn mode input)

namespace Equivalent
variable [TreeLike α] {g g' next next' : Grammar α}

theorem refl (g : Grammar α) : g.Equivalent g := ⟨rfl, Coextensive.refl g.run⟩

/-- It does not matter whether the grammars are run with their own listeners. -/
theorem attempt (h : g.Equivalent g') : g.attempt.Coextensive g'.attempt :=
  ((coextensive_visit g.expr _).symm.trans h.spans).trans (coextensive_visit g'.expr _)

theorem of_attempt (hn : g.nullable = g'.nullable) (h : g.attempt.Coextensive g'.attempt) :
    g.Equivalent g' where
  nullable := hn
  spans := ((coextensive_visit g.expr _).trans h).trans (coextensive_visit g'.expr _).symm

theorem andThen (h : g.Equivalent g') (h' : next.Equivalent next') :
    (g.andThen next).Equivalent (g'.andThen next') := by
  apply of_attempt
  · show (g.nullable && next.nullable) = (g'.nullable && next'.nullable)
    rw [h.nullable, h'.nullable]
  · exact Coextensive.sequence h.spans h'.spans

theorem orElse (h : g.Equivalent g') (h' : next.Equivalent next') :
    (g.orElse next).Equivalent (g'.orElse next') := by
  apply of_attempt
  · show (g.nullable || next.nullable) = (g'.nullable || next'.nullable)
    rw [h.nullable, h'.nullable]
  · exact Coextensive.choice h.spans h'.spans

theorem optionally (h : g.Equivalent g') : g.optionally.Equivalent g'.optionally :=
  of_attempt rfl (Coextensive.optional h.spans)

theorem before (h : g.Equivalent g') (h' : next.Equivalent next') :
    (g.before next).Equivalent (g'.before next') :=
  of_attempt h.nullable (Coextensive.guarded true h.spans h'.spans)

theorem notBefore (h : g.Equivalent g') (h' : next.Equivalent next') :
    (g.notBefore next).Equivalent (g'.notBefore next') :=
  of_attempt h.nullable (Coextensive.guarded false h.spans h'.spans)

theorem atLeast (h : g.Equivalent g') (min : Nat) (hn : g.nullable = false)
    (hn' : g'.nullable = false) : (g.atLeast min hn).Equivalent (g'.atLeast min hn') :=
  of_attempt rfl (Coextensive.repetition h.spans min)

theorem withListener (h : g.Equivalent g') (listener : Listener α) :
    (g.withListener listener).Equivalent (g'.withListener listener) := by
  apply of_attempt
  · show (g.expr.withListener listener).nullable = (g'.expr.withListener listener).nullable
    rw [Expr.nullable_withListener, Expr.nullable_withListener]
    exact h.nullable
  · show (g.expr.withListener listener).attempt.Coextensive (g'.expr.withListener listener).attempt
    rw [Expr.withListener, Expr.withListener, Expr.attempt_remark, Expr.attempt_remark]
    exact h.attempt

theorem listen (h : g.Equivalent g') (listener : Listener α) :
    (g.listen listener).Equivalent (g'.listen listener) :=
  of_attempt h.nullable h.attempt

end Equivalent

end Grammar

/-! ### Contexts -/

/-- One operation around a part, which is its first or its second operand. The other operand, if
there is one, is given. -/
inductive Frame (α : Type) where
  | andThenFirst (next : Grammar α)
  | andThenSecond (previous : Grammar α)
  | orElseFirst (alternative : Grammar α)
  | orElseSecond (preferred : Grammar α)
  | optionally
  | times (min : Nat)
  | beforeFirst (forward : Grammar α)
  | beforeSecond (current : Grammar α)
  | notBeforeFirst (forward : Grammar α)
  | notBeforeSecond (current : Grammar α)
  | withListener (listener : Listener α)
  | listen (listener : Listener α)

/-- The operation, applied to the part. A repetition may be refused. -/
def Frame.around : Frame α → Grammar α → Except (BuildError α) (Grammar α)
  | .andThenFirst next, g => .ok (g.andThen next)
  | .andThenSecond previous, g => .ok (previous.andThen g)
  | .orElseFirst alternative, g => .ok (g.orElse alternative)
  | .orElseSecond preferred, g => .ok (preferred.orElse g)
  | .optionally, g => .ok g.optionally
  | .times min, g => g.times min
  | .beforeFirst forward, g => .ok (g.before forward)
  | .beforeSecond current, g => .ok (current.before g)
  | .notBeforeFirst forward, g => .ok (g.notBefore forward)
  | .notBeforeSecond current, g => .ok (current.notBefore g)
  | .withListener listener, g => .ok (g.withListener listener)
  | .listen listener, g => .ok (g.listen listener)

/-- What is built around a part, from the inside outwards. -/
abbrev Context (α : Type) := List (Frame α)

/-- Builds the context around a part. The first refusal is the answer. -/
def Context.fill : Context α → Grammar α → Except (BuildError α) (Grammar α)
  | [], g => .ok g
  | frame :: outer, g => (frame.around g).bind (fill outer)

/-- Both builds yield grammars, which are equivalent, or both are refused, with the same message. -/
inductive BuildsAlike [TreeLike α] :
    Except (BuildError α) (Grammar α) → Except (BuildError α) (Grammar α) → Prop where
  | ok {g g' : Grammar α} : g.Equivalent g' → BuildsAlike (.ok g) (.ok g')
  | error {e e' : BuildError α} : e.message = e'.message → BuildsAlike (.error e) (.error e')

section Building
variable [TreeLike α] {g g' : Grammar α}

theorem BuildsAlike.bind {r r' : Except (BuildError α) (Grammar α)} (h : BuildsAlike r r')
    {build : Grammar α → Except (BuildError α) (Grammar α)}
    (hb : ∀ {f f' : Grammar α}, f.Equivalent f' → BuildsAlike (build f) (build f')) :
    BuildsAlike (r.bind build) (r'.bind build) := by
  cases h with
  | ok h => exact hb h
  | error h => exact .error h

/-- A repetition looks at the flag of its body before it is built. -/
theorem Grammar.Equivalent.times (h : g.Equivalent g') (min : Nat) :
    BuildsAlike (g.times min) (g'.times min) := by
  unfold Grammar.times
  by_cases hn : g.nullable = false
  · have hn' : g'.nullable = false := h.nullable.symm.trans hn
    rw [dif_pos hn, dif_pos hn']
    exact .ok (h.atLeast min hn hn')
  · have hn' : ¬ g'.nullable = false := fun hn' => hn (h.nullable.trans hn')
    rw [dif_neg hn, dif_neg hn']
    exact .error rfl

theorem Frame.around_alike (frame : Frame α) (h : g.Equivalent g') :
    BuildsAlike (frame.around g) (frame.around g') := by
  cases frame with
  | andThenFirst next => exact .ok (h.andThen (.refl next))
  | andThenSecond previous => exact .ok (.andThen (.refl previous) h)
  | orElseFirst alternative => exact .ok (h.orElse (.refl alternative))
  | orElseSecond preferred => exact .ok (.orElse (.refl preferred) h)
  | optionally => exact .ok h.optionally
  | times min => exact h.times min
  | beforeFirst forward => exact .ok (h.before (.refl forward))
  | beforeSecond current => exact .ok (.before (.refl current) h)
  | notBeforeFirst forward => exact .ok (h.notBefore (.refl forward))
  | notBeforeSecond current => exact .ok (.notBefore (.refl current) h)
  | withListener listener => exact .ok (h.withListener listener)
  | listen listener => exact .ok (h.listen listener)

theorem Context.fill_alike (context : Context α) (h : g.Equivalent g') :
    BuildsAlike (context.fill g) (context.fill g') := by
  induction context generalizing g g' with
  | nil => exact .ok h
  | cons frame outer ih => exact (frame.around_alike h).bind fun hf => ih hf

end Building

/-! ### Exchange -/

namespace Grammar
open Matcher

/-- **Equivalent grammars may be exchanged anywhere.** Whatever is built around them is built for
both or refused for both, and what is built is equivalent again. -/
theorem fill_equivalent [TreeLike α] {g g' : Grammar α} (h : g.Equivalent g')
    (context : Context α) :
    ((∃ whole, context.fill g = .ok whole) ↔ ∃ whole', context.fill g' = .ok whole') ∧
    ∀ whole whole', context.fill g = .ok whole → context.fill g' = .ok whole' →
      whole.Equivalent whole' := by
  have halike := context.fill_alike h
  generalize context.fill g = r, context.fill g' = r' at halike
  cases halike with
  | @ok f f' hf =>
    refine ⟨iff_of_true ⟨f, rfl⟩ ⟨f', rfl⟩, ?_⟩
    rintro _ _ ⟨⟩ ⟨⟩
    exact hf
  | error => exact ⟨iff_of_false nofun nofun, nofun⟩

/-- Nothing in front of a grammar makes no difference. -/
theorem empty_andThen_equivalent [TreeLike α] (g : Grammar α) : (empty.andThen g).Equivalent g where
  nullable := Bool.true_and g.nullable
  spans := by
    have hidle : (empty : Grammar α).run.Idle := Expr.run_idle rfl
    have hsequence : (empty.andThen g).attempt.Coextensive g.run :=
      hidle.sequence (Expr.run_partitioning _) g.expr.run_partitioning
    exact (coextensive_visit _ _).trans hsequence

/-- An item with nothing in front of it, in brackets that are repeated; and an option of it, which
cannot be. -/
theorem fill_equivalent_items :
    let item : Grammar Tree := terminal ['x']
    let item' : Grammar Tree := empty.andThen item
    let brackets : Context Tree := [.andThenSecond (terminal ['[']), .andThenFirst (terminal [']']),
      .times 1, .listen ReadyMade.matchedText]
    let options : Context Tree := [.optionally, .times 0]
    item'.Equivalent item ∧
    (∃ whole' whole, brackets.fill item' = .ok whole' ∧ brackets.fill item = .ok whole ∧
      whole'.Equivalent whole ∧
        whole'.parse "[x][x]!".toList = .success "[x][x]".toList ['!'] (.text "[x][x]".toList)) ∧
    ¬ ∃ whole', options.fill item' = .ok whole' := by
  intro item item' brackets options
  have hitem : item'.Equivalent item := empty_andThen_equivalent item
  refine ⟨hitem, ?_, ?_⟩
  · obtain ⟨hbuilt, hsame⟩ := fill_equivalent hitem brackets
    obtain ⟨whole, hwhole⟩ := hbuilt.mp ⟨_, rfl⟩
    exact ⟨_, whole, rfl, hwhole, hsame _ _ rfl hwhole, by decide +kernel⟩
  · rw [(fill_equivalent hitem options).1]
    rintro ⟨whole, hwhole⟩
    exact nomatch hwhole

end Grammar

end Peg
