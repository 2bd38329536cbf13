import Peg.Proofs.Construction

/-! What a run enters in its journal.

`Enters P` says of a recorded computation that all of its entries satisfy `P`. It
passes from matchers to what they are combined to, so it is enough to look at the
entries that a visit makes by itself: `run_enters`. In particular every visit in
the journal of a run is of a node of the expression, and has the outcome that an
attempt at that node has (`visit_mem_journal`). -/
namespace Peg

namespace Recorded

variable {ε β γ : Type} {P : ε → Prop}

/-- Every entry satisfies `P`. -/
def Enters (P : ε → Prop) (r : Recorded ε β) : Prop := ∀ entry ∈ r.journal, P entry

theorem Enters.pure (b : β) : Enters P (pure b : Recorded ε β) := fun _ h => nomatch h

theorem Enters.bind {r : Recorded ε β} {f : β → Recorded ε γ} (hr : r.Enters P)
    (hf : (f r.result).Enters P) : (r >>= f).Enters P := by
  intro entry h
  rcases List.mem_append.mp h with h | h
  · exact hr entry h
  · exact hf entry h

theorem Enters.map {r : Recorded ε β} (hr : r.Enters P) (f : β → γ) : (f <$> r).Enters P := hr

theorem Enters.record {entry : ε} (h : P entry) : (record entry).Enters P := by
  intro other hother
  rwa [List.mem_singleton.mp hother]

end Recorded

namespace Matcher

variable {α : Type} {P : Entry α → Prop} {first second body current forward : Matcher α}

def Enters (P : Entry α → Prop) (m : Matcher α) : Prop :=
  ∀ mode input, (m mode input).Enters P

/-! ### Combinators -/

theorem enters_terminal [TreeLike α] (literal : Text) : Enters P (terminal literal) :=
  fun _ _ => .pure _

theorem enters_empty [TreeLike α] : Enters P (empty : Matcher α) := fun _ _ => .pure _

theorem Enters.sequence [TreeLike α] (ha : first.Enters P) (hb : second.Enters P) :
    (sequence first second).Enters P := by
  intro mode input
  refine .bind (ha mode input) ?_
  split
  · exact .pure _
  · refine .bind (hb _ _) ?_
    split <;> exact .pure _

theorem Enters.choice (ha : first.Enters P) (hb : second.Enters P) :
    (choice first second).Enters P := by
  intro mode input
  refine .bind (ha mode input) ?_
  split
  · exact .pure _
  · exact hb mode input

theorem Enters.optional [TreeLike α] (h : body.Enters P) : (optional body).Enters P :=
  fun mode input => .bind (h mode input) (.pure _)

theorem Enters.chain (h : body.Enters P) (input : Text) : (chain body input).Enters P := by
  rw [Matcher.chain]
  refine .bind (h .strict input) ?_
  split
  · exact .pure _
  · split
    · exact .map (h.chain _) _
    · exact .pure _
termination_by input.length

theorem Enters.repetition [TreeLike α] (h : body.Enters P) (min : Nat) :
    (repetition body min).Enters P :=
  fun _ input => .bind (h.chain input) (.pure _)

theorem Enters.guarded (expected : Bool) (ha : current.Enters P) (hb : forward.Enters P) :
    (guarded expected current forward).Enters P := by
  intro mode input
  refine .bind (ha mode input) ?_
  split
  · exact .bind (hb _ _) (.pure _)
  · exact .pure _

/-! ### Visits -/

/-- A visit adds its own entry, and the call of its listener if it was successful. -/
theorem Enters.visit {node : Expr α} (h : body.Enters P)
    (hvisit : ∀ mode input, P (.visit node mode input (body mode input).result))
    (hcall : ∀ listener, node.listener? = some listener → ∀ mode input,
      (body mode input).result.isSuccess → P (.call listener (body mode input).result)) :
    (visit node body).Enters P := by
  intro mode input
  refine .bind (h mode input) (.bind (.record (hvisit mode input)) ?_)
  unfold notify
  split
  · exact .pure _
  · next listener hl =>
    split
    · next hs => exact .bind (.record (hcall listener hl mode input hs)) (.pure _)
    · exact .pure _

end Matcher

namespace Expr

variable {α : Type} [TreeLike α] {P : Entry α → Prop}

/-- What the visit of a node enters by itself satisfies `P`. -/
structure Reports (P : Entry α → Prop) (node : Expr α) : Prop where
  visit : ∀ mode input, P (.visit node mode input (node.attempt mode input).result)
  call : ∀ listener, node.listener? = some listener → ∀ mode input,
    (node.attempt mode input).result.isSuccess → P (.call listener (node.attempt mode input).result)

theorem attempt_enters {e : Expr α} (h : ∀ node ∈ e.nodes, Reports P node) :
    e.attempt.Enters P := by
  have hpart : ∀ {part : Expr α}, (∀ node ∈ part.nodes, Reports P node) →
      ((∀ node ∈ part.nodes, Reports P node) → part.attempt.Enters P) → part.run.Enters P := by
    intro part hp ih
    have hself := hp part part.self_mem_nodes
    exact (ih hp).visit hself.visit hself.call
  induction e with
  | terminal mark literal => exact Matcher.enters_terminal literal
  | empty mark => exact Matcher.enters_empty
  | sequence mark a b iha ihb =>
    obtain ⟨ha, hb⟩ := forall_mem_parts h
    exact (hpart ha iha).sequence (hpart hb ihb)
  | choice mark a b iha ihb =>
    obtain ⟨ha, hb⟩ := forall_mem_parts h
    exact (hpart ha iha).choice (hpart hb ihb)
  | optional mark body ih =>
    exact (hpart (forall_mem_body h) ih).optional
  | repetition mark body min ih =>
    exact (hpart (forall_mem_body h) ih).repetition min
  | ahead mark a b iha ihb =>
    obtain ⟨ha, hb⟩ := forall_mem_parts h
    exact (hpart ha iha).guarded true (hpart hb ihb)
  | notAhead mark a b iha ihb =>
    obtain ⟨ha, hb⟩ := forall_mem_parts h
    exact (hpart ha iha).guarded false (hpart hb ihb)
  | production mark body ih => exact ih (forall_mem_body h)

/-- It is enough to know what the nodes report by themselves. -/
theorem run_enters {e : Expr α} (h : ∀ node ∈ e.nodes, Reports P node) : e.run.Enters P :=
  have hself := h e e.self_mem_nodes
  (attempt_enters h).visit hself.visit hself.call

/-- What a visit of a run of `e` is: an attempt at one of its nodes. -/
def Attempted (e : Expr α) : Entry α → Prop
  | .visit node mode input outcome => node ∈ e.nodes ∧ outcome = (node.attempt mode input).result
  | .call .. => True

/-- **A visit in the journal is an attempt at a node.** -/
theorem visit_mem_journal {e node : Expr α} {mode mode' : Mode} {input input' : Text}
    {outcome : Outcome α} (h : .visit node mode' input' outcome ∈ (e.run mode input).journal) :
    node ∈ e.nodes ∧ outcome = (node.attempt mode' input').result := by
  have hreports : ∀ node ∈ e.nodes, Reports e.Attempted node :=
    fun _ hnode => ⟨fun _ _ => ⟨hnode, rfl⟩, fun _ _ _ _ _ => trivial⟩
  exact run_enters hreports mode input _ h

end Expr

end Peg
