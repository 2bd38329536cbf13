import Peg.Grammar.Basic

/-! What can be built.

`Built` has one rule for each operation that yields a grammar. `built`: every
grammar arises in this way, so what holds of all grammars holds of exactly those
that can be built, whatever the order of the operations.

The nodes of an expression are itself, its parts, their parts and so on; a tree is
well-formed exactly when each of its nodes is sound by itself. -/
namespace Peg

variable {α : Type}

namespace Grammar

/-! ### Operations -/

/-- The grammars that some sequence of operations yields. A refused repetition yields none. -/
inductive Built : Grammar α → Prop where
  | terminal (literal : Text) : Built (terminal literal)
  | empty : Built empty
  | andThen {g next : Grammar α} : Built g → Built next → Built (g.andThen next)
  | orElse {g alternative : Grammar α} : Built g → Built alternative → Built (g.orElse alternative)
  | optionally {g : Grammar α} : Built g → Built g.optionally
  | before {g next : Grammar α} : Built g → Built next → Built (g.before next)
  | notBefore {g next : Grammar α} : Built g → Built next → Built (g.notBefore next)
  | times {g repeated : Grammar α} {min : Nat} :
      Built g → g.times min = .ok repeated → Built repeated
  | withListener {g : Grammar α} (listener : Listener α) : Built g → Built (g.withListener listener)
  | listen {g : Grammar α} (listener : Listener α) : Built g → Built (g.listen listener)

theorem times_atLeast {g : Grammar α} {min : Nat} (h : g.nullable = false) :
    g.times min = .ok (g.atLeast min h) := dif_pos h

/-- A node that differs from a built one in its listener at most can be built. -/
theorem Built.of_remark {g : Grammar α} (hg : Built g) (hbare : g.expr.listener? = none)
    {e : Expr α} (h : e.WellFormed) (hflag : e.nullable = g.expr.nullable)
    (he : e = g.expr.remark e.mark) : Built ⟨e, h⟩ := by
  have hmark : e.mark = { g.expr.mark with listener? := e.listener? } := by
    show Mark.mk e.nullable e.listener? = Mark.mk g.expr.nullable e.listener?
    rw [hflag]
  rw [hmark] at he
  cases hl : e.listener? with
  | none =>
    have hsame : { g.expr.mark with listener? := none } = g.expr.mark := by
      rw [← hbare]
      rfl
    rw [hl, hsame, Expr.remark_mark] at he
    subst he
    exact hg
  | some listener =>
    rw [hl] at he
    subst he
    exact .withListener listener hg

/-- **Every grammar is built by operations.** -/
theorem built (g : Grammar α) : Built g := by
  obtain ⟨e, h⟩ := g
  induction e with
  | terminal mark literal => exact (Built.terminal literal).of_remark rfl h h.1 rfl
  | empty mark => exact Built.empty.of_remark rfl h h.1 rfl
  | sequence mark a b iha ihb =>
    exact ((iha h.2.1).andThen (ihb h.2.2)).of_remark rfl h h.1 rfl
  | choice mark a b iha ihb => exact ((iha h.2.1).orElse (ihb h.2.2)).of_remark rfl h h.1 rfl
  | optional mark body ih => exact (ih h.2).optionally.of_remark rfl h h.1 rfl
  | repetition mark body min ih =>
    have hconsumes : nullable ⟨body, h.2.2⟩ = false := h.2.1
    exact ((ih h.2.2).times (times_atLeast hconsumes)).of_remark rfl h h.1 rfl
  | ahead mark a b iha ihb => exact ((iha h.2.1).before (ihb h.2.2)).of_remark rfl h h.1 rfl
  | notAhead mark a b iha ihb =>
    exact ((iha h.2.1).notBefore (ihb h.2.2)).of_remark rfl h h.1 rfl
  | production mark body ih =>
    -- a production is built with its listener, so there is none to add
    obtain ⟨nullable, listener?⟩ := mark
    obtain ⟨hflag, hlistener, hbody⟩ := h
    obtain ⟨listener, rfl⟩ := Option.isSome_iff_exists.mp hlistener
    obtain rfl : nullable = body.nullable := hflag
    exact .listen listener (ih hbody)

end Grammar

/-! ### Nodes -/

namespace Expr

/-- The expression itself first, then the nodes of its parts from left to right. -/
def nodes (e : Expr α) : List (Expr α) :=
  e :: match e with
  | .terminal .. => []
  | .empty _ => []
  | .sequence _ first second => first.nodes ++ second.nodes
  | .choice _ first second => first.nodes ++ second.nodes
  | .optional _ body => body.nodes
  | .repetition _ body _ => body.nodes
  | .ahead _ current forward => current.nodes ++ forward.nodes
  | .notAhead _ current forward => current.nodes ++ forward.nodes
  | .production _ body => body.nodes

theorem self_mem_nodes (e : Expr α) : e ∈ e.nodes := by
  cases e <;> exact List.mem_cons_self ..

/-- What is true of all nodes is true of those of the one part. -/
theorem forall_mem_body {holds : Expr α → Prop} {root body : Expr α}
    (h : ∀ node ∈ root :: body.nodes, holds node) : ∀ node ∈ body.nodes, holds node :=
  (List.forall_mem_cons.mp h).2

/-- What is true of all nodes is true of those of each part. -/
theorem forall_mem_parts {holds : Expr α → Prop} {root a b : Expr α}
    (h : ∀ node ∈ root :: (a.nodes ++ b.nodes), holds node) :
    (∀ node ∈ a.nodes, holds node) ∧ ∀ node ∈ b.nodes, holds node :=
  List.forall_mem_append.mp (List.forall_mem_cons.mp h).2

theorem WellFormed.of_mem_nodes {e node : Expr α} (h : e.WellFormed) (hn : node ∈ e.nodes) :
    node.WellFormed := by
  induction e with
  | terminal mark literal => rwa [List.mem_singleton.mp hn]
  | empty mark => rwa [List.mem_singleton.mp hn]
  | sequence mark a b iha ihb | choice mark a b iha ihb | ahead mark a b iha ihb
  | notAhead mark a b iha ihb =>
    rcases List.mem_cons.mp hn with rfl | hn
    · exact h
    · rcases List.mem_append.mp hn with hn | hn
      · exact iha h.2.1 hn
      · exact ihb h.2.2 hn
  | optional mark body ih =>
    rcases List.mem_cons.mp hn with rfl | hn
    · exact h
    · exact ih h.2 hn
  | repetition mark body min ih =>
    rcases List.mem_cons.mp hn with rfl | hn
    · exact h
    · exact ih h.2.2 hn
  | production mark body ih =>
    rcases List.mem_cons.mp hn with rfl | hn
    · exact h
    · exact ih h.2.2 hn

end Expr

end Peg
