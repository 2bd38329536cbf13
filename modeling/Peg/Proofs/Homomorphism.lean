import Peg.Proofs.Indifference
import Peg.Proofs.Spelling

/-! Values of another type.

A match builds its value by four operations and by listeners, and never looks at it.
So it does not matter in which type it does so: a map that respects the operations
(`TreeLike.IsHom`) and that the listeners respect can be applied to the parts, one by
one, or to the value in the end. `Grammar.parseIn_map`: grammars of the same tree
whose listeners correspond come to outcomes that correspond.

Without listeners every such map will do. The text that a grammar of texts comes to
is what the leaves of the tree spell that the same grammar of trees comes to. -/
namespace Peg

variable {α β : Type} {f : α → β}

/-! ### Outcomes -/

namespace Outcome

/-- The same outcome with another value. -/
def map (f : α → β) : Outcome α → Outcome β
  | .success matched remaining value => .success matched remaining (f value)
  | .partialSuccess skipped matched remaining value =>
    .partialSuccess skipped matched remaining (f value)
  | .failure remaining => .failure remaining

@[simp] theorem skipped_map (o : Outcome α) : (o.map f).skipped = o.skipped := by
  cases o <;> rfl

@[simp] theorem matched_map (o : Outcome α) : (o.map f).matched = o.matched := by
  cases o <;> rfl

@[simp] theorem remaining_map (o : Outcome α) : (o.map f).remaining = o.remaining := by
  cases o <;> rfl

@[simp] theorem value?_map (o : Outcome α) : (o.map f).value? = o.value?.map f := by
  cases o <;> rfl

@[simp] theorem isSuccess_map (o : Outcome α) : (o.map f).isSuccess = o.isSuccess := by
  cases o <;> rfl

theorem map_split (input : Text) (skip size : Nat) (a : α) :
    (split input skip size a).map f = split input skip size (f a) := by
  unfold split
  dsimp only
  cases (input.cut skip).1 <;> rfl

theorem map_withValue (o : Outcome α) (a : α) :
    (o.withValue a).map f = (o.map f).withValue (f a) := by
  cases o <;> rfl

end Outcome

/-! ### Expressions that correspond -/

/-- On the successful outcomes that a listener is called on, the values correspond. -/
def Listener.Corresponds (f : α → β) (listener : Listener α) (listener' : Listener β) : Prop :=
  ∀ o : Outcome α, o.isSuccess = true → f (listener.action o) = listener'.action (o.map f)

/-- Listeners that correspond, or none. -/
def Mark.Corresponds (f : α → β) (mark : Mark α) (mark' : Mark β) : Prop :=
  Option.Rel (Listener.Corresponds f) mark.listener? mark'.listener?

theorem Mark.Corresponds.of_none {mark : Mark α} {mark' : Mark β} (h : mark.listener? = none)
    (h' : mark'.listener? = none) : mark.Corresponds f mark' := by
  unfold Mark.Corresponds
  rw [h, h']
  exact .none

/-- The same tree, with marks that correspond, node by node. -/
inductive Expr.Corresponds (f : α → β) : Expr α → Expr β → Prop where
  | terminal {m : Mark α} {m' : Mark β} (literal : Text) : m.Corresponds f m' →
      Corresponds f (.terminal m literal) (.terminal m' literal)
  | empty {m : Mark α} {m' : Mark β} : m.Corresponds f m' → Corresponds f (.empty m) (.empty m')
  | sequence {m : Mark α} {m' : Mark β} {a b : Expr α} {a' b' : Expr β} : m.Corresponds f m' →
      Corresponds f a a' → Corresponds f b b' → Corresponds f (.sequence m a b) (.sequence m' a' b')
  | choice {m : Mark α} {m' : Mark β} {a b : Expr α} {a' b' : Expr β} : m.Corresponds f m' →
      Corresponds f a a' → Corresponds f b b' → Corresponds f (.choice m a b) (.choice m' a' b')
  | optional {m : Mark α} {m' : Mark β} {a : Expr α} {a' : Expr β} : m.Corresponds f m' →
      Corresponds f a a' → Corresponds f (.optional m a) (.optional m' a')
  | repetition {m : Mark α} {m' : Mark β} {a : Expr α} {a' : Expr β} (min : Nat) :
      m.Corresponds f m' → Corresponds f a a' →
      Corresponds f (.repetition m a min) (.repetition m' a' min)
  | ahead {m : Mark α} {m' : Mark β} {a b : Expr α} {a' b' : Expr β} : m.Corresponds f m' →
      Corresponds f a a' → Corresponds f b b' → Corresponds f (.ahead m a b) (.ahead m' a' b')
  | notAhead {m : Mark α} {m' : Mark β} {a b : Expr α} {a' b' : Expr β} : m.Corresponds f m' →
      Corresponds f a a' → Corresponds f b b' → Corresponds f (.notAhead m a b) (.notAhead m' a' b')
  | production {m : Mark α} {m' : Mark β} {a : Expr α} {a' : Expr β} : m.Corresponds f m' →
      Corresponds f a a' → Corresponds f (.production m a) (.production m' a')

namespace Expr

theorem Corresponds.mark {e : Expr α} {e' : Expr β} (h : e.Corresponds f e') :
    e.mark.Corresponds f e'.mark := by
  cases h <;> assumption

/-- Without listeners nothing has to correspond but the trees. -/
theorem Corresponds.of_silent {e : Expr α} {e' : Expr β} (h : e.bare = e'.bare)
    (hs : ∀ node ∈ e.nodes, node.listener? = none)
    (hs' : ∀ node ∈ e'.nodes, node.listener? = none) : e.Corresponds f e' := by
  have hmark {e : Expr α} {e' : Expr β} (hs : ∀ node ∈ e.nodes, node.listener? = none)
      (hs' : ∀ node ∈ e'.nodes, node.listener? = none) : e.mark.Corresponds f e'.mark :=
    .of_none (hs e e.self_mem_nodes) (hs' e' e'.self_mem_nodes)
  induction e generalizing e' with
  | terminal mark literal =>
    cases e' with
    | terminal mark' literal' =>
      obtain rfl : literal = literal' := (Expr.terminal.inj h).2
      exact .terminal literal (hmark hs hs')
    | _ => exact nomatch h
  | empty mark =>
    cases e' with
    | empty mark' => exact .empty (hmark hs hs')
    | _ => exact nomatch h
  | sequence mark a b iha ihb =>
    cases e' with
    | sequence mark' a' b' =>
      obtain ⟨_, ha, hb⟩ := Expr.sequence.inj h
      obtain ⟨hsa, hsb⟩ := forall_mem_parts hs
      obtain ⟨hsa', hsb'⟩ := forall_mem_parts hs'
      exact .sequence (hmark hs hs') (iha ha hsa hsa') (ihb hb hsb hsb')
    | _ => exact nomatch h
  | choice mark a b iha ihb =>
    cases e' with
    | choice mark' a' b' =>
      obtain ⟨_, ha, hb⟩ := Expr.choice.inj h
      obtain ⟨hsa, hsb⟩ := forall_mem_parts hs
      obtain ⟨hsa', hsb'⟩ := forall_mem_parts hs'
      exact .choice (hmark hs hs') (iha ha hsa hsa') (ihb hb hsb hsb')
    | _ => exact nomatch h
  | optional mark a ih =>
    cases e' with
    | optional mark' a' =>
      obtain ⟨_, ha⟩ := Expr.optional.inj h
      exact .optional (hmark hs hs')
        (ih ha (forall_mem_body hs) (forall_mem_body hs'))
    | _ => exact nomatch h
  | repetition mark a min ih =>
    cases e' with
    | repetition mark' a' min' =>
      obtain ⟨_, ha, rfl⟩ := Expr.repetition.inj h
      exact .repetition min (hmark hs hs')
        (ih ha (forall_mem_body hs) (forall_mem_body hs'))
    | _ => exact nomatch h
  | ahead mark a b iha ihb =>
    cases e' with
    | ahead mark' a' b' =>
      obtain ⟨_, ha, hb⟩ := Expr.ahead.inj h
      obtain ⟨hsa, hsb⟩ := forall_mem_parts hs
      obtain ⟨hsa', hsb'⟩ := forall_mem_parts hs'
      exact .ahead (hmark hs hs') (iha ha hsa hsa') (ihb hb hsb hsb')
    | _ => exact nomatch h
  | notAhead mark a b iha ihb =>
    cases e' with
    | notAhead mark' a' b' =>
      obtain ⟨_, ha, hb⟩ := Expr.notAhead.inj h
      obtain ⟨hsa, hsb⟩ := forall_mem_parts hs
      obtain ⟨hsa', hsb'⟩ := forall_mem_parts hs'
      exact .notAhead (hmark hs hs') (iha ha hsa hsa') (ihb hb hsb hsb')
    | _ => exact nomatch h
  | production mark a ih =>
    cases e' with
    | production mark' a' =>
      obtain ⟨_, ha⟩ := Expr.production.inj h
      exact .production (hmark hs hs')
        (ih ha (forall_mem_body hs) (forall_mem_body hs'))
    | _ => exact nomatch h

end Expr

/-! ### Combinators -/

namespace Matcher
open Outcome

variable {first second body current forward : Matcher α}
variable {first' second' body' current' forward' : Matcher β}

/-- The outcomes of the second matcher are those of the first one, mapped. -/
def MapsTo (f : α → β) (m : Matcher α) (n : Matcher β) : Prop :=
  ∀ mode input, (n mode input).result = (m mode input).result.map f

theorem MapsTo.value? (h : body.MapsTo f body') (mode : Mode) (input : Text) :
    (body' mode input).result.value? = (body mode input).result.value?.map f := by
  rw [h mode input, value?_map]

theorem MapsTo.isSuccess (h : body.MapsTo f body') (mode : Mode) (input : Text) :
    (body' mode input).result.isSuccess = (body mode input).result.isSuccess := by
  rw [h mode input, isSuccess_map]

theorem MapsTo.remaining (h : body.MapsTo f body') (mode : Mode) (input : Text) :
    (body' mode input).result.remaining = (body mode input).result.remaining := by
  rw [h mode input, remaining_map]

theorem MapsTo.follow (ha : first.MapsTo f first') (hb : second.MapsTo f second') (mode : Mode)
    (input : Text) : follow first' second' mode input = (follow first second mode input).map f := by
  unfold Matcher.follow
  simp only [ha.remaining]
  exact hb _ _

/-- The items are mapped one by one, and the rest is the same. -/
theorem MapsTo.chain (h : body.MapsTo f body') (input : Text) : (chain body' input).result =
    ((chain body input).result.1.map f, (chain body input).result.2) := by
  have hvalue := h.value? .strict input
  have hremaining := h.remaining .strict input
  cases hv : (body .strict input).result.value? with
  | none =>
    rw [hv] at hvalue
    rw [result_chain_none hv, result_chain_none hvalue]
    rfl
  | some a =>
    rw [hv] at hvalue
    by_cases hless : (body .strict input).result.remaining.length < input.length
    · rw [result_chain_some hv hless, result_chain_some hvalue (hremaining ▸ hless), hremaining,
        h.chain (body .strict input).result.remaining]
      rfl
    · rw [result_chain_idle hv hless, result_chain_idle hvalue (hremaining ▸ hless), hremaining]
      rfl
termination_by input.length

theorem MapsTo.choice (ha : first.MapsTo f first') (hb : second.MapsTo f second') :
    (choice first second).MapsTo f (choice first' second') := by
  intro mode input
  rw [result_choice, result_choice, ha.isSuccess]
  split
  · exact ha mode input
  · exact hb mode input

theorem MapsTo.guarded (expected : Bool) (ha : current.MapsTo f current')
    (hb : forward.MapsTo f forward') :
    (guarded expected current forward).MapsTo f (guarded expected current' forward') := by
  intro mode input
  rw [result_guarded, result_guarded, ha.isSuccess, ha.remaining, hb.isSuccess]
  split
  · split
    · exact ha mode input
    · rfl
  · rfl

theorem MapsTo.visit {node : Expr α} {node' : Expr β} (h : body.MapsTo f body')
    (hmark : node.mark.Corresponds f node'.mark) :
    (visit node body).MapsTo f (visit node' body') := by
  intro mode input
  have hlisteners : Option.Rel (Listener.Corresponds f) node.listener? node'.listener? := hmark
  rw [result_visit, result_visit, h mode input]
  generalize node.listener? = listener?, node'.listener? = listener?' at hlisteners
  cases hlisteners with
  | none => rfl
  | some hcalls =>
    dsimp only
    rw [map_withValue]
    -- a failure has no value to be replaced
    cases (body mode input).result with
    | failure => rfl
    | success | partialSuccess => rw [hcalls _ rfl]

section Building
variable [TreeLike α] [TreeLike β]

theorem mapsTo_terminal (hf : TreeLike.IsHom f) (literal : Text) :
    MapsTo f (terminal literal : Matcher α) (terminal literal) := by
  intro mode input
  rw [result_terminal, result_terminal]
  cases offset? literal mode input with
  | none => rfl
  | some skip =>
    dsimp only
    rw [map_split, hf.text]

theorem mapsTo_empty (hf : TreeLike.IsHom f) : MapsTo f (empty : Matcher α) empty := by
  intro mode input
  rw [result_empty, result_empty, ← hf.text]
  rfl

theorem map_join (hf : TreeLike.IsHom f) (input : Text) (left right : Outcome α) (a b : α) :
    (join input left right a b).map f = join input (left.map f) (right.map f) (f a) (f b) := by
  unfold join
  rw [map_split, hf.pair, skipped_map, skipped_map, remaining_map]

theorem MapsTo.sequence (hf : TreeLike.IsHom f) (ha : first.MapsTo f first')
    (hb : second.MapsTo f second') : (sequence first second).MapsTo f (sequence first' second') := by
  intro mode input
  have hvalue := ha.value? mode input
  have hfollow := ha.follow hb mode input
  cases hv : (first mode input).result.value? with
  | none =>
    rw [hv] at hvalue
    rw [result_sequence_none hv, result_sequence_none hvalue]
    rfl
  | some a =>
    rw [hv] at hvalue
    have hvalue' := congrArg Outcome.value? hfollow
    rw [value?_map] at hvalue'
    cases hw : (Matcher.follow first second mode input).value? with
    | none =>
      rw [hw] at hvalue'
      rw [result_sequence_some_none hv hw, result_sequence_some_none hvalue hvalue']
      rfl
    | some b =>
      rw [hw] at hvalue'
      rw [result_sequence_some_some hv hw, result_sequence_some_some hvalue hvalue', hfollow,
        ha mode input, map_join hf]

theorem MapsTo.optional (hf : TreeLike.IsHom f) (h : body.MapsTo f body') :
    (optional body).MapsTo f (optional body') := by
  intro mode input
  rw [result_optional, result_optional, h.isSuccess, ← hf.nothing]
  split
  · exact h mode input
  · rfl

theorem MapsTo.repetition (hf : TreeLike.IsHom f) (h : body.MapsTo f body') (min : Nat) :
    (repetition body min).MapsTo f (repetition body' min) := by
  intro mode input
  rw [result_repetition, result_repetition, h.chain, List.length_map]
  split
  · rfl
  · rw [map_split, hf.list]

end Building

end Matcher

/-! ### Grammars -/

namespace Expr

variable [TreeLike α] [TreeLike β]

theorem attempt_mapsTo (hf : TreeLike.IsHom f) {e : Expr α} {e' : Expr β}
    (h : e.Corresponds f e') : e.attempt.MapsTo f e'.attempt := by
  induction h with
  | terminal literal => exact Matcher.mapsTo_terminal hf literal
  | empty => exact Matcher.mapsTo_empty hf
  | sequence _ ha hb iha ihb => exact (iha.visit ha.mark).sequence hf (ihb.visit hb.mark)
  | choice _ ha hb iha ihb => exact (iha.visit ha.mark).choice (ihb.visit hb.mark)
  | optional _ ha ih => exact (ih.visit ha.mark).optional hf
  | repetition min _ ha ih => exact (ih.visit ha.mark).repetition hf min
  | ahead _ ha hb iha ihb => exact (iha.visit ha.mark).guarded true (ihb.visit hb.mark)
  | notAhead _ ha hb iha ihb => exact (iha.visit ha.mark).guarded false (ihb.visit hb.mark)
  | production _ _ ih => exact ih

theorem run_mapsTo (hf : TreeLike.IsHom f) {e : Expr α} {e' : Expr β} (h : e.Corresponds f e') :
    e.run.MapsTo f e'.run := (attempt_mapsTo hf h).visit h.mark

end Expr

namespace Grammar

/-- **Values may be mapped before or after.** Along a map that respects the operations, grammars
of the same tree whose listeners correspond come to outcomes that correspond. In particular a
grammar without listeners comes to the text that its tree spells. -/
theorem parseIn_map :
    (∀ {α β : Type} [TreeLike α] [TreeLike β] (f : α → β), TreeLike.IsHom f →
      ∀ (g : Grammar α) (g' : Grammar β), g.expr.Corresponds f g'.expr → ∀ mode input,
        g'.parseIn mode input = (g.parseIn mode input).map f ∧
          (g'.attempt mode input).result = (g.attempt mode input).result.map f) ∧
    ∀ (g : Grammar Tree) (g' : Grammar Text), g.expr.bare = g'.expr.bare →
      (∀ node ∈ g.expr.nodes, node.listener? = none) →
      (∀ node ∈ g'.expr.nodes, node.listener? = none) → ∀ mode input,
        g'.parseIn mode input = (g.parseIn mode input).map Tree.flatten := by
  constructor
  · intro α β _ _ f hf g g' h mode input
    exact ⟨Expr.run_mapsTo hf h mode input, Expr.attempt_mapsTo hf h mode input⟩
  · intro g g' hsame hs hs' mode input
    exact Expr.run_mapsTo Tree.flatten_isHom (.of_silent hsame hs hs') mode input

/-- Two listeners that keep the matched text, one as a leaf and one as it is; and a nested value
without listeners. -/
theorem parseIn_map_tokens :
    let word : Grammar Tree := ((terminal ['a']).atLeast 1 rfl).listen ReadyMade.matchedText
    let word' : Grammar Text :=
      ((terminal ['a']).atLeast 1 rfl).listen { action := Outcome.matched }
    let list : Grammar Tree :=
      (((terminal ['a']).andThen (terminal ['b']).optionally).atLeast 1 rfl).andThen empty
    let list' : Grammar Text :=
      (((terminal ['a']).andThen (terminal ['b']).optionally).atLeast 1 rfl).andThen empty
    word.expr.Corresponds Tree.flatten word'.expr ∧
      word'.parse "aab".toList = (word.parse "aab".toList).map Tree.flatten ∧
    list.expr.bare = list'.expr.bare ∧
      list'.parse "abaX".toList = (list.parse "abaX".toList).map Tree.flatten := by
  intro word word' list list'
  have hlistener : Listener.Corresponds Tree.flatten ReadyMade.matchedText
      { action := Outcome.matched } := fun o _ => (Outcome.matched_map o).symm
  have hword : word.expr.Corresponds Tree.flatten word'.expr :=
    .production (.some hlistener) (.repetition 1 .none (.terminal ['a'] .none))
  have hnone : ∀ node ∈ list.expr.nodes, node.listener?.isNone := by decide +kernel
  have hnone' : ∀ node ∈ list'.expr.nodes, node.listener?.isNone := by decide +kernel
  refine ⟨hword, ?_, rfl, ?_⟩
  · exact (parseIn_map.1 Tree.flatten Tree.flatten_isHom word word' hword .lenient
      "aab".toList).1
  · exact parseIn_map.2 list list' rfl (fun node h => Option.isNone_iff_eq_none.mp (hnone node h))
      (fun node h => Option.isNone_iff_eq_none.mp (hnone' node h)) .lenient "abaX".toList

end Grammar

end Peg
