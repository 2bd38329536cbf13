import Peg.Proofs.Partition

/-! Why repetitions end.

A matcher is `Consuming` when its successes match at least one character. What the
flags promise holds: an expression that is not flagged nullable is consuming
(`attempt_consuming`). The body of a repetition is not flagged, so every item takes
something from the input, and there are no more items than the input has bytes.

`Iterates` is the bare loop: items in a row, each a strict match on what the one
before left, with no regard to progress. `chain_iterates` says that a chain is the
loop run to its end. -/
namespace Peg

variable {α : Type}

namespace Matcher
open Outcome

variable {first second body current forward : Matcher α}

/-! ### Consuming matchers -/

/-- A success matches something. -/
def Consuming (m : Matcher α) : Prop :=
  ∀ mode input, (m mode input).result.isSuccess = true → (m mode input).result.matched ≠ []

theorem consuming_terminal [TreeLike α] {literal : Text} (h : literal ≠ []) :
    Consuming (terminal literal : Matcher α) := by
  intro mode input
  rw [result_terminal]
  cases hn : offset? literal mode input with
  | none => exact fun hs => nomatch hs
  | some n =>
    obtain ⟨front, back, rfl, rfl, _⟩ := offset?_eq_some hn
    simpa only [split_byteSize, matched_ofParts] using fun _ => h

/-- It is enough that one of the two parts consumes. -/
theorem consuming_sequence [TreeLike α] (ha : first.Partitioning)
    (hb : second.Partitioning) (h : first.Consuming ∨ second.Consuming) :
    (sequence first second).Consuming := by
  intro mode input hs
  rcases ha.result_sequence hb mode input with ⟨hf, _⟩ | ⟨a, b, hva, hvb, hj⟩
  · rw [hf] at hs
    exact nomatch hs
  · rw [hj, matched_ofParts]
    rcases h with h | h
    · exact List.append_ne_nil_of_left_ne_nil (h _ _ (isSuccess_of_value? hva)) _
    · exact List.append_ne_nil_of_right_ne_nil _ (h _ _ (isSuccess_of_value? hvb))

theorem Consuming.choice (ha : first.Consuming) (hb : second.Consuming) :
    (choice first second).Consuming := by
  intro mode input hs
  rw [result_choice] at hs ⊢
  by_cases h : (first mode input).result.isSuccess = true
  · rw [if_pos h]
    exact ha mode input h
  · rw [if_neg h] at hs ⊢
    exact hb mode input hs

theorem Consuming.guarded (expected : Bool) (h : current.Consuming) :
    (guarded expected current forward).Consuming := by
  intro mode input hs
  rw [result_guarded] at hs ⊢
  by_cases hc : (current mode input).result.isSuccess = true
  · rw [if_pos hc] at hs ⊢
    split at hs
    next hf =>
      rw [if_pos hf]
      exact h mode input hc
    next => exact nomatch hs
  · rw [if_neg hc] at hs
    exact nomatch hs

theorem Consuming.visit (node : Expr α) (h : body.Consuming) : (visit node body).Consuming := by
  intro mode input hs
  rw [isSuccess_visit] at hs
  rw [matched_visit]
  exact h mode input hs

/-- A success of a consuming matcher leaves less than it was given. -/
theorem Consuming.byteSize_remaining_lt (hc : body.Consuming) (hp : body.Partitioning)
    {mode : Mode} {input : Text} (hs : (body mode input).result.isSuccess = true) :
    (body mode input).result.remaining.byteSize < input.byteSize := by
  have hsizes := (hp mode input).sizes
  have hm : (body mode input).result.matched.byteSize ≠ 0 :=
    fun h0 => hc mode input hs (Text.byteSize_eq_zero.mp h0)
  omega

theorem Consuming.length_remaining_lt (hc : body.Consuming) (hp : body.Partitioning)
    {mode : Mode} {input : Text} (hs : (body mode input).result.isSuccess = true) :
    (body mode input).result.remaining.length < input.length := by
  have hlength := congrArg List.length (hp mode input).parts
  have hm := List.length_pos_iff.mpr (hc mode input hs)
  simp only [List.length_append] at hlength
  omega

/-! ### The loop -/

/-- `items` are the values of strict matches of `body` in a row, and `rest` is what they leave. -/
inductive Iterates (body : Matcher α) : Text → List α → Text → Prop where
  | nil (input : Text) : Iterates body input [] input
  | cons {input rest : Text} {a : α} {items : List α} :
      (body .strict input).result.value? = some a →
      Iterates body (body .strict input).result.remaining items rest →
      Iterates body input (a :: items) rest

/-- Each item takes a byte at least. -/
theorem Iterates.length_add_le (hc : body.Consuming) (hp : body.Partitioning)
    {input rest : Text} {items : List α} (h : Iterates body input items rest) :
    items.length + rest.byteSize ≤ input.byteSize := by
  induction h with
  | nil input => simp
  | cons hv _ ih =>
    have hless := hc.byteSize_remaining_lt hp (isSuccess_of_value? hv)
    simp only [List.length_cons]
    omega

/-- The loop has one end only. -/
theorem Iterates.unique {input rest rest' : Text} {items items' : List α}
    (h : Iterates body input items rest) (hend : (body .strict rest).result.value? = none)
    (h' : Iterates body input items' rest') (hend' : (body .strict rest').result.value? = none) :
    items = items' ∧ rest = rest' := by
  induction h generalizing items' with
  | nil input =>
    cases h' with
    | nil => exact ⟨rfl, rfl⟩
    | cons hv _ => exact nomatch hend.symm.trans hv
  | cons hv _ ih =>
    cases h' with
    | nil => exact nomatch hend'.symm.trans hv
    | cons hv' h' =>
      obtain ⟨rfl, rfl⟩ := ih hend h'
      obtain rfl := Option.some.inj (hv.symm.trans hv')
      exact ⟨rfl, rfl⟩

/-- **A chain is the loop, run to its end.** -/
theorem chain_iterates (hc : body.Consuming) (hp : body.Partitioning) (input : Text) :
    Iterates body input (chain body input).result.1 (chain body input).result.2 ∧
      (body .strict (chain body input).result.2).result.value? = none := by
  cases hv : (body .strict input).result.value? with
  | none =>
    rw [result_chain_none hv]
    exact ⟨.nil input, hv⟩
  | some a =>
    have hless := hc.length_remaining_lt hp (isSuccess_of_value? hv)
    obtain ⟨hiter, hend⟩ := chain_iterates hc hp (body .strict input).result.remaining
    rw [result_chain_some hv hless]
    exact ⟨.cons hv hiter, hend⟩
termination_by input.length

/-- With items in it, a chain matches something. -/
theorem consuming_repetition [TreeLike α] (hp : body.Partitioning)
    (hc : body.Consuming) {min : Nat} (hmin : min ≠ 0) : (repetition body min).Consuming := by
  intro mode input hs
  obtain ⟨taken, htaken⟩ := hp.chain input
  rw [result_repetition] at hs ⊢
  by_cases hlen : (chain body input).result.1.length < min
  · rw [if_pos hlen] at hs
    exact nomatch hs
  · rw [if_neg hlen, split_chain htaken]
    show taken ≠ []
    rintro rfl
    have hbound := (chain_iterates hc hp input).1.length_add_le hc hp
    rw [List.nil_append] at htaken
    rw [htaken] at hbound
    omega

end Matcher

/-! ### What the flags promise -/

namespace Expr

variable [TreeLike α]

/-- An expression without the flag never succeeds on nothing. -/
theorem attempt_consuming {e : Expr α} (h : e.WellFormed) (hn : e.nullable = false) :
    e.attempt.Consuming := by
  induction e with
  | terminal mark literal =>
    have hrule : literal.isEmpty = false := h.1.symm.trans hn
    exact Matcher.consuming_terminal fun he => by simp [he] at hrule
  | empty mark => exact nomatch h.1.symm.trans hn
  | sequence mark a b iha ihb =>
    obtain ⟨hflag, ha, hb⟩ := h
    have hrule : (a.nullable && b.nullable) = false := hflag.symm.trans hn
    refine Matcher.consuming_sequence a.run_partitioning b.run_partitioning ?_
    rcases Bool.and_eq_false_iff.mp hrule with hn | hn
    · exact .inl ((iha ha hn).visit a)
    · exact .inr ((ihb hb hn).visit b)
  | choice mark a b iha ihb =>
    obtain ⟨hflag, ha, hb⟩ := h
    have hrule : (a.nullable || b.nullable) = false := hflag.symm.trans hn
    obtain ⟨hna, hnb⟩ := Bool.or_eq_false_iff.mp hrule
    exact ((iha ha hna).visit a).choice ((ihb hb hnb).visit b)
  | optional mark body => exact nomatch h.1.symm.trans hn
  | repetition mark body min ih =>
    obtain ⟨hflag, hbody, hwf⟩ := h
    have hrule : (min == 0) = false := hflag.symm.trans hn
    have hmin : min ≠ 0 := by simpa using hrule
    exact Matcher.consuming_repetition body.run_partitioning ((ih hwf hbody).visit body) hmin
  | ahead mark a b iha _ => exact ((iha h.2.1 (h.1.symm.trans hn)).visit a).guarded true
  | notAhead mark a b iha _ => exact ((iha h.2.1 (h.1.symm.trans hn)).visit a).guarded false
  | production mark body ih => exact ih h.2.2 (h.1.symm.trans hn)

theorem run_consuming {e : Expr α} (h : e.WellFormed) (hn : e.nullable = false) :
    e.run.Consuming := (attempt_consuming h hn).visit e

end Expr

/-! ### Repetitions of a grammar -/

/-- The loop over `body` on `input`: however far it has gone, the next item leaves strictly less,
there are no more items than bytes, and the chain is where it ends. -/
structure Matcher.LoopEnds (body : Matcher α) (input : Text) : Prop where
  progress : ∀ {items rest}, Iterates body input items rest →
    (body .strict rest).result.isSuccess = true →
      (body .strict rest).result.remaining.byteSize < rest.byteSize
  bounded : ∀ {items rest}, Iterates body input items rest → items.length ≤ input.byteSize
  ends : Iterates body input (chain body input).result.1 (chain body input).result.2 ∧
    (body .strict (chain body input).result.2).result.isSuccess = false

/-- **Nullability is sound, and repetitions end.** Every flag of a grammar is the one that its rule
gives, and no body of a repetition has it; without the flag a success matches something; and so
every loop of every run makes progress until it ends. -/
theorem Grammar.nullable_sound [TreeLike α] (g : Grammar α) :
    (∀ node ∈ g.expr.nodes, node.nullable = node.rule ∧
      ∀ mark body min, node = .repetition mark body min → body.nullable = false) ∧
    (g.nullable = false → ∀ mode input,
      ((g.parseIn mode input).isSuccess = true → (g.parseIn mode input).matched ≠ []) ∧
      ((g.attempt mode input).result.isSuccess = true →
        (g.attempt mode input).result.matched ≠ [])) ∧
    ∀ mark body min, .repetition mark body min ∈ g.expr.nodes →
      ∀ input, body.run.LoopEnds input := by
  refine ⟨fun node hnode => ⟨?_, ?_⟩, fun hn mode input => ⟨?_, ?_⟩, ?_⟩
  · exact (g.wellFormed.of_mem_nodes hnode).nullable_eq
  · rintro mark body min rfl
    exact (g.wellFormed.of_mem_nodes hnode).2.1
  · exact Expr.run_consuming g.wellFormed hn mode input
  · exact Expr.attempt_consuming g.wellFormed hn mode input
  · intro mark body min hnode input
    obtain ⟨_, hn, hwf⟩ := g.wellFormed.of_mem_nodes hnode
    have hc := Expr.run_consuming hwf hn
    have hp := body.run_partitioning
    obtain ⟨hiter, hend⟩ := Matcher.chain_iterates hc hp input
    refine ⟨fun _ hs => hc.byteSize_remaining_lt hp hs, fun h => ?_, hiter, ?_⟩
    · have := h.length_add_le hc hp
      omega
    · exact Outcome.value?_eq_none.mp hend

end Peg
