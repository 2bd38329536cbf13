import Peg.Expr.Run

/-! What each combinator answers, from the answers of its parts.

One equation, or one inversion, for each combinator. They speak of results only;
what is entered in the journal on the way plays no part in them. -/
namespace Peg

variable {α : Type}

namespace Matcher
open Outcome

variable {first second body current forward : Matcher α} {mode : Mode} {input : Text}

/-! ### Leaves -/

theorem result_empty [TreeLike α] : (empty mode input : Recorded (Entry α) _).result =
    .success [] input (TreeLike.text []) := split_zero ..

theorem result_terminal [TreeLike α] (literal : Text) :
    (terminal literal mode input : Recorded (Entry α) _).result =
      match offset? literal mode input with
      | some skip => .split input skip literal.byteSize (TreeLike.text literal)
      | none => .failure input := rfl

/-- The empty literal stands at the front. -/
theorem offset?_nil (mode : Mode) (input : Text) : offset? [] mode input = some 0 := by
  cases mode with
  | strict => rfl
  | lenient =>
    show Text.findBytes? [] input.encode = some 0
    cases input.encode <;> rfl

theorem result_terminal_nil [TreeLike α] :
    (terminal [] mode input : Recorded (Entry α) _).result =
      .success [] input (TreeLike.text []) := by
  rw [result_terminal, offset?_nil]
  exact split_zero ..

theorem result_terminal_strict [TreeLike α] (literal rest : Text) :
    (terminal literal .strict (literal ++ rest) : Recorded (Entry α) _).result =
      .success literal rest (TreeLike.text literal) := by
  have hstands : offset? literal .strict (literal ++ rest) = some 0 :=
    if_pos (List.isPrefixOf_iff_prefix.mpr (List.prefix_append literal rest))
  rw [result_terminal, hstands]
  exact split_byteSize [] literal rest _

theorem result_terminal_of_absent [TreeLike α] {literal : Text} (h : ¬ literal <+: input) :
    (terminal literal .strict input : Recorded (Entry α) _).result = .failure input := by
  have hoffset : offset? literal .strict input = none :=
    if_neg (mt List.isPrefixOf_iff_prefix.mp h)
  rw [result_terminal, hoffset]

/-! ### Sequence, choice, option -/

/-- The outcome of the second part, which is run on what the first one left. -/
def follow (first second : Matcher α) (mode : Mode) (input : Text) : Outcome α :=
  let left := (first mode input).result
  (second (followMode mode input left.remaining) left.remaining).result

theorem result_sequence_none [TreeLike α] (h : (first mode input).result.value? = none) :
    (sequence first second mode input).result = .failure input := by
  simp [sequence, h]

theorem result_sequence_some_none [TreeLike α] {a : α}
    (h : (first mode input).result.value? = some a)
    (h' : (follow first second mode input).value? = none) :
    (sequence first second mode input).result = .failure input := by
  unfold follow at h'
  simp [sequence, h, h']

theorem result_sequence_some_some [TreeLike α] {a b : α}
    (h : (first mode input).result.value? = some a)
    (h' : (follow first second mode input).value? = some b) :
    (sequence first second mode input).result =
      join input (first mode input).result (follow first second mode input) a b := by
  unfold follow at h' ⊢
  simp [sequence, h, h']

theorem value?_join [TreeLike α] (input : Text) (left right : Outcome α) (a b : α) :
    (join input left right a b).value? = some (TreeLike.pair a b) := value?_ofParts ..

theorem isSuccess_sequence [TreeLike α] :
    (sequence first second mode input).result.isSuccess = true ↔
      (first mode input).result.isSuccess = true ∧
        (follow first second mode input).isSuccess = true := by
  constructor
  · intro h
    cases hv : (first mode input).result.value? with
    | none =>
      rw [result_sequence_none hv] at h
      exact nomatch h
    | some a =>
      cases hw : (follow first second mode input).value? with
      | none =>
        rw [result_sequence_some_none hv hw] at h
        exact nomatch h
      | some b => exact ⟨isSuccess_of_value? hv, isSuccess_of_value? hw⟩
  · rintro ⟨hfirst, hfollow⟩
    obtain ⟨a, hv⟩ := exists_value? hfirst
    obtain ⟨b, hw⟩ := exists_value? hfollow
    rw [result_sequence_some_some hv hw]
    exact isSuccess_of_value? (value?_join ..)

/-- The answers of the two parts settle the answer, whatever the mode. -/
theorem result_sequence_congr [TreeLike α] {mode' : Mode}
    (h : (first mode input).result = (first mode' input).result)
    (h' : follow first second mode input = follow first second mode' input) :
    (sequence first second mode input).result = (sequence first second mode' input).result := by
  cases hv : (first mode' input).result.value? with
  | none => rw [result_sequence_none hv, result_sequence_none (h ▸ hv)]
  | some a =>
    cases hw : (follow first second mode' input).value? with
    | none => rw [result_sequence_some_none hv hw, result_sequence_some_none (h ▸ hv) (h' ▸ hw)]
    | some b =>
      rw [result_sequence_some_some hv hw, result_sequence_some_some (h ▸ hv) (h' ▸ hw), h, h']

theorem result_choice : (choice first second mode input).result =
    if (first mode input).result.isSuccess then (first mode input).result
    else (second mode input).result := by
  simp only [choice, Recorded.result_bind]
  split <;> rfl

theorem result_optional [TreeLike α] : (optional body mode input).result =
    if (body mode input).result.isSuccess then (body mode input).result
    else .success [] input TreeLike.nothing := by
  simp [optional]

theorem isSuccess_optional [TreeLike α] : (optional body mode input).result.isSuccess = true := by
  rw [result_optional]
  split
  · assumption
  · rfl

/-! ### Repetition -/

theorem result_chain_none (h : (body .strict input).result.value? = none) :
    (chain body input).result = ([], input) := by
  rw [chain]
  simp [h]

/-- An item that leaves less than it was given is followed by the chain on what it leaves. -/
theorem result_chain_some {a : α} (h : (body .strict input).result.value? = some a)
    (hless : (body .strict input).result.remaining.length < input.length) :
    (chain body input).result =
      (a :: (chain body (body .strict input).result.remaining).result.1,
        (chain body (body .strict input).result.remaining).result.2) := by
  rw [chain]
  simp [h, hless]

theorem result_chain_idle {a : α} (h : (body .strict input).result.value? = some a)
    (hidle : ¬ (body .strict input).result.remaining.length < input.length) :
    (chain body input).result = ([a], (body .strict input).result.remaining) := by
  rw [chain]
  simp [h, hidle]

theorem result_repetition [TreeLike α] (min : Nat) :
    (repetition body min mode input).result =
      if (chain body input).result.1.length < min then .failure input
      else .split input 0 (input.byteSize - (chain body input).result.2.byteSize)
        (TreeLike.list (chain body input).result.1) := rfl

/-! ### Looking ahead and visits -/

theorem result_guarded (expected : Bool) : (guarded expected current forward mode input).result =
    if (current mode input).result.isSuccess then
      if (forward .strict (current mode input).result.remaining).result.isSuccess = expected then
        (current mode input).result
      else .failure input
    else .failure input := by
  simp only [guarded, Recorded.result_bind]
  split <;> rfl

/-- The listener changes the value of an outcome, and nothing else. -/
theorem result_visit (node : Expr α) : (visit node body mode input).result =
    match node.listener? with
    | none => (body mode input).result
    | some listener => (body mode input).result.withValue
        (listener.action (body mode input).result) := by
  simp only [visit, Recorded.result_bind, notify]
  cases node.listener? with
  | none => rfl
  | some listener => cases h : (body mode input).result <;> rfl

section Visit
variable (node : Expr α)

@[simp] theorem skipped_visit :
    (visit node body mode input).result.skipped = (body mode input).result.skipped := by
  rw [result_visit]
  split <;> simp

@[simp] theorem matched_visit :
    (visit node body mode input).result.matched = (body mode input).result.matched := by
  rw [result_visit]
  split <;> simp

@[simp] theorem remaining_visit :
    (visit node body mode input).result.remaining = (body mode input).result.remaining := by
  rw [result_visit]
  split <;> simp

@[simp] theorem isSuccess_visit :
    (visit node body mode input).result.isSuccess = (body mode input).result.isSuccess := by
  rw [result_visit]
  split <;> simp

@[simp] theorem isPartial_visit :
    (visit node body mode input).result.isPartial = (body mode input).result.isPartial := by
  rw [result_visit]
  split <;> simp

theorem consumed_visit :
    (visit node body mode input).result.consumed = (body mode input).result.consumed := by
  simp only [consumed, skipped_visit, matched_visit]

end Visit

end Matcher

end Peg
