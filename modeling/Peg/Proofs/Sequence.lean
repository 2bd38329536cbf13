import Peg.Proofs.Exchange
import Peg.Proofs.Success

/-! What a sequence comes to, and the laws of sequencing.

A sequence is matched by sizes. It adds the bytes that its parts skipped, takes for its
match what lies between these and the rest, and settles the mode of its second part by
a comparison of lengths. `parseIn_andThen` says the same by texts: the outcome of the
first part is `joined` with the one that its `sequel` comes to. The joined texts are
contiguous, since only one of the two parts may skip (`andThen_contiguous`).

From this equation the laws follow in both modes, with no further look at the matcher.
A row of three comes to the same whichever two of them are taken together first, and
nothing may be added at either end (`andThen_associative`). The point of it is the mode
of the third part: one grouping asks whether the first two used anything up, the other
one asks twice (`onward_joined`). Alternatives that begin with the same grammar may share
it (`andThen_orElse_distrib`). -/
namespace Peg

variable {α : Type}

/-! ### Two outcomes in a row -/

namespace Outcome

/-- The mode for what follows: as long as nothing is used up, the leading edge is still there. -/
def onward (o : Outcome α) (mode : Mode) : Mode :=
  if o.skipped = [] ∧ o.matched = [] then mode else .strict

variable [TreeLike α]

/-- The outcome over `input` of `left` and, on what it left, `right`. -/
def joined (input : Text) (left right : Outcome α) : Outcome α :=
  match left.value? with
  | none => .failure input
  | some a =>
    match right.value? with
    | none => .failure input
    | some b => .ofParts (left.skipped ++ right.skipped) (left.matched ++ right.matched)
        right.remaining (TreeLike.pair a b)

variable {input : Text} {left right right' : Outcome α}

theorem joined_of_values {a b : α} (ha : left.value? = some a) (hb : right.value? = some b) :
    joined input left right = .ofParts (left.skipped ++ right.skipped)
      (left.matched ++ right.matched) right.remaining (TreeLike.pair a b) := by
  simp only [joined, ha, hb]

theorem joined_of_left (h : left.value? = none) : joined input left right = .failure input := by
  simp only [joined, h]

theorem joined_of_right (h : right.value? = none) : joined input left right = .failure input := by
  simp only [joined, h]
  split <;> rfl

@[simp] theorem isSuccess_joined :
    (joined input left right).isSuccess = (left.isSuccess && right.isSuccess) := by
  cases ha : left.value? with
  | none =>
    rw [joined_of_left ha, value?_eq_none.mp ha]
    rfl
  | some a =>
    cases hb : right.value? with
    | none =>
      rw [joined_of_right hb, value?_eq_none.mp hb, Bool.and_false]
      rfl
    | some b =>
      rw [joined_of_values ha hb, isSuccess_of_value? ha, isSuccess_of_value? hb]
      exact isSuccess_of_value? (value?_ofParts ..)

/-- Behind a failure nothing is looked at. -/
theorem joined_congr (h : left.isSuccess = true → right = right') :
    joined input left right = joined input left right' := by
  cases ha : left.value? with
  | none => rw [joined_of_left ha, joined_of_left ha]
  | some a => rw [h (isSuccess_of_value? ha)]

/-- Two parts used nothing up if the first did not and the second did not. -/
theorem onward_joined (hl : left.isSuccess = true) (hr : right.isSuccess = true) (mode : Mode) :
    (joined input left right).onward mode = right.onward (left.onward mode) := by
  obtain ⟨a, ha⟩ := exists_value? hl
  obtain ⟨b, hb⟩ := exists_value? hr
  rw [joined_of_values ha hb]
  simp only [onward, skipped_ofParts, matched_ofParts, List.append_eq_nil_iff]
  by_cases hnone : right.skipped = [] ∧ right.matched = []
  · simp only [hnone.1, hnone.2, and_true, and_self, if_true]
  · rw [if_neg hnone, if_neg fun hboth => hnone ⟨hboth.1.2, hboth.2.2⟩]

theorem remaining_joined (hl : left.isSuccess = true) (hr : right.isSuccess = true) :
    (joined input left right).remaining = right.remaining := by
  obtain ⟨a, ha⟩ := exists_value? hl
  obtain ⟨b, hb⟩ := exists_value? hr
  rw [joined_of_values ha hb, remaining_ofParts]

/-- Two alternatives for what follows are tried behind one and the same first part. -/
theorem joined_alternatives (input : Text) (left right other : Outcome α) :
    (if (joined input left right).isSuccess then joined input left right
      else joined input left other) =
      joined input left (if right.isSuccess then right else other) := by
  cases ha : left.value? with
  | none => rw [joined_of_left ha, joined_of_left ha, joined_of_left ha, ite_self]
  | some a =>
    rw [isSuccess_joined, isSuccess_of_value? ha, Bool.true_and]
    split <;> rfl

/-! ### Three outcomes in a row -/

/-- Three values, of which the first two were paired first in one outcome and the last two in the
other; or both outcomes have none. -/
def Regrouped (o p : Outcome α) : Prop :=
  (o.value? = none ∧ p.value? = none) ∨ ∃ a b c,
    o.value? = some (TreeLike.pair (TreeLike.pair a b) c) ∧
    p.value? = some (TreeLike.pair a (TreeLike.pair b c))

/-- However three values are paired, their texts stand in the same order. -/
theorem Regrouped.flatten {o p : Outcome Tree} (h : o.Regrouped p) :
    o.value?.map Tree.flatten = p.value?.map Tree.flatten := by
  rcases h with ⟨ho, hp⟩ | ⟨a, b, c, ho, hp⟩
  · rw [ho, hp]
  · rw [ho, hp]
    exact congrArg some (List.append_assoc a.flatten b.flatten c.flatten)

/-- It makes no difference which two are joined first, but for how the values are paired. -/
theorem joined_assoc (input rest : Text) (first second third : Outcome α) :
    (joined input (joined input first second) third).SameSpan
      (joined input first (joined rest second third)) ∧
    (joined input (joined input first second) third).Regrouped
      (joined input first (joined rest second third)) := by
  cases ha : first.value? with
  | none =>
    rw [joined_of_left ha, joined_of_left ha, joined_of_left rfl]
    exact ⟨rfl, .inl ⟨rfl, rfl⟩⟩
  | some a =>
    cases hb : second.value? with
    | none =>
      rw [joined_of_right hb, joined_of_left hb, joined_of_left rfl, joined_of_right rfl]
      exact ⟨rfl, .inl ⟨rfl, rfl⟩⟩
    | some b =>
      cases hc : third.value? with
      | none =>
        rw [joined_of_right hc, joined_of_right hc, joined_of_right rfl]
        exact ⟨rfl, .inl ⟨rfl, rfl⟩⟩
      | some c =>
        rw [joined_of_values ha hb, joined_of_values hb hc,
          joined_of_values (value?_ofParts ..) hc, joined_of_values ha (value?_ofParts ..)]
        simp only [skipped_ofParts, matched_ofParts, remaining_ofParts, List.append_assoc]
        refine ⟨(span_ofParts ..).trans (span_ofParts ..).symm, .inr ⟨a, b, c, ?_, ?_⟩⟩
        · exact value?_ofParts ..
        · exact value?_ofParts ..

end Outcome

/-- The comparison of lengths tells whether anything was used up. -/
theorem Partitions.followMode_eq_onward {mode : Mode} {input : Text} {o : Outcome α}
    (h : Partitions mode input o) : Matcher.followMode mode input o.remaining = o.onward mode := by
  rw [h.followMode_eq, Outcome.onward]
  by_cases hm : o.matched = []
  · rw [if_pos hm, if_pos ⟨(h.remaining_eq hm).1, hm⟩]
  · rw [if_neg hm, if_neg fun hboth => hm hboth.2]

namespace Grammar
open Outcome

/-! ### First sets -/

theorem not_mem_first_empty (literal : Text) : literal ∉ (empty : Grammar α).first :=
  LiteralSet.not_mem_empty literal

theorem mem_first_andThen {g next : Grammar α} {literal : Text} :
    literal ∈ (g.andThen next).first ↔
      literal ∈ g.first ∨ (g.nullable = true ∧ literal ∈ next.first) := by
  show literal ∈ (if g.nullable then g.first ∪ next.first else g.first) ↔ _
  split
  next h => simp [h]
  next h => simp [h]

theorem mem_first_orElse {g alternative : Grammar α} {literal : Text} :
    literal ∈ (g.orElse alternative).first ↔ literal ∈ g.first ∨ literal ∈ alternative.first :=
  LiteralSet.mem_union

theorem first_andThen_assoc (a b c : Grammar α) :
    ((a.andThen b).andThen c).first = (a.andThen (b.andThen c)).first := by
  ext literal
  have hnullable : (a.andThen b).nullable = true ↔ a.nullable = true ∧ b.nullable = true :=
    Bool.and_eq_true_iff
  simp only [mem_first_andThen, hnullable]
  grind

/-! ### Two grammars in a row -/

variable [TreeLike α]

/-- What `next` comes to behind `g`. It is run on what `g` left, and may skip something only if `g`
used nothing up. -/
def sequel (g next : Grammar α) (mode : Mode) (input : Text) : Outcome α :=
  next.parseIn ((g.parseIn mode input).onward mode) (g.parseIn mode input).remaining

/-- **A sequence joins the outcome of its first part with that of the sequel.** -/
theorem parseIn_andThen (g next : Grammar α) (mode : Mode) (input : Text) :
    (g.andThen next).parseIn mode input =
      joined input (g.parseIn mode input) (g.sequel next mode input) := by
  have hp : g.run.Partitioning := g.expr.run_partitioning
  have hp' : next.run.Partitioning := next.expr.run_partitioning
  have hsequel : Matcher.follow g.run next.run mode input = g.sequel next mode input := by
    show (next.run (Matcher.followMode mode input _) _).result = _
    rw [(hp mode input).followMode_eq_onward]
    rfl
  have hattempt : (g.andThen next).parseIn mode input =
      (Matcher.sequence g.run next.run mode input).result := parseIn_eq_attempt rfl ..
  rw [hattempt, ← hsequel]
  rcases hp.result_sequence hp' mode input with ⟨hf, hv | hv⟩ | ⟨a, b, hva, hvb, hj⟩
  · exact hf.trans (joined_of_left hv).symm
  · exact hf.trans (joined_of_right hv).symm
  · exact hj.trans (joined_of_values hva hvb).symm

/-- **A sequence is the contiguous join of its parts.** It succeeds just where the first part does
and the second one does on what the first left, in the same mode if the first used nothing up and
strictly otherwise. Then one of the two skipped nothing, and what the sequence skips and matches is
what they do, one behind the other. Otherwise it fails and gives the input back. -/
theorem andThen_contiguous (g next : Grammar α) (mode : Mode) (input : Text) :
    let left := g.parseIn mode input
    let right := next.parseIn (if left.skipped = [] ∧ left.matched = [] then mode else .strict)
      left.remaining
    let whole := (g.andThen next).parseIn mode input
    (whole.isSuccess = true ↔ left.isSuccess = true ∧ right.isSuccess = true) ∧
    (whole.isSuccess = false → whole = .failure input) ∧
    ∀ a b, left.value? = some a → right.value? = some b →
      (left.skipped = [] ∨ right.skipped = []) ∧
      whole = .ofParts (left.skipped ++ right.skipped) (left.matched ++ right.matched)
        right.remaining (TreeLike.pair a b) := by
  intro left right whole
  have hwhole : whole = joined input left right := parseIn_andThen g next mode input
  have hleft : Partitions mode input left := g.parseIn_partitions mode input
  have hright : Partitions (left.onward mode) left.remaining right := next.parseIn_partitions ..
  refine ⟨?_, fun hf => ?_, fun a b ha hb => ⟨?_, ?_⟩⟩
  · rw [hwhole, isSuccess_joined, Bool.and_eq_true]
  · exact ((g.andThen next).parseIn_partitions mode input).eq_failure hf
  · by_cases hs : right.skipped = []
    · exact .inr hs
    · rw [← hleft.followMode_eq_onward] at hright
      exact .inl (hleft.nil_of_follow_skipped hright hs).2.1
  · rw [hwhole, joined_of_values ha hb]

/-- Behind a mark that is not there the letter may still be looked for; behind a letter that was
found the next one has to stand. -/
theorem andThen_contiguous_letters :
    let mark : Grammar Tree := (terminal ['-']).optionally
    let letter : Grammar Tree := (terminal ['b']).withListener
      { action := fun outcome => .text outcome.remaining }
    let a : Grammar Tree := terminal ['a']
    (mark.andThen letter).parse "éb!".toList =
      .partialSuccess ['é'] ['b'] ['!'] (.pair .nothing (.text ['!'])) ∧
    (a.andThen letter).parse "xab!".toList =
      .partialSuccess ['x'] "ab".toList ['!'] (.pair (.text ['a']) (.text ['!'])) ∧
    (a.andThen letter).parse "xacab".toList = .failure "xacab".toList := by
  intro mark letter a
  refine ⟨?_, ?_, ?_⟩
  · exact ((andThen_contiguous mark letter .lenient "éb!".toList).2.2 .nothing (.text ['!'])
      (by decide +kernel) (by decide +kernel)).2
  · exact ((andThen_contiguous a letter .lenient "xab!".toList).2.2 (.text ['a']) (.text ['!'])
      (by decide +kernel) (by decide +kernel)).2
  · exact (andThen_contiguous a letter .lenient "xacab".toList).2.1 (by decide +kernel)

/-! ### Grouping -/

/-- What a third grammar comes to behind a sequence is what it comes to behind the second part of
the sequence, where that one is run. -/
theorem andThen_sequel {a b : Grammar α} {mode : Mode} {input : Text}
    (ha : (a.parseIn mode input).isSuccess = true) (hb : (a.sequel b mode input).isSuccess = true)
    (c : Grammar α) : (a.andThen b).sequel c mode input =
      b.sequel c ((a.parseIn mode input).onward mode) (a.parseIn mode input).remaining := by
  unfold sequel
  rw [parseIn_andThen, onward_joined ha hb, remaining_joined ha hb]
  rfl

theorem parseIn_andThen_assoc (a b c : Grammar α) (mode : Mode) (input : Text) :
    (((a.andThen b).andThen c).parseIn mode input).SameSpan
      ((a.andThen (b.andThen c)).parseIn mode input) ∧
    (((a.andThen b).andThen c).parseIn mode input).Regrouped
      ((a.andThen (b.andThen c)).parseIn mode input) := by
  let first := a.parseIn mode input
  let second := a.sequel b mode input
  let third := b.sequel c (first.onward mode) first.remaining
  have hleft : ((a.andThen b).andThen c).parseIn mode input =
      joined input (joined input first second) third := by
    rw [parseIn_andThen, parseIn_andThen]
    -- the third part is run only where the first two succeed, and there it is the same one
    refine joined_congr fun hs => ?_
    rw [isSuccess_joined, Bool.and_eq_true] at hs
    exact andThen_sequel hs.1 hs.2 c
  have hright : (a.andThen (b.andThen c)).parseIn mode input =
      joined input first (joined first.remaining second third) := by
    rw [parseIn_andThen]
    exact congrArg (joined input first) (parseIn_andThen b c ..)
  rw [hleft, hright]
  exact joined_assoc input first.remaining first second third

theorem andThen_assoc_equivalent (a b c : Grammar α) :
    ((a.andThen b).andThen c).Equivalent (a.andThen (b.andThen c)) where
  nullable := Bool.and_assoc a.nullable b.nullable c.nullable
  spans mode input := (parseIn_andThen_assoc a b c mode input).1

/-! ### Nothing at either end -/

/-- Nothing behind a grammar makes no difference. -/
theorem andThen_empty_equivalent (g : Grammar α) : (g.andThen empty).Equivalent g where
  nullable := Bool.and_true g.nullable
  spans mode input := by
    have hp := g.parseIn_partitions mode input
    have hempty : g.sequel empty mode input =
        .success [] (g.parseIn mode input).remaining (TreeLike.text []) := parseIn_empty ..
    rw [parseIn_andThen, hempty]
    cases ha : (g.parseIn mode input).value? with
    | none =>
      rw [joined_of_left ha, hp.eq_failure (value?_eq_none.mp ha)]
      rfl
    | some a =>
      rw [joined_of_values ha rfl]
      simp only [skipped, matched, remaining, List.append_nil]
      exact (span_ofParts ..).trans ((congrArg span (hp.eq_ofParts ha)).trans (span_ofParts ..)).symm

/-- **Sequencing is associative, and nothing is its unit.** However three grammars in a row are
grouped, they are nullable alike, may begin with the same literals, and skip, match and leave the
same, in both modes; the leaves of the trees they come to spell the same text. And a grammar with
nothing in front of it or behind it is as the grammar itself. -/
theorem andThen_associative :
    (∀ {α : Type} [TreeLike α] (a b c : Grammar α),
      ((a.andThen b).andThen c).Equivalent (a.andThen (b.andThen c)) ∧
      ((a.andThen b).andThen c).first = (a.andThen (b.andThen c)).first) ∧
    (∀ (a b c : Grammar Tree) (mode : Mode) (input : Text),
      (((a.andThen b).andThen c).parseIn mode input).value?.map Tree.flatten =
        ((a.andThen (b.andThen c)).parseIn mode input).value?.map Tree.flatten) ∧
    ∀ {α : Type} [TreeLike α] (g : Grammar α),
      ((empty.andThen g).Equivalent g ∧ (empty.andThen g).first = g.first) ∧
      ((g.andThen empty).Equivalent g ∧ (g.andThen empty).first = g.first) := by
  refine ⟨fun a b c => ⟨?_, ?_⟩, fun a b c mode input => ?_, fun g => ⟨⟨?_, ?_⟩, ?_, ?_⟩⟩
  · exact andThen_assoc_equivalent a b c
  · exact first_andThen_assoc a b c
  · exact (parseIn_andThen_assoc a b c mode input).2.flatten
  · exact empty_andThen_equivalent g
  · ext literal
    rw [mem_first_andThen, or_iff_right (not_mem_first_empty literal)]
    exact and_iff_right rfl
  · exact andThen_empty_equivalent g
  · ext literal
    rw [mem_first_andThen]
    exact or_iff_left fun h => not_mem_first_empty literal h.2

/-! ### Factoring -/

theorem sequel_orElse (a b c : Grammar α) (mode : Mode) (input : Text) :
    a.sequel (b.orElse c) mode input =
      if (a.sequel b mode input).isSuccess then a.sequel b mode input
      else a.sequel c mode input :=
  parseIn_orElse b c ..

/-- **What two alternatives begin with may be factored out.** The first alternative may have run the
common part and failed behind it; the second one then runs it again on the same input, and comes to
where the factored grammar tries the other continuation. Nothing tells the two apart, the value
included. -/
theorem andThen_orElse_distrib (a b c : Grammar α) :
    ((a.andThen b).orElse (a.andThen c)).nullable = (a.andThen (b.orElse c)).nullable ∧
    ((a.andThen b).orElse (a.andThen c)).first = (a.andThen (b.orElse c)).first ∧
    ∀ mode input, ((a.andThen b).orElse (a.andThen c)).parseIn mode input =
      (a.andThen (b.orElse c)).parseIn mode input := by
  refine ⟨?_, ?_, fun mode input => ?_⟩
  · exact (Bool.and_or_distrib_left a.nullable b.nullable c.nullable).symm
  · ext literal
    simp only [mem_first_andThen, mem_first_orElse]
    grind
  · rw [parseIn_orElse, parseIn_andThen, parseIn_andThen, parseIn_andThen, sequel_orElse]
    exact joined_alternatives ..

end Grammar

end Peg
