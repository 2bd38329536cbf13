import Peg.Proofs.Repetition

/-! Matching with every offset checked.

Matchers add and subtract sizes in bytes and cut their input at the offsets that
come out. Here they do so with nothing taken on trust: a difference below zero, an
offset beyond the end or inside a character, a part whose bytes are no text, and an
item of a repetition that leaves as much as it was given each stop the whole
computation. Literals are compared and searched for among the bytes.

`Grammar.runChecked_eq`: the checked run of a grammar never stops, and it is its run. -/
namespace Peg

/-! ### Checked operations -/

namespace Text

/-- The texts before and after an offset, read back from the bytes on either side. -/
def splitAt? (s : Text) (n : Nat) : Option (Text × Text) :=
  if IsBoundary s n then
    (decode? ((encode s).take n).toByteArray).bind fun front =>
      (decode? ((encode s).drop n).toByteArray).map fun back => (front, back)
  else none

theorem decode?_encode (s : Text) : decode? (encode s).toByteArray = some s := by
  have hvalid : ByteArray.IsValidUTF8 s.utf8Encode := ByteArray.isValidUTF8_utf8Encode
  show (String.fromUTF8? s.utf8Encode).map String.toList = some s
  rw [String.fromUTF8?, dif_pos hvalid]
  exact congrArg some (String.toList_ofList (l := s))

/-- At the end of a front part the text comes apart into that part and the rest. -/
theorem splitAt?_append (front back : Text) :
    splitAt? (front ++ back) front.byteSize = some (front, back) := by
  have htake : (encode (front ++ back)).take front.byteSize = encode front := by
    rw [encode_append, ← length_encode front, List.take_left]
  rw [splitAt?, if_pos (isBoundary_append front back), htake, encode_drop, decode?_encode, decode?_encode]
  rfl

example : splitAt? ['é', 'a'] 1 = none := by decide

end Text

/-- The difference, where there is one. -/
def difference? (a b : Nat) : Option Nat := if b ≤ a then some (a - b) else none

theorem difference?_of_le {a b : Nat} (h : b ≤ a) : difference? a b = some (a - b) := if_pos h

variable {α : Type}

def Outcome.split? (input : Text) (skip size : Nat) (value : α) : Option (Outcome α) :=
  (input.splitAt? skip).bind fun (skipped, rest) =>
    (rest.splitAt? size).map fun (matched, remaining) => .ofParts skipped matched remaining value

theorem Outcome.split?_eq {input skipped matched remaining : Text}
    (h : skipped ++ (matched ++ remaining) = input) (value : α) :
    split? input skipped.byteSize matched.byteSize value =
      some (ofParts skipped matched remaining value) := by
  subst h
  simp [split?, Text.splitAt?_append]

theorem Outcome.split?_zero (input : Text) (value : α) :
    split? input 0 0 value = some (.success [] input value) :=
  split?_eq (show ([] : Text) ++ (([] : Text) ++ input) = input from rfl) value

/-! ### Checked matchers -/

/-- A matcher that may stop, which is `none`; the journal is kept up to there. -/
abbrev CheckedMatcher (α : Type) := Mode → Text → OptionT (Recorded (Entry α)) (Outcome α)

namespace CheckedMatcher

/-- Goes on with what is there. -/
def demand {β : Type} (o : Option β) : OptionT (Recorded (Entry α)) β := OptionT.mk (pure o)

def offset? (literal : Text) : Mode → Text → Option Nat
  | .strict, input => if literal.encode.isPrefixOf input.encode then some 0 else none
  | .lenient, input => Text.find? literal input

section Combinators
variable [TreeLike α]

def terminal (literal : Text) : CheckedMatcher α := fun mode input =>
  match offset? literal mode input with
  | some skip => demand (Outcome.split? input skip literal.byteSize (TreeLike.text literal))
  | none => pure (.failure input)

def empty : CheckedMatcher α := fun _ input => demand (Outcome.split? input 0 0 (TreeLike.text []))

def join? (input : Text) (left right : Outcome α) (a b : α) : Option (Outcome α) :=
  let skip := left.skipped.byteSize + right.skipped.byteSize
  (difference? input.byteSize skip).bind fun room =>
    (difference? room right.remaining.byteSize).bind fun size =>
      Outcome.split? input skip size (TreeLike.pair a b)

def sequence (first second : CheckedMatcher α) : CheckedMatcher α := fun mode input => do
  let left ← first mode input
  match left.value? with
  | none => pure (.failure input)
  | some a =>
    let right ← second (Matcher.followMode mode input left.remaining) left.remaining
    match right.value? with
    | none => pure (.failure input)
    | some b => demand (join? input left right a b)

def choice (first second : CheckedMatcher α) : CheckedMatcher α := fun mode input => do
  let left ← first mode input
  if left.isSuccess then pure left else second mode input

def optional (body : CheckedMatcher α) : CheckedMatcher α := fun mode input => do
  let taken ← body mode input
  if taken.isSuccess then pure taken else demand (Outcome.split? input 0 0 TreeLike.nothing)

def chain (body : CheckedMatcher α) (input : Text) :
    OptionT (Recorded (Entry α)) (List α × Text) := do
  let item ← body .strict input
  match item.value? with
  | none => pure ([], input)
  | some a =>
    if item.remaining.byteSize < input.byteSize then
      (fun (items, rest) => (a :: items, rest)) <$> chain body item.remaining
    else demand none
termination_by input.byteSize

def repetition (body : CheckedMatcher α) (min : Nat) : CheckedMatcher α := fun _ input => do
  let (items, rest) ← chain body input
  if items.length < min then pure (.failure input)
  else
    demand <| (difference? input.byteSize rest.byteSize).bind fun size =>
      Outcome.split? input 0 size (TreeLike.list items)

def guarded (expected : Bool) (current forward : CheckedMatcher α) : CheckedMatcher α :=
  fun mode input => do
    let outcome ← current mode input
    if outcome.isSuccess then
      let next ← forward .strict outcome.remaining
      pure (if next.isSuccess = expected then outcome else .failure input)
    else pure (.failure input)

def visit (node : Expr α) (body : CheckedMatcher α) : CheckedMatcher α := fun mode input => do
  let outcome ← body mode input
  OptionT.lift (Recorded.record (.visit node mode input outcome))
  OptionT.lift (Matcher.notify node.listener? outcome)

end Combinators

end CheckedMatcher

namespace Expr

variable [TreeLike α]

def attemptChecked : Expr α → CheckedMatcher α
  | .terminal _ literal => .terminal literal
  | .empty _ => .empty
  | .sequence _ first second =>
    .sequence (.visit first first.attemptChecked) (.visit second second.attemptChecked)
  | .choice _ first second =>
    .choice (.visit first first.attemptChecked) (.visit second second.attemptChecked)
  | .optional _ body => .optional (.visit body body.attemptChecked)
  | .repetition _ body min => .repetition (.visit body body.attemptChecked) min
  | .ahead _ current forward =>
    .guarded true (.visit current current.attemptChecked) (.visit forward forward.attemptChecked)
  | .notAhead _ current forward =>
    .guarded false (.visit current current.attemptChecked) (.visit forward forward.attemptChecked)
  | .production _ body => body.attemptChecked

def runChecked (e : Expr α) : CheckedMatcher α := .visit e e.attemptChecked

end Expr

/-! ### Agreement -/

/-- The checked computation does not stop, and does what the other one does. -/
def Agrees {ε β : Type} (c : OptionT (Recorded ε) β) (r : Recorded ε β) : Prop :=
  c.run = some <$> r

namespace Agrees

variable {ε β γ : Type} {c : OptionT (Recorded ε) β} {r : Recorded ε β}

theorem pure (b : β) : Agrees (pure b : OptionT (Recorded ε) β) (pure b) := rfl

theorem lift (r : Recorded ε β) : Agrees (OptionT.lift r) r := by
  simp [Agrees, OptionT.lift, OptionT.run, OptionT.mk]

theorem bind {f : β → OptionT (Recorded ε) γ} {g : β → Recorded ε γ} (h : Agrees c r)
    (hf : Agrees (f r.result) (g r.result)) : Agrees (c >>= f) (r >>= g) := by
  unfold Agrees at h hf ⊢
  rw [OptionT.run_bind, h]
  ext
  · simp [Option.elimM, hf]
  · simp [Option.elimM, hf]

theorem map (h : Agrees c r) (f : β → γ) : Agrees (f <$> c) (f <$> r) := by
  unfold Agrees at h ⊢
  simp [h]

end Agrees

namespace CheckedMatcher
open Outcome

variable {first second body current forward : Matcher α}
variable {first' second' body' current' forward' : CheckedMatcher α}

/-- On every input the checked matcher does what the other one does. -/
def AgreesWith (c : CheckedMatcher α) (m : Matcher α) : Prop :=
  ∀ mode input, Agrees (c mode input) (m mode input)

theorem demand_some {β : Type} (b : β) :
    Agrees (demand (some b) : OptionT (Recorded (Entry α)) β) (pure b) := rfl

theorem offset?_eq (literal : Text) (mode : Mode) (input : Text) :
    offset? literal mode input = Matcher.offset? literal mode input := by
  cases mode with
  | lenient => rfl
  | strict =>
    simp only [offset?, Matcher.offset?, List.isPrefixOf_iff_prefix, Text.encode_prefix_iff]

theorem terminal_agrees [TreeLike α] (literal : Text) :
    AgreesWith (terminal literal : CheckedMatcher α) (.terminal literal) := by
  intro mode input
  unfold terminal Matcher.terminal
  rw [offset?_eq]
  cases h : Matcher.offset? literal mode input with
  | none => exact .pure _
  | some skip =>
    obtain ⟨front, back, rfl, rfl, _⟩ := Matcher.offset?_eq_some h
    simp only [split?_eq (rfl : front ++ (literal ++ back) = _), split_byteSize]
    exact demand_some _

theorem empty_agrees [TreeLike α] : AgreesWith (empty : CheckedMatcher α) .empty := by
  intro mode input
  unfold empty Matcher.empty
  rw [split?_zero, split_zero]
  exact demand_some _

theorem join?_eq [TreeLike α] {mode : Mode} {input : Text} {left right : Outcome α}
    (hl : Partitions mode input left)
    (hr : Partitions (Matcher.followMode mode input left.remaining) left.remaining right)
    (a b : α) : join? input left right a b = some (Matcher.join input left right a b) := by
  have hparts := hl.follow_parts hr
  have hsize := congrArg Text.byteSize hparts
  simp only [Text.byteSize_append] at hsize
  have hskip : left.skipped.byteSize + right.skipped.byteSize ≤ input.byteSize := by omega
  have hroom : right.remaining.byteSize ≤
      input.byteSize - (left.skipped.byteSize + right.skipped.byteSize) := by omega
  have hmatched : input.byteSize - (left.skipped.byteSize + right.skipped.byteSize) -
      right.remaining.byteSize = (left.matched ++ right.matched).byteSize := by
    rw [Text.byteSize_append]
    omega
  simp only [join?, difference?_of_le hskip, difference?_of_le hroom, Option.bind_some, hmatched]
  rw [hl.join_eq hr, ← Text.byteSize_append]
  exact split?_eq hparts _

theorem AgreesWith.sequence [TreeLike α] (hp : first.Partitioning) (hq : second.Partitioning)
    (ha : AgreesWith first' first) (hb : AgreesWith second' second) :
    AgreesWith (sequence first' second') (.sequence first second) := by
  intro mode input
  have hl := hp mode input
  refine .bind (ha mode input) ?_
  cases (first mode input).result.value? with
  | none => exact .pure _
  | some a =>
    have hr := hq (Matcher.followMode mode input (first mode input).result.remaining)
      (first mode input).result.remaining
    refine .bind (hb _ _) ?_
    generalize (second _ _).result = right at hr ⊢
    cases right.value? with
    | none => exact .pure _
    | some b =>
      simp only [join?_eq hl hr]
      exact demand_some _

theorem AgreesWith.choice [TreeLike α] (ha : AgreesWith first' first)
    (hb : AgreesWith second' second) :
    AgreesWith (choice first' second') (.choice first second) := by
  intro mode input
  refine .bind (ha mode input) ?_
  split
  · exact .pure _
  · exact hb mode input

theorem AgreesWith.optional [TreeLike α] (h : AgreesWith body' body) :
    AgreesWith (optional body') (.optional body) := by
  intro mode input
  refine .bind (h mode input) ?_
  rw [split?_zero, split_zero]
  split <;> exact .pure _

/-- A body that consumes makes progress with every item. -/
theorem AgreesWith.chain [TreeLike α] (hp : body.Partitioning) (hc : body.Consuming)
    (h : AgreesWith body' body) (input : Text) :
    Agrees (chain body' input) (Matcher.chain body input) := by
  rw [CheckedMatcher.chain, Matcher.chain]
  refine .bind (h .strict input) ?_
  cases hv : (body .strict input).result.value? with
  | none => exact .pure _
  | some a =>
    have hs := isSuccess_of_value? hv
    simp only [hc.byteSize_remaining_lt hp hs, hc.length_remaining_lt hp hs, if_true]
    exact .map (chain hp hc h _) _
termination_by input.length
decreasing_by exact hc.length_remaining_lt hp hs

theorem split?_chain {input taken rest : Text} (h : taken ++ rest = input) (a : α) :
    ((difference? input.byteSize rest.byteSize).bind fun size => split? input 0 size a) =
      some (split input 0 (input.byteSize - rest.byteSize) a) := by
  have hsize : input.byteSize = taken.byteSize + rest.byteSize := by
    rw [← h, Text.byteSize_append]
  have hle : rest.byteSize ≤ input.byteSize := by omega
  have htook : input.byteSize - rest.byteSize = taken.byteSize := by omega
  rw [difference?_of_le hle, Option.bind_some, Matcher.split_chain h, htook]
  exact split?_eq (show ([] : Text) ++ (taken ++ rest) = input from h) a

theorem AgreesWith.repetition [TreeLike α] (hp : body.Partitioning) (hc : body.Consuming)
    (h : AgreesWith body' body) (min : Nat) :
    AgreesWith (repetition body' min) (.repetition body min) := by
  intro mode input
  obtain ⟨taken, htaken⟩ := hp.chain input
  refine .bind (h.chain hp hc input) ?_
  generalize (Matcher.chain body input).result = result at htaken ⊢
  obtain ⟨items, rest⟩ := result
  by_cases hlen : items.length < min
  · simp only [hlen, if_true]
    exact .pure _
  · simp only [hlen, if_false, split?_chain htaken]
    exact demand_some _

theorem AgreesWith.guarded [TreeLike α] (expected : Bool) (ha : AgreesWith current' current)
    (hb : AgreesWith forward' forward) :
    AgreesWith (guarded expected current' forward') (.guarded expected current forward) := by
  intro mode input
  refine .bind (ha mode input) ?_
  split
  · exact .bind (hb _ _) (.pure _)
  · exact .pure _

theorem AgreesWith.visit [TreeLike α] (node : Expr α) (h : AgreesWith body' body) :
    AgreesWith (visit node body') (.visit node body) :=
  fun mode input => .bind (h mode input) (.bind (.lift _) (.lift _))

end CheckedMatcher

/-! ### Grammars -/

namespace Expr

variable [TreeLike α]

theorem attemptChecked_agrees {e : Expr α} (h : e.WellFormed) :
    e.attemptChecked.AgreesWith e.attempt := by
  induction e with
  | terminal mark literal => exact CheckedMatcher.terminal_agrees literal
  | empty mark => exact CheckedMatcher.empty_agrees
  | sequence mark a b iha ihb =>
    exact .sequence a.run_partitioning b.run_partitioning ((iha h.2.1).visit a)
      ((ihb h.2.2).visit b)
  | choice mark a b iha ihb => exact ((iha h.2.1).visit a).choice ((ihb h.2.2).visit b)
  | optional mark body ih => exact ((ih h.2).visit body).optional
  | repetition mark body min ih =>
    obtain ⟨_, hbody, hwf⟩ := h
    exact ((ih hwf).visit body).repetition body.run_partitioning (run_consuming hwf hbody) min
  | ahead mark a b iha ihb => exact ((iha h.2.1).visit a).guarded true ((ihb h.2.2).visit b)
  | notAhead mark a b iha ihb => exact ((iha h.2.1).visit a).guarded false ((ihb h.2.2).visit b)
  | production mark body ih => exact ih h.2.2

theorem runChecked_agrees {e : Expr α} (h : e.WellFormed) : e.runChecked.AgreesWith e.run :=
  (attemptChecked_agrees h).visit e

end Expr

/-- **Matching never stops short.** On any text, every difference that a run takes exists, every
offset at which it cuts is a character boundary within its input, and the bytes on either side of
the cut are texts again. -/
theorem Grammar.runChecked_eq [TreeLike α] (g : Grammar α) (mode : Mode) (input : Text) :
    (g.expr.runChecked mode input).run = some <$> g.run mode input ∧
      (g.expr.attemptChecked mode input).run = some <$> g.attempt mode input :=
  ⟨Expr.runChecked_agrees g.wellFormed mode input,
    Expr.attemptChecked_agrees g.wellFormed mode input⟩

end Peg
