import Mathlib.Data.List.Basic
import Mathlib.Data.List.Forall2
import Peg.Proofs.Partition

/-! The visits of a run, and what they enter.

`Expr.visits` lists the runs of nodes that the run of an expression is made of, in the
order in which they end. It is told from outcomes alone: a sequence goes on behind a
success of its first part, a choice behind a failure of its first half, a repetition
from where each item left off. It says nothing of a journal. What becomes of a visit
does not matter to it, so the visits of an alternative that fails later, or of what is
only looked ahead at, are in the list like all others.

The journal of the run is this list with nothing added and nothing left out
(`journal_run`): each visit enters itself, and behind it the call of its listener, if
it has one and was successful. So the events of a run are its visits, and the calls are
the visits that a listener heard of, in the same order (`Grammar.run_mirrors_visits`). -/
namespace Peg

variable {α : Type}

/-- A run of a node, with the mode and the text that it was given. -/
structure Visit (α : Type) where
  node : Expr α
  mode : Mode
  input : Text

namespace Visit

variable [TreeLike α]

/-- What the node comes to, before its listener. -/
def outcome (v : Visit α) : Outcome α := (v.node.attempt v.mode v.input).result

def event (v : Visit α) : Event :=
  ⟨v.node.kind, v.input.byteSize, v.outcome.consumed, v.outcome.isSuccess⟩

/-- The listener of the node hears of a success. -/
def call? (v : Visit α) : Option (Listener α × Outcome α) :=
  if v.outcome.isSuccess then v.node.listener?.map fun listener => (listener, v.outcome) else none

/-- The visit and, behind it, the call of its listener. -/
def entries (v : Visit α) : List (Entry α) :=
  .visit v.node v.mode v.input v.outcome ::
    (v.call?.map fun called => .call called.1 called.2).toList

theorem events_entries (v : Visit α) : v.entries.filterMap Entry.event? = [v.event] := by
  unfold entries
  cases v.call? <;> rfl

theorem calls_entries (v : Visit α) : v.entries.filterMap Entry.call? = v.call?.toList := by
  unfold entries
  cases v.call? <;> rfl

theorem call?_eq_some {v : Visit α} {listener : Listener α} {outcome : Outcome α} :
    v.call? = some (listener, outcome) ↔
      v.node.listener? = some listener ∧ v.outcome = outcome ∧ v.outcome.isSuccess = true := by
  unfold call?
  cases v.node.listener? <;> split <;> simp_all

theorem outcome_partitions (v : Visit α) : Partitions v.mode v.input v.outcome :=
  v.node.attempt_partitioning v.mode v.input

theorem consumed_le (v : Visit α) : v.event.consumed ≤ v.event.inputSize := by
  have hsizes := v.outcome_partitions.sizes
  show v.outcome.skipped.byteSize + v.outcome.matched.byteSize ≤ v.input.byteSize
  omega

theorem consumed_eq_zero {v : Visit α} (h : v.event.success = false) : v.event.consumed = 0 := by
  show v.outcome.consumed = 0
  rw [v.outcome_partitions.eq_failure h]
  rfl

/-- The event shows a success, and the node has a listener. -/
def isHeard (v : Visit α) : Bool := v.event.success && v.node.listener?.isSome

/-- What the listener of the node is called with: an outcome that has a value and divides the text
that the node was given. -/
structure Heard (v : Visit α) (called : Listener α × Outcome α) : Prop where
  listener : v.node.listener? = some called.1
  outcome : called.2 = v.outcome
  value : called.2.value?.isSome = true
  partitions : Partitions v.mode v.input called.2

theorem isHeard_eq (v : Visit α) : v.isHeard = v.call?.isSome := by
  show (v.outcome.isSuccess && v.node.listener?.isSome) = v.call?.isSome
  unfold call?
  split <;> simp [*]

theorem heard_of_call? {v : Visit α} {called : Listener α × Outcome α}
    (h : v.call? = some called) : v.Heard called := by
  obtain ⟨hlistener, houtcome, hs⟩ := call?_eq_some.mp h
  refine ⟨hlistener, houtcome.symm, ?_, ?_⟩
  · rwa [← Outcome.isSuccess_eq, ← houtcome]
  · rw [← houtcome]
    exact v.outcome_partitions

/-- There is a call for each visit that is heard of, and none beside these. -/
theorem heard_filterMap (visits : List (Visit α)) :
    List.Forall₂ Heard (visits.filter isHeard) (visits.filterMap call?) := by
  induction visits with
  | nil => exact .nil
  | cons v more ih =>
    have hheard := v.isHeard_eq
    cases hcall : v.call? with
    | none =>
      rw [hcall] at hheard
      rw [List.filterMap_cons_none hcall, List.filter_cons_of_neg (Bool.not_eq_true _ ▸ hheard)]
      exact ih
    | some called =>
      rw [hcall] at hheard
      rw [List.filterMap_cons_some hcall, List.filter_cons_of_pos hheard]
      exact .cons (heard_of_call? hcall) ih

end Visit

/-! ### The journals of the combinators -/

namespace Matcher

variable {first second body current forward : Matcher α} {mode : Mode} {input : Text}

/-- The texts on which a chain runs its body: its input, and what each item left. -/
def starts (body : Matcher α) (input : Text) : List Text :=
  let item := (body .strict input).result
  input :: if item.isSuccess ∧ item.remaining.length < input.length
    then starts body item.remaining else []
termination_by input.length
decreasing_by exact And.right ‹_›

theorem Partitioning.suffix_of_mem_starts (hp : body.Partitioning) {input rest : Text}
    (h : rest ∈ starts body input) : rest <:+ input := by
  rw [starts] at h
  rcases List.mem_cons.mp h with rfl | h
  · exact List.suffix_refl rest
  · split at h
    next hstep => exact (hp.suffix_of_mem_starts h).trans (hp .strict input).remaining_suffix
    next => exact nomatch h
termination_by input.length
decreasing_by exact And.right ‹_›

theorem journal_sequence [TreeLike α] : (sequence first second mode input).journal =
    (first mode input).journal ++
      let left := (first mode input).result
      if left.isSuccess then
        (second (followMode mode input left.remaining) left.remaining).journal else [] := by
  simp only [sequence, Recorded.journal_bind, Outcome.isSuccess_eq]
  cases (first mode input).result.value? with
  | none => rfl
  | some a =>
    simp only [Recorded.journal_bind]
    split <;> simp

theorem journal_choice : (choice first second mode input).journal = (first mode input).journal ++
    if (first mode input).result.isSuccess then [] else (second mode input).journal := by
  simp only [choice, Recorded.journal_bind]
  split <;> rfl

theorem journal_optional [TreeLike α] :
    (optional body mode input).journal = (body mode input).journal :=
  List.append_nil _

theorem journal_chain (body : Matcher α) (input : Text) : (chain body input).journal =
    (starts body input).flatMap fun rest => (body .strict rest).journal := by
  rw [chain, starts]
  simp only [Recorded.journal_bind, List.flatMap_cons, Outcome.isSuccess_eq]
  cases (body .strict input).result.value? with
  | none => simp
  | some a =>
    by_cases hless : (body .strict input).result.remaining.length < input.length
    · simp [hless, journal_chain body (body .strict input).result.remaining]
    · simp [hless]
termination_by input.length

theorem journal_repetition [TreeLike α] (min : Nat) : (repetition body min mode input).journal =
    (starts body input).flatMap fun rest => (body .strict rest).journal := by
  rw [← journal_chain]
  exact List.append_nil _

theorem journal_guarded (expected : Bool) : (guarded expected current forward mode input).journal =
    (current mode input).journal ++
      let left := (current mode input).result
      if left.isSuccess then (forward .strict left.remaining).journal else [] := by
  simp only [guarded, Recorded.journal_bind]
  split <;> simp

/-- A visit enters itself behind all that it is made of, and then the call. -/
theorem journal_run [TreeLike α] (e : Expr α) : (e.run mode input).journal =
    (e.attempt mode input).journal ++ Visit.entries ⟨e, mode, input⟩ := by
  have hnotify : (notify e.listener? (e.attempt mode input).result).journal =
      ((Visit.call? ⟨e, mode, input⟩).map fun called => .call called.1 called.2).toList := by
    unfold notify Visit.call?
    cases e.listener? with
    | none => simp
    | some listener =>
      by_cases hs : (e.attempt mode input).result.isSuccess = true
      · simp [hs, Visit.outcome]
      · simp [hs, Visit.outcome]
  simp only [Expr.run, visit, Recorded.journal_bind, Recorded.journal_record, hnotify]
  rfl

end Matcher

/-! ### The visits of an expression -/

namespace Expr

variable [TreeLike α]

/-- The visits that an attempt makes, and behind them the one that they belong to. -/
def closed (e : Expr α) (inner : Mode → Text → List (Visit α)) (mode : Mode) (input : Text) :
    List (Visit α) :=
  inner mode input ++ [⟨e, mode, input⟩]

/-- The visits that an attempt at the expression makes, in the order in which they end. -/
def inner : Expr α → Mode → Text → List (Visit α)
  | .terminal .. => fun _ _ => []
  | .empty _ => fun _ _ => []
  | .sequence _ a b => fun mode input =>
    let left := (a.run mode input).result
    closed a a.inner mode input ++ if left.isSuccess then
      closed b b.inner (Matcher.followMode mode input left.remaining) left.remaining else []
  | .choice _ a b => fun mode input =>
    closed a a.inner mode input ++
      if (a.run mode input).result.isSuccess then [] else closed b b.inner mode input
  | .optional _ body => closed body body.inner
  | .repetition _ body _ => fun _ input =>
    (Matcher.starts body.run input).flatMap (closed body body.inner .strict)
  | .ahead _ current forward | .notAhead _ current forward => fun mode input =>
    let left := (current.run mode input).result
    closed current current.inner mode input ++
      if left.isSuccess then closed forward forward.inner .strict left.remaining else []
  | .production _ body => body.inner

/-- The visits that a run of the expression makes; the last one is its own. -/
def visits (e : Expr α) : Mode → Text → List (Visit α) := closed e e.inner

/-- **The journal of an attempt is its visits**, each with the call behind it. -/
theorem journal_attempt (e : Expr α) (mode : Mode) (input : Text) :
    (e.attempt mode input).journal = (e.inner mode input).flatMap Visit.entries := by
  have hclosed {part : Expr α} (ih : ∀ mode input,
      (part.attempt mode input).journal = (part.inner mode input).flatMap Visit.entries)
      (mode : Mode) (input : Text) : (part.run mode input).journal =
        (closed part part.inner mode input).flatMap Visit.entries := by
    rw [Matcher.journal_run, ih, closed, List.flatMap_append, List.flatMap_singleton]
  induction e generalizing mode input with
  | terminal mark literal | empty mark => rfl
  | sequence mark a b iha ihb =>
    rw [attempt_sequence, Matcher.journal_sequence, hclosed iha, inner, List.flatMap_append]
    simp only [hclosed ihb]
    split <;> rfl
  | choice mark a b iha ihb =>
    rw [attempt_choice, Matcher.journal_choice, hclosed iha, hclosed ihb, inner,
      List.flatMap_append]
    split <;> rfl
  | optional mark body ih => rw [attempt_optional, Matcher.journal_optional, hclosed ih, inner]
  | repetition mark body min ih =>
    rw [attempt_repetition, Matcher.journal_repetition, inner, List.flatMap_assoc]
    simp only [hclosed ih]
  | ahead mark a b iha ihb =>
    rw [attempt_ahead, Matcher.journal_guarded, hclosed iha, inner, List.flatMap_append]
    simp only [hclosed ihb]
    split <;> rfl
  | notAhead mark a b iha ihb =>
    rw [attempt_notAhead, Matcher.journal_guarded, hclosed iha, inner, List.flatMap_append]
    simp only [hclosed ihb]
    split <;> rfl
  | production mark body ih => exact ih mode input

theorem journal_run (e : Expr α) (mode : Mode) (input : Text) :
    (e.run mode input).journal = (e.visits mode input).flatMap Visit.entries := by
  rw [Matcher.journal_run, journal_attempt, visits, closed, List.flatMap_append,
    List.flatMap_singleton]

theorem events_run (e : Expr α) (mode : Mode) (input : Text) :
    (e.run mode input).events = (e.visits mode input).map Visit.event := by
  rw [Recorded.events, journal_run, List.filterMap_flatMap, List.map_eq_flatMap]
  simp only [Visit.events_entries]

theorem calls_run (e : Expr α) (mode : Mode) (input : Text) :
    (e.run mode input).calls = (e.visits mode input).filterMap Visit.call? := by
  rw [Recorded.calls, journal_run, List.filterMap_flatMap, List.filterMap_eq_flatMap_toList]
  simp only [Visit.calls_entries]

/-- Every visit is of a node of the expression. -/
theorem mem_nodes_of_mem_visits {e : Expr α} {mode : Mode} {input : Text} {v : Visit α}
    (h : v ∈ e.visits mode input) : v.node ∈ e.nodes := by
  have hentry : .visit v.node v.mode v.input v.outcome ∈ (e.run mode input).journal := by
    rw [journal_run]
    exact List.mem_flatMap.mpr ⟨v, h, List.mem_cons_self ..⟩
  exact (visit_mem_journal hentry).1

/-- A visit is handed what the visits before it left of the input. -/
theorem suffix_of_mem_inner {e : Expr α} {mode : Mode} {input : Text} {v : Visit α}
    (h : v ∈ e.inner mode input) : v.input <:+ input := by
  have hclosed {part : Expr α} {mode : Mode} {rest input : Text}
      (ih : ∀ {mode input}, v ∈ part.inner mode input → v.input <:+ input)
      (hrest : rest <:+ input) (h : v ∈ closed part part.inner mode rest) : v.input <:+ input := by
    rcases List.mem_append.mp h with h | h
    · exact (ih h).trans hrest
    · rwa [List.mem_singleton.mp h]
  induction e generalizing mode input with
  | terminal mark literal | empty mark => exact nomatch h
  | sequence mark a b iha ihb =>
    rcases List.mem_append.mp h with h | h
    · exact hclosed iha (List.suffix_refl input) h
    · split at h
      · exact hclosed ihb (a.run_partitioning mode input).remaining_suffix h
      · exact nomatch h
  | choice mark a b iha ihb =>
    rcases List.mem_append.mp h with h | h
    · exact hclosed iha (List.suffix_refl input) h
    · split at h
      · exact nomatch h
      · exact hclosed ihb (List.suffix_refl input) h
  | optional mark body ih => exact hclosed ih (List.suffix_refl input) h
  | repetition mark body min ih =>
    obtain ⟨rest, hrest, h⟩ := List.mem_flatMap.mp h
    exact hclosed ih (body.run_partitioning.suffix_of_mem_starts hrest) h
  | ahead mark a b iha ihb | notAhead mark a b iha ihb =>
    rcases List.mem_append.mp h with h | h
    · exact hclosed iha (List.suffix_refl input) h
    · split at h
      · exact hclosed ihb (a.run_partitioning mode input).remaining_suffix h
      · exact nomatch h
  | production mark body ih => exact ih h

theorem suffix_of_mem_visits {e : Expr α} {mode : Mode} {input : Text} {v : Visit α}
    (h : v ∈ e.visits mode input) : v.input <:+ input := by
  rcases List.mem_append.mp h with h | h
  · exact suffix_of_mem_inner h
  · obtain rfl := List.mem_singleton.mp h
    exact List.suffix_refl input

end Expr

/-! ### Grammars -/

/-- **Events and calls mirror the run.** Each visit of the run enters itself and then the call of
its listener, and there is nothing else in the journal. So the events are the visits, in the order
in which they end; the last one is the grammar's own, and none of them claims more than it was
given, or anything where it failed. And the calls are those of the visits that were successful and
had a listener, in the same order, whatever became of these visits; each of them is on an outcome
that has a value and divides what the node was given. -/
theorem Grammar.run_mirrors_visits [TreeLike α] (g : Grammar α) (mode : Mode) (input : Text) :
    let run := g.run mode input
    let visits := g.expr.visits mode input
    run.journal = visits.flatMap Visit.entries ∧
    run.events = visits.map Visit.event ∧
    (∃ earlier, run.events = earlier ++
      [⟨g.kind, input.byteSize, run.result.consumed, run.result.isSuccess⟩]) ∧
    (∀ event ∈ run.events, event.consumed ≤ event.inputSize ∧ event.inputSize ≤ input.byteSize ∧
      (event.success = false → event.consumed = 0)) ∧
    (∀ visit ∈ visits, visit.node ∈ g.expr.nodes) ∧
    List.Forall₂ Visit.Heard (visits.filter Visit.isHeard) run.calls := by
  intro run visits
  have hevents : run.events = visits.map Visit.event := g.expr.events_run mode input
  refine ⟨g.expr.journal_run mode input, hevents, ?_, fun event hevent => ?_,
    fun visit => Expr.mem_nodes_of_mem_visits, ?_⟩
  · refine ⟨(g.expr.inner mode input).map Visit.event, ?_⟩
    have hconsumed : run.result.consumed = (g.expr.attempt mode input).result.consumed :=
      Matcher.consumed_visit g.expr
    have hsuccess : run.result.isSuccess = (g.expr.attempt mode input).result.isSuccess :=
      Matcher.isSuccess_visit g.expr
    rw [hevents, hconsumed, hsuccess]
    exact List.map_append
  · rw [hevents] at hevent
    obtain ⟨visit, hvisit, rfl⟩ := List.mem_map.mp hevent
    refine ⟨visit.consumed_le, ?_, Visit.consumed_eq_zero⟩
    exact Text.byteSize_le_of_suffix (Expr.suffix_of_mem_visits hvisit)
  · have hcalls : run.calls = visits.filterMap Visit.call? := g.expr.calls_run mode input
    rw [hcalls]
    exact Visit.heard_filterMap visits

/-- The first alternative is given up for what comes behind the letter, which its listener has heard
of nevertheless. -/
example :
    let a : Grammar Tree := .terminal ['a']
    let heard : Grammar Tree := a.withListener { action := fun _ => .nothing }
    let run := ((heard.andThen (.terminal ['b'])).orElse a).run .strict "ac".toList
    run.events.map (fun event => (event.kind, event.success)) =
      [(.terminal, true), (.terminal, false), (.sequence, false), (.terminal, true),
        (.choice, true)] ∧ run.calls.length = 1 := by
  decide +kernel

end Peg
