import Peg.Journal
import Peg.Text.Search
import Peg.Tree

/-! Matchers and how they are combined.

A matcher takes a mode and an input to an outcome, recording what it did. Each
combinator either succeeds with an outcome over its own input or fails with that
input untouched.

Only the leading edge of a match may skip: once something has been consumed, what
follows has to start where it stopped, and the items of a repetition and whatever
is looked ahead at are always strict. -/
namespace Peg

abbrev Matcher (α : Type) := Mode → Text → Recorded (Entry α) (Outcome α)

namespace Matcher

variable {α : Type}

/-! ### Leaves -/

/-- The offset at which a literal is taken, in bytes. -/
def offset? (literal : Text) : Mode → Text → Option Nat
  | .strict, input => if literal.isPrefixOf input then some 0 else none
  | .lenient, input => Text.find? literal input

def terminal [TreeLike α] (literal : Text) : Matcher α := fun mode input =>
  pure <| match offset? literal mode input with
    | some skip => .split input skip literal.byteSize (TreeLike.text literal)
    | none => .failure input

def empty [TreeLike α] : Matcher α := fun _ input => pure (.split input 0 0 (TreeLike.text []))

/-! ### Sequence, choice, option -/

/-- The mode for what follows a first part that left `rest` of `input`. -/
def followMode (mode : Mode) (input rest : Text) : Mode :=
  if rest.byteSize = input.byteSize then mode else .strict

/-- What both parts skip is skipped; what lies between that and the rest is matched. -/
def join [TreeLike α] (input : Text) (left right : Outcome α) (a b : α) : Outcome α :=
  let skip := left.skipped.byteSize + right.skipped.byteSize
  .split input skip (input.byteSize - skip - right.remaining.byteSize) (TreeLike.pair a b)

def sequence [TreeLike α] (first second : Matcher α) : Matcher α := fun mode input => do
  let left ← first mode input
  match left.value? with
  | none => pure (.failure input)
  | some a =>
    let right ← second (followMode mode input left.remaining) left.remaining
    match right.value? with
    | none => pure (.failure input)
    | some b => pure (join input left right a b)

def choice (first second : Matcher α) : Matcher α := fun mode input => do
  let left ← first mode input
  if left.isSuccess then pure left else second mode input

def optional [TreeLike α] (body : Matcher α) : Matcher α := fun mode input => do
  let taken ← body mode input
  pure (if taken.isSuccess then taken else .split input 0 0 TreeLike.nothing)

/-! ### Repetition -/

/-- The values of as many strict matches of `body` in a row as there are, and what they leave. A
match that leaves as much as it was given is the last. -/
def chain (body : Matcher α) (input : Text) : Recorded (Entry α) (List α × Text) := do
  let item ← body .strict input
  match item.value? with
  | none => pure ([], input)
  | some a =>
    if item.remaining.length < input.length then
      (fun (items, rest) => (a :: items, rest)) <$> chain body item.remaining
    else pure ([a], item.remaining)
termination_by input.length

def repetition [TreeLike α] (body : Matcher α) (min : Nat) : Matcher α := fun _ input => do
  let (items, rest) ← chain body input
  pure <| if items.length < min then .failure input
    else .split input 0 (input.byteSize - rest.byteSize) (TreeLike.list items)

/-! ### Looking ahead -/

/-- `current`, provided that success of `forward` on what follows is as `expected`. -/
def guarded (expected : Bool) (current forward : Matcher α) : Matcher α := fun mode input => do
  let outcome ← current mode input
  if outcome.isSuccess then
    let next ← forward .strict outcome.remaining
    pure (if next.isSuccess = expected then outcome else .failure input)
  else pure (.failure input)

/-! ### Visits -/

/-- Calls the listener, if there is one and the match was successful. -/
def notify (listener? : Option (Listener α)) (outcome : Outcome α) :
    Recorded (Entry α) (Outcome α) :=
  match listener? with
  | none => pure outcome
  | some listener =>
    if outcome.isSuccess then do
      Recorded.record (.call listener outcome)
      pure (outcome.withValue (listener.action outcome))
    else pure outcome

/-- Runs a matcher as the given node: the visit is recorded, and its listener called. -/
def visit (node : Expr α) (body : Matcher α) : Matcher α := fun mode input => do
  let outcome ← body mode input
  Recorded.record (.visit node mode input outcome)
  notify node.listener? outcome

end Matcher

end Peg
