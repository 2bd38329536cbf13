import Peg.Expr.Basic

/-! The record of a run.

A run keeps a journal beside its result: every node that was visited with the
outcome it came to, and every call of a listener, in the order in which they
happened. An `Event` is what a visit shows to the outside. -/
namespace Peg

/-! ### Results with a journal -/

/-- A result and the entries made while it was computed. -/
structure Recorded (ε β : Type) where
  result : β
  journal : List ε

namespace Recorded

variable {ε β γ : Type}

instance : Monad (Recorded ε) where
  pure b := ⟨b, []⟩
  map f r := ⟨f r.result, r.journal⟩
  bind r f :=
    let s := f r.result
    ⟨s.result, r.journal ++ s.journal⟩

/-- Makes one entry. -/
def record (entry : ε) : Recorded ε Unit := ⟨(), [entry]⟩

@[ext] theorem ext {r s : Recorded ε β} (hr : r.result = s.result) (hj : r.journal = s.journal) :
    r = s := by
  cases r
  cases s
  simp_all

@[simp] theorem result_pure (b : β) : (pure b : Recorded ε β).result = b := rfl

@[simp] theorem journal_pure (b : β) : (pure b : Recorded ε β).journal = [] := rfl

@[simp] theorem result_bind (r : Recorded ε β) (f : β → Recorded ε γ) :
    (r >>= f).result = (f r.result).result := rfl

@[simp] theorem journal_bind (r : Recorded ε β) (f : β → Recorded ε γ) :
    (r >>= f).journal = r.journal ++ (f r.result).journal := rfl

@[simp] theorem result_map (f : β → γ) (r : Recorded ε β) :
    (f <$> r).result = f r.result := rfl

@[simp] theorem journal_map (f : β → γ) (r : Recorded ε β) :
    (f <$> r).journal = r.journal := rfl

@[simp] theorem journal_record (entry : ε) : (record entry).journal = [entry] := rfl

instance : LawfulMonad (Recorded ε) :=
  .mk' _ (fun _ => by ext <;> simp) (fun _ _ => by ext <;> simp)
    (fun _ _ _ => by ext <;> simp) (fun _ _ => rfl) (fun _ _ => rfl) (fun _ _ => rfl)
    (fun _ _ => by ext <;> simp)

end Recorded

/-! ### Entries -/

inductive Entry (α : Type) where
  /-- A node was run on an input and came to an outcome, before its listener. -/
  | visit (node : Expr α) (mode : Mode) (input : Text) (outcome : Outcome α)
  /-- A listener was called on an outcome. -/
  | call (listener : Listener α) (outcome : Outcome α)

/-- What a visit shows: the kind of the node, the size of its input, and how it ended. -/
structure Event where
  kind : Kind
  inputSize : Nat
  consumed : Nat
  success : Bool
deriving DecidableEq, Repr

namespace Entry

variable {α : Type}

def event? : Entry α → Option Event
  | .visit node _ input outcome =>
    some ⟨node.kind, input.byteSize, outcome.consumed, outcome.isSuccess⟩
  | .call .. => none

def call? : Entry α → Option (Listener α × Outcome α)
  | .visit .. => none
  | .call listener outcome => some (listener, outcome)

end Entry

namespace Recorded

variable {α β : Type}

/-- The visits of a run, in order. -/
def events (r : Recorded (Entry α) β) : List Event := r.journal.filterMap Entry.event?

/-- The calls of listeners of a run, in order. -/
def calls (r : Recorded (Entry α) β) : List (Listener α × Outcome α) :=
  r.journal.filterMap Entry.call?

end Recorded

end Peg
