import Peg.Text.Basic

/-! What a match attempt comes to.

A successful outcome divides the input of the attempt into what was skipped, what
was matched and what remains, and carries a value; a failure gives the input back.

`split` builds the outcome from two offsets in bytes. `split_byteSize`: offsets
that are the sizes of the first two of three parts select those parts. -/
namespace Peg

/-- Where a literal may stand: `lenient` lets it be found after leading input, which is then
skipped; `strict` wants it at the front. -/
inductive Mode where
  | lenient
  | strict
deriving DecidableEq, Repr

inductive Outcome (α : Type) where
  | success (matched remaining : Text) (value : α)
  | partialSuccess (skipped matched remaining : Text) (value : α)
  | failure (remaining : Text)
deriving DecidableEq

namespace Outcome

variable {α : Type}

/-! ### Building -/

/-- The successful outcome with the given parts: partial exactly when something was skipped. -/
def ofParts (skipped matched remaining : Text) (value : α) : Outcome α :=
  if skipped.isEmpty then .success matched remaining value
  else .partialSuccess skipped matched remaining value

/-- The outcome over `input` that skips `skip` bytes and matches the `size` bytes after them. -/
def split (input : Text) (skip size : Nat) (value : α) : Outcome α :=
  let (skipped, rest) := input.cut skip
  let (matched, remaining) := Text.cut size rest
  ofParts skipped matched remaining value

theorem split_byteSize (skipped matched remaining : Text) (value : α) :
    split (skipped ++ (matched ++ remaining)) skipped.byteSize matched.byteSize value =
      ofParts skipped matched remaining value := by
  simp [split]

@[simp] theorem split_zero (input : Text) (a : α) : split input 0 0 a = .success [] input a := by
  simp [split, ofParts]

/-! ### Parts -/

def skipped : Outcome α → Text
  | .partialSuccess skipped _ _ _ => skipped
  | _ => []

def matched : Outcome α → Text
  | .success matched _ _ => matched
  | .partialSuccess _ matched _ _ => matched
  | .failure _ => []

def remaining : Outcome α → Text
  | .success _ remaining _ => remaining
  | .partialSuccess _ _ remaining _ => remaining
  | .failure remaining => remaining

def value? : Outcome α → Option α
  | .success _ _ value => some value
  | .partialSuccess _ _ _ value => some value
  | .failure _ => none

/-- The bytes used up: skipped and matched. -/
def consumed (o : Outcome α) : Nat := o.skipped.byteSize + o.matched.byteSize

/-- Partial or not. -/
def isSuccess : Outcome α → Bool
  | .failure _ => false
  | _ => true

def isPartial : Outcome α → Bool
  | .partialSuccess .. => true
  | _ => false

/-- Replaces the value; a failure has none and stays. -/
def withValue (o : Outcome α) (value : α) : Outcome α :=
  match o with
  | .success matched remaining _ => .success matched remaining value
  | .partialSuccess skipped matched remaining _ => .partialSuccess skipped matched remaining value
  | .failure remaining => .failure remaining

@[simp] theorem skipped_ofParts (p m r : Text) (a : α) : (ofParts p m r a).skipped = p := by
  cases p <;> rfl

@[simp] theorem matched_ofParts (p m r : Text) (a : α) : (ofParts p m r a).matched = m := by
  cases p <;> rfl

@[simp] theorem remaining_ofParts (p m r : Text) (a : α) : (ofParts p m r a).remaining = r := by
  cases p <;> rfl

@[simp] theorem value?_ofParts (p m r : Text) (a : α) : (ofParts p m r a).value? = some a := by
  cases p <;> rfl

theorem isSuccess_eq (o : Outcome α) : o.isSuccess = o.value?.isSome := by
  cases o <;> rfl

theorem value?_eq_none {o : Outcome α} : o.value? = none ↔ o.isSuccess = false := by
  rw [isSuccess_eq, Option.isSome_eq_false_iff, Option.isNone_iff_eq_none]

theorem exists_value? {o : Outcome α} (h : o.isSuccess = true) : ∃ a, o.value? = some a :=
  Option.isSome_iff_exists.mp ((isSuccess_eq o).symm.trans h)

theorem isSuccess_of_value? {o : Outcome α} {a : α} (h : o.value? = some a) :
    o.isSuccess = true := by
  rw [isSuccess_eq, h]
  rfl

@[simp] theorem skipped_withValue (o : Outcome α) (a : α) :
    (o.withValue a).skipped = o.skipped := by
  cases o <;> rfl

@[simp] theorem matched_withValue (o : Outcome α) (a : α) :
    (o.withValue a).matched = o.matched := by
  cases o <;> rfl

@[simp] theorem remaining_withValue (o : Outcome α) (a : α) :
    (o.withValue a).remaining = o.remaining := by
  cases o <;> rfl

@[simp] theorem value?_withValue (o : Outcome α) (a : α) :
    (o.withValue a).value? = o.value?.map fun _ => a := by
  cases o <;> rfl

@[simp] theorem isSuccess_withValue (o : Outcome α) (a : α) :
    (o.withValue a).isSuccess = o.isSuccess := by
  cases o <;> rfl

@[simp] theorem isPartial_withValue (o : Outcome α) (a : α) :
    (o.withValue a).isPartial = o.isPartial := by
  cases o <;> rfl

theorem isPartial_ofParts {p : Text} (h : p ≠ []) (m r : Text) (a : α) :
    (ofParts p m r a).isPartial = true := by
  cases p with
  | nil => exact absurd rfl h
  | cons => rfl

theorem isSuccess_of_isPartial {o : Outcome α} (h : o.isPartial = true) : o.isSuccess = true := by
  cases o with
  | success | failure => exact nomatch h
  | partialSuccess => rfl

end Outcome

end Peg
