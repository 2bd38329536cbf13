import Peg.Outcome

/-! Parsing expressions.

An expression is a tree of nine kinds of node. A node carries a mark: a flag that
says whether it is *nullable*, that is whether it may succeed without consuming
anything, and possibly a listener, an action that turns the successful outcome of
the node into its value. The flag is set once, from the flags of the parts, when
the node is built; afterwards it is only read.

A repetition whose body could succeed on nothing would not end. `WellFormed` says
of a whole tree that every flag follows its rule, that no body of a repetition is
flagged, and that a production has a listener. -/
namespace Peg

/-- An action on the successful outcomes of a node. The label is a name under which its calls can
be found again in the record of a run. -/
structure Listener (α : Type) where
  action : Outcome α → α
  label : Option String := none

/-- What a node carries beside its kind and its parts. -/
structure Mark (α : Type) where
  nullable : Bool
  listener? : Option (Listener α) := none

inductive Expr (α : Type) where
  /-- The literal itself. -/
  | terminal (mark : Mark α) (literal : Text)
  /-- Nothing, always. -/
  | empty (mark : Mark α)
  /-- `first`, and `second` on what it leaves. -/
  | sequence (mark : Mark α) (first second : Expr α)
  /-- `first`, or `second` on the same input when `first` fails. -/
  | choice (mark : Mark α) (first second : Expr α)
  /-- `body`, or nothing. -/
  | optional (mark : Mark α) (body : Expr α)
  /-- `body` as often as it matches, which has to be `min` times at least. -/
  | repetition (mark : Mark α) (body : Expr α) (min : Nat)
  /-- `current` where `forward` matches what follows. -/
  | ahead (mark : Mark α) (current forward : Expr α)
  /-- `current` where `forward` does not match what follows. -/
  | notAhead (mark : Mark α) (current forward : Expr α)
  /-- `body` as a unit of its own: the listener of `body` is passed over. -/
  | production (mark : Mark α) (body : Expr α)

/-- The nine kinds of node. -/
inductive Kind where
  | terminal | empty | sequence | choice | optional | repetition | ahead | notAhead | production
deriving DecidableEq, Repr

def Kind.name : Kind → String
  | .terminal => "terminal"
  | .empty => "empty"
  | .sequence => "sequence"
  | .choice => "choice"
  | .optional => "optional"
  | .repetition => "repetition"
  | .ahead => "lookahead"
  | .notAhead => "not"
  | .production => "non-terminal"

namespace Expr

variable {α : Type}

/-! ### The node at the root -/

def kind : Expr α → Kind
  | .terminal .. => .terminal
  | .empty _ => .empty
  | .sequence .. => .sequence
  | .choice .. => .choice
  | .optional .. => .optional
  | .repetition .. => .repetition
  | .ahead .. => .ahead
  | .notAhead .. => .notAhead
  | .production .. => .production

def mark : Expr α → Mark α
  | .terminal mark _ => mark
  | .empty mark => mark
  | .sequence mark .. => mark
  | .choice mark .. => mark
  | .optional mark _ => mark
  | .repetition mark .. => mark
  | .ahead mark .. => mark
  | .notAhead mark .. => mark
  | .production mark _ => mark

/-- The flag of the node. -/
def nullable (e : Expr α) : Bool := e.mark.nullable

def listener? (e : Expr α) : Option (Listener α) := e.mark.listener?

/-- The literal of a terminal, and no characters for the empty expression. -/
def literal? : Expr α → Option Text
  | .terminal _ literal => some literal
  | .empty _ => some []
  | _ => none

/-- The node with another mark. -/
def remark (mark : Mark α) : Expr α → Expr α
  | .terminal _ literal => .terminal mark literal
  | .empty _ => .empty mark
  | .sequence _ first second => .sequence mark first second
  | .choice _ first second => .choice mark first second
  | .optional _ body => .optional mark body
  | .repetition _ body min => .repetition mark body min
  | .ahead _ current forward => .ahead mark current forward
  | .notAhead _ current forward => .notAhead mark current forward
  | .production _ body => .production mark body

/-- The node with the given listener in place of any that it had. -/
def withListener (e : Expr α) (listener : Listener α) : Expr α :=
  e.remark { e.mark with listener? := some listener }

@[simp] theorem mark_remark (mark : Mark α) (e : Expr α) : (e.remark mark).mark = mark := by
  cases e <;> rfl

@[simp] theorem remark_mark (e : Expr α) : e.remark e.mark = e := by
  cases e <;> rfl

@[simp] theorem nullable_withListener (e : Expr α) (listener : Listener α) :
    (e.withListener listener).nullable = e.nullable := by
  simp [withListener, nullable]

@[simp] theorem listener?_withListener (e : Expr α) (listener : Listener α) :
    (e.withListener listener).listener? = some listener := by
  simp [withListener, listener?]

@[simp] theorem kind_withListener (e : Expr α) (listener : Listener α) :
    (e.withListener listener).kind = e.kind := by
  cases e <;> rfl

/-! ### Well-formed trees -/

/-- The flag that a node ought to have, by the flags of its parts. -/
def rule : Expr α → Bool
  | .terminal _ literal => literal.isEmpty
  | .empty _ => true
  | .sequence _ first second => first.nullable && second.nullable
  | .choice _ first second => first.nullable || second.nullable
  | .optional .. => true
  | .repetition _ _ min => min == 0
  | .ahead _ current _ => current.nullable
  | .notAhead _ current _ => current.nullable
  | .production _ body => body.nullable

/-- Every flag is set by the rule, no body of a repetition is nullable, and every production has a
listener. -/
def WellFormed (e : Expr α) : Prop :=
  e.nullable = e.rule ∧ match e with
  | .terminal .. => True
  | .empty _ => True
  | .sequence _ first second => first.WellFormed ∧ second.WellFormed
  | .choice _ first second => first.WellFormed ∧ second.WellFormed
  | .optional _ body => body.WellFormed
  | .repetition _ body _ => body.nullable = false ∧ body.WellFormed
  | .ahead _ current forward => current.WellFormed ∧ forward.WellFormed
  | .notAhead _ current forward => current.WellFormed ∧ forward.WellFormed
  | .production mark body => mark.listener?.isSome ∧ body.WellFormed

theorem WellFormed.nullable_eq {e : Expr α} (h : e.WellFormed) : e.nullable = e.rule := by
  cases e <;> exact h.1

theorem WellFormed.withListener {e : Expr α} (h : e.WellFormed) (listener : Listener α) :
    (e.withListener listener).WellFormed := by
  cases e with
  | production mark body => exact ⟨h.1, rfl, h.2.2⟩
  | _ => exact h

end Expr

end Peg
