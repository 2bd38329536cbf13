import Peg.Expr.First
import Peg.Expr.Printer
import Peg.Expr.Run

/-! Grammars and how they are built.

A grammar is a well-formed parsing expression. Every operation keeps it so; the one
that could not, repetition, either takes the proof that its body is not nullable
(`atLeast`) or checks and may refuse (`times`). -/
namespace Peg

structure Grammar (α : Type) where
  expr : Expr α
  wellFormed : expr.WellFormed

/-- Why a grammar cannot be built. -/
inductive BuildError (α : Type) where
  /-- The repetition, `min` times at least, of a body that may match nothing would not end. -/
  | nullableRepetition (min : Nat) (body : Grammar α)

def BuildError.message {α : Type} : BuildError α → Text
  | .nullableRepetition min _ =>
    "invalid grammar: repetition (at least ".toList ++ Nat.toDigits 10 min ++
      ") over a nullable expression".toList

namespace Grammar

variable {α : Type}

/-! ### Construction -/

def nullable (g : Grammar α) : Bool := g.expr.nullable

def terminal (literal : Text) : Grammar α :=
  ⟨.terminal { nullable := literal.isEmpty } literal, rfl, trivial⟩

def empty : Grammar α := ⟨.empty { nullable := true }, rfl, trivial⟩

/-- A string stands for the terminal that it spells. -/
instance : Coe String (Grammar α) := ⟨fun s => terminal s.toList⟩

instance : Coe Char (Grammar α) := ⟨fun c => terminal [c]⟩

/-- This grammar, and `next` on what it leaves. -/
def andThen (g next : Grammar α) : Grammar α :=
  ⟨.sequence { nullable := g.nullable && next.nullable } g.expr next.expr,
    rfl, g.wellFormed, next.wellFormed⟩

/-- This grammar, or `alternative` on the same input when it fails. -/
def orElse (g alternative : Grammar α) : Grammar α :=
  ⟨.choice { nullable := g.nullable || alternative.nullable } g.expr alternative.expr,
    rfl, g.wellFormed, alternative.wellFormed⟩

/-- This grammar, or nothing. -/
def optionally (g : Grammar α) : Grammar α :=
  ⟨.optional { nullable := true } g.expr, rfl, g.wellFormed⟩

/-- This grammar where `next` matches right after it. -/
def before (g next : Grammar α) : Grammar α :=
  ⟨.ahead { nullable := g.nullable } g.expr next.expr, rfl, g.wellFormed, next.wellFormed⟩

/-- This grammar where `next` does not match right after it. -/
def notBefore (g next : Grammar α) : Grammar α :=
  ⟨.notAhead { nullable := g.nullable } g.expr next.expr, rfl, g.wellFormed, next.wellFormed⟩

/-- This grammar as often as it matches, `min` times at least. -/
def atLeast (g : Grammar α) (min : Nat) (h : g.nullable = false) : Grammar α :=
  ⟨.repetition { nullable := min == 0 } g.expr min, rfl, h, g.wellFormed⟩

/-- `atLeast` for a grammar of which it is not known whether it is nullable. -/
def times (g : Grammar α) (min : Nat) : Except (BuildError α) (Grammar α) :=
  if h : g.nullable = false then .ok (g.atLeast min h) else .error (.nullableRepetition min g)

/-- This grammar with the given listener in place of any that it had. -/
def withListener (g : Grammar α) (listener : Listener α) : Grammar α :=
  ⟨g.expr.withListener listener, g.wellFormed.withListener listener⟩

/-- A production of its own over this grammar, with the given listener; the listener that this
grammar had is passed over. -/
def listen (g : Grammar α) (listener : Listener α) : Grammar α :=
  ⟨.production { nullable := g.nullable, listener? := some listener } g.expr,
    rfl, rfl, g.wellFormed⟩

/-! ### Questions -/

def kind (g : Grammar α) : Kind := g.expr.kind

def literal? (g : Grammar α) : Option Text := g.expr.literal?

def hasListener (g : Grammar α) : Bool := g.expr.listener?.isSome

def render (g : Grammar α) : Text := g.expr.render

/-- The literals that a successful match may begin with. -/
def first (g : Grammar α) : LiteralSet := g.expr.first

/-! ### Matching -/

section Matching

variable [TreeLike α]

/-- Matches with a record of the run. -/
def run (g : Grammar α) : Matcher α := g.expr.run

/-- `run` without the visit and the listener of the root. -/
def attempt (g : Grammar α) : Matcher α := g.expr.attempt

def parseIn (g : Grammar α) (mode : Mode) (input : Text) : Outcome α := (g.run mode input).result

/-- Matches, and may skip leading input to do so. -/
def parse (g : Grammar α) (input : Text) : Outcome α := g.parseIn .lenient input

end Matching

end Grammar

end Peg
