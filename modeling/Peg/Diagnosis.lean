import Peg.Grammar.Basic

/-! What was expected where a parse fails.

A failed parse carries no reason. What can be told is the first set of the grammar:
the literals that it was prepared to begin with. -/
namespace Peg

/-- The literals, quoted, with commas between them. -/
def LiteralSet.enumerate (s : LiteralSet) : Text :=
  ", ".toList.intercalate (s.toList.map Text.quote)

/-- One sentence for the reader. -/
def LiteralSet.expectation (s : LiteralSet) : Text :=
  match s.size with
  | 0 => "expected nothing".toList
  | 1 => "expected ".toList ++ s.enumerate
  | _ => "expected one of ".toList ++ s.enumerate

/-- Parses leniently and, only if that fails, gives the literals that were expected. -/
def Grammar.examine {α : Type} [TreeLike α] (g : Grammar α) (input : Text) :
    Recorded (Entry α) (Option LiteralSet) := do
  let outcome ← g.run .lenient input
  pure (if outcome.isSuccess then none else some g.first)

/-- `examine` without the record of the run. -/
def Grammar.diagnose {α : Type} [TreeLike α] (g : Grammar α) (input : Text) : Option LiteralSet :=
  (g.examine input).result

theorem Grammar.diagnose_eq {α : Type} [TreeLike α] (g : Grammar α) (input : Text) :
    g.diagnose input = if (g.parse input).isSuccess then none else some g.first := rfl

theorem Grammar.diagnose_eq_none {α : Type} [TreeLike α] {g : Grammar α} {input : Text} :
    g.diagnose input = none ↔ (g.parse input).isSuccess = true := by
  rw [diagnose_eq]
  split
  next h => exact iff_of_true rfl h
  next h => exact iff_of_false nofun h

end Peg
