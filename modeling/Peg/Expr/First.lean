import Peg.Expr.Basic
import Peg.LiteralSet

/-! First sets.

The literals that a successful match may begin with. A part that is nullable lets
what follows it come first; so does a nullable part that is guarded by what comes
ahead. The empty literal is never among them. -/
namespace Peg.Expr

variable {α : Type}

def first : Expr α → LiteralSet
  | .terminal _ literal => if literal.isEmpty then ∅ else {literal}
  | .empty _ => ∅
  | .sequence _ front back => if front.nullable then front.first ∪ back.first else front.first
  | .choice _ front back => front.first ∪ back.first
  | .optional _ body => body.first
  | .repetition _ body _ => body.first
  | .ahead _ current forward =>
    if current.nullable then current.first ∪ forward.first else current.first
  | .notAhead _ current _ => current.first
  | .production _ body => body.first

end Peg.Expr
