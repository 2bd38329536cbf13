import Peg.Expr.Basic
import Peg.Text.Quoted

/-! Expressions as text.

Sequences and choices stand in parentheses, productions in angle brackets; options,
repetitions and look-aheads follow their operand; a listener shows as `@`. -/
namespace Peg.Expr

variable {α : Type}

def render : Expr α → Text
  | .terminal mark literal => literal.quote ++ sign mark
  | .empty mark => 'ε' :: sign mark
  | .sequence mark first second =>
    '(' :: render first ++ ' ' :: render second ++ ')' :: sign mark
  | .choice mark first second =>
    '(' :: render first ++ " / ".toList ++ render second ++ ')' :: sign mark
  | .optional mark body => render body ++ '?' :: sign mark
  | .repetition mark body min =>
    render body ++ '\x7b' :: Nat.toDigits 10 min ++ ',' :: '\x7d' :: sign mark
  | .ahead mark current forward =>
    render current ++ " &".toList ++ render forward ++ sign mark
  | .notAhead mark current forward =>
    render current ++ " !".toList ++ render forward ++ sign mark
  | .production mark body => '<' :: render body ++ '>' :: sign mark
where
  /-- A listener shows. -/
  sign (mark : Mark α) : Text := if mark.listener?.isSome then ['@'] else []

example : render (.sequence ⟨false, none⟩
    (.repetition ⟨false, none⟩ (.choice ⟨true, none⟩ (.terminal ⟨false, none⟩ ['a'])
      (.empty ⟨true, none⟩)) 2)
    (.production ⟨true, some ⟨fun _ => 0, none⟩⟩ (.optional ⟨true, none⟩
      (.notAhead ⟨false, none⟩ (.terminal ⟨false, none⟩ ['"']) (.empty ⟨true, none⟩)))) :
        Expr Nat) =
    "((\"a\" / ε)\x7b2,\x7d <\"\\\"\" !ε?>@)".toList := by
  decide +kernel

end Peg.Expr
