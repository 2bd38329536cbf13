import Peg.Text.Quoted

/-! Values of a match.

Matching builds its value from four operations, `TreeLike`: the text of a
terminal, the two halves of a sequence, the items of a repetition, and nothing for
an option that was not taken. `Tree` keeps exactly that structure; a `Text` is the
structure with everything but the text forgotten. -/
namespace Peg

/-- A type that a match can build its value in. -/
class TreeLike (α : Type) where
  text : Text → α
  pair : α → α → α
  list : List α → α
  nothing : α

/-- The free such type. -/
inductive Tree where
  | text (leaf : Text)
  | pair (left right : Tree)
  | list (items : List Tree)
  | nothing

instance : TreeLike Tree := ⟨.text, .pair, .list, .nothing⟩

/-- Texts are joined, and nothing is the empty text. -/
instance : TreeLike Text := ⟨id, (· ++ ·), List.flatten, []⟩

instance : Inhabited Tree := ⟨.nothing⟩

namespace Tree

/-! ### Equality -/

mutual

def decideEq : (a b : Tree) → Decidable (a = b)
  | .text s, .text t =>
    if h : s = t then isTrue (congrArg _ h) else isFalse fun e => h (Tree.text.inj e)
  | .pair a b, .pair c d =>
    match decideEq a c, decideEq b d with
    | isTrue h, isTrue k => isTrue (by rw [h, k])
    | isFalse h, _ => isFalse fun e => h (Tree.pair.inj e).1
    | _, isFalse k => isFalse fun e => k (Tree.pair.inj e).2
  | .list xs, .list ys =>
    match decideListEq xs ys with
    | isTrue h => isTrue (congrArg _ h)
    | isFalse h => isFalse fun e => h (Tree.list.inj e)
  | .nothing, .nothing => isTrue rfl
  | .text _, .pair .. | .text _, .list _ | .text _, .nothing
  | .pair .., .text _ | .pair .., .list _ | .pair .., .nothing
  | .list _, .text _ | .list _, .pair .. | .list _, .nothing
  | .nothing, .text _ | .nothing, .pair .. | .nothing, .list _ => isFalse nofun

def decideListEq : (xs ys : List Tree) → Decidable (xs = ys)
  | [], [] => isTrue rfl
  | x :: xs, y :: ys =>
    match decideEq x y, decideListEq xs ys with
    | isTrue h, isTrue k => isTrue (by rw [h, k])
    | isFalse h, _ => isFalse fun e => h (List.cons.inj e).1
    | _, isFalse k => isFalse fun e => k (List.cons.inj e).2
  | [], _ :: _ | _ :: _, [] => isFalse nofun

end

instance : DecidableEq Tree := decideEq

/-! ### Reading a tree -/

def asText? : Tree → Option Text
  | .text s => some s
  | _ => none

mutual

/-- The leaves from left to right, joined. -/
def flatten : Tree → Text
  | .text s => s
  | .pair a b => flatten a ++ flatten b
  | .list items => flattenAll items
  | .nothing => []

def flattenAll : List Tree → Text
  | [] => []
  | t :: rest => flatten t ++ flattenAll rest

end

theorem flattenAll_eq (items : List Tree) : flattenAll items = (items.map flatten).flatten := by
  induction items with
  | nil => rfl
  | cons t rest ih => simp [flattenAll, ih]

mutual

/-- One line of text: leaves are quoted, a pair stands in parentheses with a space between its
halves, a list in brackets with commas between its items. -/
def render : Tree → Text
  | .text s => s.quote
  | .pair a b => '(' :: render a ++ ' ' :: render b ++ [')']
  | .list items => '[' :: renderItems items ++ [']']
  | .nothing => "nothing".toList

def renderItems : List Tree → Text
  | [] => []
  | [t] => render t
  | t :: u :: rest => render t ++ ", ".toList ++ renderItems (u :: rest)

end

example : render (.pair (.text ['a']) (.list [.text ['b'], .nothing])) =
    "(\"a\" [\"b\", nothing])".toList := by decide +kernel

end Tree

end Peg
