import Peg.Proofs.Unquoting
import Peg.Tree

/-! Values, read back from the line that shows them.

A line that shows a value is read from left to right. What was opened and is not closed
is kept on a stack, with the parts of it that are complete; a complete value is either
the whole line or a part of what was opened last.

`Reading.runs_render`, by induction on the value: whatever was opened before it, a value
is read as what it is. Conversely each state tells what was read
(`Reading.written_step`), so nothing else is read as that value. -/
namespace Peg.Tree
open Text

/-! ### The reader -/

/-- A value that was begun and is not complete. -/
inductive Opened where
  /-- A pair, before its left half. -/
  | pair
  /-- A pair, before its right half. -/
  | second (left : Tree)
  /-- A list with these items so far, before another one. -/
  | list (items : List Tree)

/-- The word for nothing. -/
def letters : Text := render .nothing

/-- How far a line was read. What was opened last comes first. -/
inductive Reading where
  /-- Before a value. -/
  | before (opened : List Opened)
  /-- In a quoted text. -/
  | leaf (opened : List Opened) (quoted : Unquoting)
  /-- Behind that many letters of the word for nothing. -/
  | word (opened : List Opened) (size : Nat)
  /-- Behind a value. -/
  | behind (opened : List Opened) (value : Tree)
  /-- Behind an item of a list and its comma. -/
  | comma (outer : List Opened) (items : List Tree) (last : Tree)

namespace Reading

/-- In a leaf, or behind it. -/
def quoting (opened : List Opened) : Unquoting → Reading :=
  Unquoting.standing (.leaf opened) fun s => .behind opened (.text s)

/-- The first character of a value, or the bracket that closes a list without items. -/
def enter (opened : List Opened) : Char → Option Reading
  | '"' => some (.leaf opened (.between []))
  | 'n' => some (.word opened 1)
  | '(' => some (.before (.pair :: opened))
  | '[' => some (.before (.list [] :: opened))
  | ']' =>
    match opened with
    | .list [] :: outer => some (.behind outer (.list []))
    | _ => none
  | _ => none

/-- The character behind a value. -/
def proceed (value : Tree) : List Opened → Char → Option Reading
  | .pair :: outer, ' ' => some (.before (.second value :: outer))
  | .second left :: outer, ')' => some (.behind outer (.pair left value))
  | .list items :: outer, ',' => some (.comma outer items value)
  | .list items :: outer, ']' => some (.behind outer (.list (items ++ [value])))
  | _, _ => none

def step : Reading → Char → Option Reading
  | .before opened, c => enter opened c
  | .leaf opened quoted, c => (quoted.step c).map (quoting opened)
  | .word opened size, c =>
    if letters[size]? = some c then
      some (if size + 1 = letters.length then .behind opened .nothing else .word opened (size + 1))
    else none
  | .behind opened value, c => proceed value opened c
  | .comma outer items last, c =>
    if c = ' ' then some (.before (.list (items ++ [last]) :: outer)) else none

end Reading

/-- The value that a line shows. -/
def read? (s : Text) : Option Tree :=
  match s.foldlM Reading.step (.before []) with
  | some (.behind [] value) => some value
  | _ => none

theorem read?_eq_some {s : Text} {value : Tree} :
    read? s = some value ↔ Runs Reading.step (.before []) s (.behind [] value) := by
  unfold read? Runs
  constructor
  · intro h
    split at h
    next hrun =>
      cases h
      exact hrun
    next => exact nomatch h
  · intro h
    simp only [h]

/-! ### What a value is shown as is read -/

namespace Reading

theorem runs_quote (opened : List Opened) (s : Text) :
    Runs step (.before opened) s.quote (.behind opened (.text s)) :=
  Unquoting.runs_inside (leaf opened) (fun s => behind opened (.text s)) rfl (fun _ _ => rfl) s

mutual

theorem runs_render (t : Tree) (opened : List Opened) :
    Runs step (.before opened) t.render (.behind opened t) := by
  cases t with
  | text s => exact runs_quote opened s
  | pair a b =>
    have ha := runs_render a (.pair :: opened)
    have hb := runs_render b (.second a :: opened)
    exact ((Runs.cons rfl ha).append (.cons rfl hb)).append (.single rfl)
  | list items => exact .cons rfl (runs_renderItems items [] opened fun _ => rfl)
  | nothing => rfl

/-- Items and the bracket behind them. -/
theorem runs_renderItems (items before : List Tree) (outer : List Opened)
    (h : items = [] → before = []) : Runs step (.before (.list before :: outer))
      (renderItems items ++ [']']) (.behind outer (.list (before ++ items))) := by
  match items with
  | [] =>
    rw [h rfl]
    rfl
  | [t] => exact (runs_render t (.list before :: outer)).append (.single rfl)
  | t :: u :: rest =>
    have ht := runs_render t (.list before :: outer)
    have hcomma : Runs step (.behind (.list before :: outer) t) ", ".toList
      (.before (.list (before ++ [t]) :: outer)) := rfl
    have hrest := runs_renderItems (u :: rest) (before ++ [t]) outer nofun
    rw [List.append_assoc] at hrest
    have hitems : renderItems (t :: u :: rest) ++ [']'] =
        t.render ++ ", ".toList ++ (renderItems (u :: rest) ++ [']']) := List.append_assoc ..
    rw [hitems]
    exact (ht.append hcomma).append hrest

end

end Reading

/-! ### What is read is what a value is shown as -/

theorem render_pair (a b : Tree) :
    render (.pair a b) = '(' :: render a ++ ' ' :: render b ++ [')'] := rfl

theorem render_list (items : List Tree) :
    render (.list items) = '[' :: renderItems items ++ [']'] := rfl

theorem renderItems_cons (t : Tree) {items : List Tree} (h : items ≠ []) :
    renderItems (t :: items) = t.render ++ ", ".toList ++ renderItems items := by
  cases items with
  | nil => exact absurd rfl h
  | cons => rfl

theorem renderItems_append (items : List Tree) (last : Tree) : renderItems (items ++ [last]) =
    (items.flatMap fun t => t.render ++ ", ".toList) ++ last.render := by
  induction items with
  | nil => rfl
  | cons t items ih =>
    rw [List.cons_append, renderItems_cons t (by simp), ih, List.flatMap_cons, ← List.append_assoc]

namespace Opened

/-- How it begins. -/
def written : Opened → Text
  | .pair => ['(']
  | .second left => '(' :: left.render ++ [' ']
  | .list items => '[' :: items.flatMap fun t => t.render ++ ", ".toList

/-- All that is open, from the outermost on. -/
def writtenAll : List Opened → Text
  | [] => []
  | inner :: outer => writtenAll outer ++ inner.written

end Opened

namespace Reading
open Opened (writtenAll)

/-- What was read. -/
def written : Reading → Text
  | .before opened => writtenAll opened
  | .leaf opened quoted => writtenAll opened ++ quoted.written
  | .word opened size => writtenAll opened ++ letters.take size
  | .behind opened value => writtenAll opened ++ value.render
  | .comma outer items last => writtenAll (.list items :: outer) ++ (last.render ++ [','])

theorem written_quoting (opened : List Opened) (quoted : Unquoting) :
    (quoting opened quoted).written = writtenAll opened ++ quoted.written := by
  cases quoted <;> rfl

theorem written_enter {opened : List Opened} {reading : Reading} {c : Char}
    (h : enter opened c = some reading) : reading.written = writtenAll opened ++ [c] := by
  unfold enter at h
  split at h
  case h_5 =>
    split at h
    next outer =>
      cases h
      show writtenAll outer ++ ['[', ']'] = writtenAll outer ++ ['['] ++ [']']
      rw [List.append_assoc]
      rfl
    next => exact nomatch h
  case h_6 => exact nomatch h
  all_goals
    cases h
    rfl

theorem written_proceed {value : Tree} {opened : List Opened} {reading : Reading} {c : Char}
    (h : proceed value opened c = some reading) :
    reading.written = writtenAll opened ++ value.render ++ [c] := by
  unfold proceed at h
  split at h
  case h_5 => exact nomatch h
  all_goals
    cases h
    simp [written, writtenAll, Opened.written, render_pair, render_list, renderItems_append]

theorem written_step {reading reading' : Reading} {c : Char} (h : reading.step c = some reading') :
    reading'.written = reading.written ++ [c] := by
  cases reading with
  | before opened => exact written_enter h
  | leaf opened quoted =>
    obtain ⟨quoted', hquoted, rfl⟩ := Option.map_eq_some_iff.mp h
    rw [written_quoting, Unquoting.written_step hquoted, ← List.append_assoc]
    rfl
  | word opened size =>
    simp only [step] at h
    split at h
    next hc =>
      have hword : letters.take (size + 1) = letters.take size ++ [c] := by
        rw [List.take_add_one, hc, Option.toList_some]
      cases h
      split
      next hsize =>
        have hwhole : render .nothing = letters.take (size + 1) := by
          rw [hsize, List.take_length]
          rfl
        simp only [written, hwhole, hword, List.append_assoc]
      next => simp only [written, hword, List.append_assoc]
    next => exact nomatch h
  | behind opened value => exact written_proceed h
  | comma outer items last =>
    simp only [step] at h
    split at h
    next hc =>
      cases h
      simp [written, writtenAll, Opened.written, hc]
    next => exact nomatch h

end Reading

/-- A line is read as a value exactly if it shows that value. -/
theorem read?_eq_some_iff {s : Text} {value : Tree} : read? s = some value ↔ s = value.render := by
  rw [read?_eq_some]
  constructor
  · intro h
    exact (h.written_eq Reading.written Reading.written_step).symm
  · rintro rfl
    exact Reading.runs_render value []

/-- **The line that shows a value determines it.** There is a reader that accepts the lines that
show values, and no others, and gives each its value back, whatever the texts of the leaves are.
So values are shown alike only if they are the same. -/
theorem render_unambiguous :
    (∀ s (value : Tree), read? s = some value ↔ s = value.render) ∧
    ∀ a b : Tree, a.render = b.render ↔ a = b := by
  refine ⟨fun s value => read?_eq_some_iff, fun a b => ⟨fun h => ?_, congrArg render⟩⟩
  have ha : read? a.render = some a := read?_eq_some_iff.mpr rfl
  have hb : read? b.render = some b := read?_eq_some_iff.mpr rfl
  rw [h, hb] at ha
  exact (Option.some.inj ha).symm

/-- One leaf that looks like two, and no leaf. -/
example : read? "([\"a\\\", \\\"b\"] [nothing, []])".toList =
    some (.pair (.list [.text "a\", \"b".toList]) (.list [.nothing, .list []])) := by
  decide +kernel

end Peg.Tree
