import Peg.CommandLine.Session

/-! What is shown is printable.

Whatever characters a text is made of, it is quoted with printable ones only
(`printable_quote`), and so are the values that are made of texts and the literals
that were expected. A run that parses prints such texts behind fixed words, a line
for each. -/
namespace Peg

namespace Text

/-- Nothing in the text is hidden. -/
def Printable (s : Text) : Prop := ∀ c ∈ s, isPrintable c = true

instance (s : Text) : Decidable (Printable s) :=
  decidable_of_iff (s.all isPrintable = true) List.all_eq_true

variable {s t : Text} {c : Char}

theorem printable_append : Printable (s ++ t) ↔ Printable s ∧ Printable t :=
  List.forall_mem_append

theorem printable_cons : Printable (c :: s) ↔ isPrintable c = true ∧ Printable s :=
  List.forall_mem_cons

theorem Printable.not_mem (hs : Printable s) (h : isPrintable c = false) : c ∉ s := by
  intro hmem
  exact nomatch (hs c hmem).symm.trans h

theorem Printable.intercalate (hs : Printable s) {parts : List Text}
    (h : ∀ part ∈ parts, Printable part) : Printable (s.intercalate parts) := by
  induction parts with
  | nil => exact List.forall_mem_nil _
  | cons part parts ih =>
    obtain ⟨hpart, hparts⟩ := List.forall_mem_cons.mp h
    cases parts with
    | nil =>
      rw [List.intercalate_singleton]
      exact hpart
    | cons next parts =>
      rw [List.intercalate_cons_cons]
      exact printable_append.mpr ⟨printable_append.mpr ⟨hpart, hs⟩, ih hparts⟩

/-! ### Quoted texts -/

/-- What holds of every digit of a base holds of the numerals in it. -/
theorem forall_mem_toDigits {base : Nat} {holds : Char → Prop} (hbase : 1 < base)
    (h : ∀ d < base, holds (Nat.digitChar d)) (n : Nat) :
    ∀ c ∈ Nat.toDigits base n, holds c := by
  induction n using Nat.strongRecOn with
  | ind n ih =>
    rw [Nat.toDigits_eq_if hbase]
    split
    next hn => exact List.forall_mem_singleton.mpr (h n hn)
    next hn =>
      refine List.forall_mem_append.mpr ⟨?_, ?_⟩
      · exact ih (n / base) (Nat.div_lt_self (by omega) hbase)
      · exact List.forall_mem_singleton.mpr (h (n % base) (Nat.mod_lt n (by omega)))

theorem printable_toDigits (n : Nat) : Printable (Nat.toDigits 16 n) :=
  forall_mem_toDigits (by decide) (by decide +kernel) n

theorem printable_codePointEscape (c : Char) : Printable (codePointEscape c) := by
  unfold codePointEscape
  apply printable_append.mpr
  constructor
  · apply printable_append.mpr
    exact ⟨by decide +kernel, printable_toDigits c.toNat⟩
  · decide +kernel

theorem printable_escape (c : Char) : Printable (escape c) := by
  unfold escape
  split
  case h_7 =>
    split
    next h => exact List.forall_mem_singleton.mpr h
    next => exact printable_codePointEscape c
  all_goals decide +kernel

theorem printable_quote (s : Text) : Printable s.quote := by
  unfold quote
  apply printable_append.mpr
  constructor
  · apply printable_cons.mpr
    refine ⟨by decide +kernel, ?_⟩
    intro c hc
    obtain ⟨d, _, hd⟩ := List.mem_flatMap.mp hc
    exact printable_escape d c hd
  · decide +kernel

end Text

/-! ### Values and literals -/

open Text

mutual

theorem Tree.printable_render (t : Tree) : Printable t.render := by
  cases t with
  | text s => exact printable_quote s
  | pair a b =>
    have hopening : isPrintable '(' = true := by decide +kernel
    have hspace : isPrintable ' ' = true := by decide +kernel
    have ha := printable_cons.mpr ⟨hopening, a.printable_render⟩
    have hb := printable_cons.mpr ⟨hspace, b.printable_render⟩
    exact printable_append.mpr ⟨printable_append.mpr ⟨ha, hb⟩, by decide +kernel⟩
  | list items =>
    have hopening : isPrintable '[' = true := by decide +kernel
    have hitems := printable_cons.mpr ⟨hopening, Tree.printable_renderItems items⟩
    exact printable_append.mpr ⟨hitems, by decide +kernel⟩
  | nothing => decide +kernel

theorem Tree.printable_renderItems (items : List Tree) : Printable (renderItems items) := by
  match items with
  | [] => exact List.forall_mem_nil _
  | [t] => exact t.printable_render
  | t :: u :: rest =>
    have hcomma : Printable ", ".toList := by decide +kernel
    have ht := printable_append.mpr ⟨t.printable_render, hcomma⟩
    exact printable_append.mpr ⟨ht, Tree.printable_renderItems (u :: rest)⟩

end

theorem LiteralSet.printable_enumerate (s : LiteralSet) : Printable s.enumerate := by
  have hsep : Printable ", ".toList := by decide +kernel
  apply hsep.intercalate
  intro part hpart
  obtain ⟨literal, _, rfl⟩ := List.mem_map.mp hpart
  exact printable_quote literal

theorem LiteralSet.printable_expectation (s : LiteralSet) : Printable s.expectation := by
  unfold expectation
  split
  · decide +kernel
  all_goals exact printable_append.mpr ⟨by decide +kernel, s.printable_enumerate⟩

end Peg
