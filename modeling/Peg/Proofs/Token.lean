import Peg.Proofs.Chain
import Peg.Grammar.ReadyMade

/-! Tokens are read to their end.

A grammar `Reads` a class of characters when it takes one character of the class, and
nothing else. A repetition of it takes the longest front that is made of the class
(`Reads.parseIn_atLeast`), in either mode, since it finds its items strictly.

Where a front ends is said of the text alone: a text `Starts` in a class or does not,
and behind the longest front it does not (`Text.not_starts_dropWhile`). -/
namespace Peg

/-! ### Fronts of a text -/

namespace Text

variable {p q : Char → Bool} {s front rest : Text}

/-- A character of the class comes first. -/
def Starts (p : Char → Bool) (s : Text) : Prop := ∃ c rest, s = c :: rest ∧ p c = true

/-- The longest front that is made of the class, and what is behind it. -/
structure LongestFront (p : Char → Bool) (s front rest : Text) : Prop where
  parts : front ++ rest = s
  inside : ∀ c ∈ front, p c = true
  longest : ∀ other, other <+: s → (∀ c ∈ other, p c = true) → other <+: front

theorem not_starts_nil : ¬ Starts p [] := by
  rintro ⟨_, _, h, _⟩
  exact nomatch h

theorem starts_cons {c : Char} : Starts p (c :: s) ↔ p c = true := by
  constructor
  · rintro ⟨_, _, h, hc⟩
    rwa [(List.cons.inj h).1]
  · intro hc
    exact ⟨c, s, rfl, hc⟩

instance : (s : Text) → Decidable (s.Starts p)
  | [] => isFalse not_starts_nil
  | _ :: _ => decidable_of_iff _ starts_cons.symm

theorem takeWhile_eq_nil : s.takeWhile p = [] ↔ ¬ s.Starts p := by
  cases s with
  | nil => exact iff_of_true rfl not_starts_nil
  | cons c rest =>
    rw [starts_cons, List.takeWhile_cons]
    split <;> simp [*]

/-- A front of the class is taken to its end where the class does not go on. -/
theorem takeWhile_front (hfront : ∀ c ∈ front, p c = true) (hrest : ¬ rest.Starts p) :
    (front ++ rest).takeWhile p = front := by
  rw [List.takeWhile_append_of_pos hfront, takeWhile_eq_nil.mpr hrest, List.append_nil]

theorem dropWhile_front (hfront : ∀ c ∈ front, p c = true) (hrest : ¬ rest.Starts p) :
    (front ++ rest).dropWhile p = rest := by
  have hsplit := List.takeWhile_append_dropWhile (p := p) (l := front ++ rest)
  rw [takeWhile_front hfront hrest] at hsplit
  exact List.append_cancel_left hsplit

theorem longestFront_takeWhile (s : Text) (p : Char → Bool) :
    s.LongestFront p (s.takeWhile p) (s.dropWhile p) where
  parts := List.takeWhile_append_dropWhile
  inside := List.all_eq_true.mp List.all_takeWhile
  longest := by
    rintro other ⟨more, rfl⟩ hother
    rw [List.takeWhile_append_of_pos hother]
    exact List.prefix_append other _

theorem not_starts_dropWhile (p : Char → Bool) (s : Text) : ¬ Starts p (s.dropWhile p) := by
  induction s with
  | nil => exact not_starts_nil
  | cons c rest ih =>
    rw [List.dropWhile_cons]
    split
    · exact ih
    · rwa [starts_cons]

theorem inside_of_imp (h : ∀ c, p c = true → q c = true) (s : Text) :
    ∀ c ∈ s.takeWhile p, q c = true := by
  intro c hc
  exact h c ((s.longestFront_takeWhile p).inside c hc)

/-- A wider class goes on where a narrower one stops. -/
theorem takeWhile_of_imp (h : ∀ c, p c = true → q c = true) (s : Text) :
    s.takeWhile q = s.takeWhile p ++ (s.dropWhile p).takeWhile q := by
  rw [← List.takeWhile_append_of_pos (inside_of_imp h s), List.takeWhile_append_dropWhile]

theorem dropWhile_of_imp (h : ∀ c, p c = true → q c = true) (s : Text) :
    (s.dropWhile p).dropWhile q = s.dropWhile q := by
  rw [← List.dropWhile_append_of_pos (inside_of_imp h s), List.takeWhile_append_dropWhile]

end Text

namespace Grammar
open ReadyMade

variable {g other : Grammar Tree} {p q : Char → Bool}

/-- Takes one character of the class. -/
structure Reads (g : Grammar Tree) (p : Char → Bool) : Prop where
  nil : g.parseIn .strict [] = .failure []
  cons : ∀ c rest, g.parseIn .strict (c :: rest) =
    if p c then .success [c] rest (.text [c]) else .failure (c :: rest)

/-! ### Classes -/

theorem reads_terminal (c : Char) : (terminal [c]).Reads (· == c) := by
  constructor
  · exact parseIn_terminal_of_absent (by simp)
  · intro d rest
    by_cases hd : d = c
    · subst hd
      rw [beq_self_eq_true, if_pos rfl]
      exact parseIn_terminal [d] rest
    · rw [if_neg (by simpa using hd)]
      apply parseIn_terminal_of_absent
      intro hstands
      exact hd (List.cons_prefix_cons.mp hstands).1.symm

theorem Reads.orElse (h : g.Reads p) (h' : other.Reads q) :
    (g.orElse other).Reads fun c => p c || q c := by
  constructor
  · rw [parseIn_orElse, h.nil, h'.nil]
    rfl
  · intro c rest
    rw [parseIn_orElse, h.cons, h'.cons]
    cases p c <;> rfl

/-- More characters to choose from widen the class. -/
theorem Reads.foldl (h : g.Reads p) (more : Text) :
    (more.foldl (fun g c => g.orElse (terminal [c])) g).Reads fun c => p c || more.contains c := by
  induction more generalizing g p with
  | nil => simpa using h
  | cons d more ih =>
    have hstep := ih (h.orElse (reads_terminal d))
    show (more.foldl _ (g.orElse (terminal [d]))).Reads _
    simpa only [List.contains_cons, Bool.or_assoc] using hstep

/-- An ordered choice among characters reads the class of them. -/
theorem reads_oneOf {chars : Text} (h : chars ≠ []) : (oneOf chars).Reads chars.contains := by
  obtain ⟨c, more, rfl⟩ := List.exists_cons_of_ne_nil h
  have hclass : (c :: more).contains = fun d => d == c || more.contains d := by
    funext d
    exact List.contains_cons
  rw [hclass]
  exact (reads_terminal c).foldl more

/-- Of a class of ASCII characters all members are found by their code points. -/
theorem contains_eq_of_ascii {chars : Text} (hchars : chars.all p = true)
    (hclass : ∀ c, p c = true → c.toNat < 128)
    (hcodes : ∀ n < 128, p (Char.ofNat n) = true → Char.ofNat n ∈ chars) : chars.contains = p := by
  funext c
  apply Bool.eq_iff_iff.mpr
  constructor
  · intro h
    exact List.all_eq_true.mp hchars c (List.contains_iff_mem.mp h)
  · intro h
    have hmem := hcodes c.toNat (hclass c h)
    rw [Char.ofNat_toNat] at hmem
    exact List.contains_iff_mem.mpr (hmem h)

theorem isDigit_range {c : Char} (h : c.isDigit = true) : 48 ≤ c.toNat ∧ c.toNat ≤ 57 := by
  simpa [Char.isDigit, UInt32.le_iff_toNat_le] using h

theorem contains_digits : "0123456789".toList.contains = Char.isDigit := by
  refine contains_eq_of_ascii (by decide +kernel) (fun c hc => ?_) (by decide +kernel)
  have hrange := isDigit_range hc
  omega

theorem reads_digit : digit.Reads Char.isDigit := by
  rw [← contains_digits]
  exact reads_oneOf (by decide +kernel)

theorem Reads.isSuccess_iff (h : g.Reads p) (input : Text) :
    (g.parseIn .strict input).isSuccess = true ↔ input.Starts p := by
  cases input with
  | nil =>
    rw [h.nil]
    exact iff_of_false nofun Text.not_starts_nil
  | cons c rest =>
    rw [h.cons, Text.starts_cons]
    cases p c with
    | false => exact iff_of_false nofun nofun
    | true => exact iff_of_true rfl rfl

/-! ### Repetitions of a class -/

theorem Reads.chain (h : g.Reads p) (input : Text) :
    ∃ links, Chain g input links (input.dropWhile p) ∧
      links.map Link.value = (input.takeWhile p).map fun c => .text [c] := by
  induction input with
  | nil => exact ⟨[], .nil h.nil, rfl⟩
  | cons c rest ih =>
    have hstep := h.cons c rest
    cases hc : p c with
    | false =>
      rw [hc, if_neg nofun] at hstep
      refine ⟨[], ?_, ?_⟩
      · rw [List.dropWhile_cons_of_neg (by simp [hc])]
        exact .nil hstep
      · rw [List.takeWhile_cons_of_neg (by simp [hc])]
        rfl
    | true =>
      rw [hc, if_pos rfl] at hstep
      obtain ⟨links, hchain, hvalues⟩ := ih
      refine ⟨⟨[c], rest, .text [c]⟩ :: links, ?_, ?_⟩
      · rw [List.dropWhile_cons_of_pos hc]
        exact .cons hstep hchain
      · rw [List.takeWhile_cons_of_pos hc, List.map_cons, List.map_cons, hvalues]

/-- The longest front made of the class is taken, character by character. -/
theorem Reads.parseIn_atLeast (h : g.Reads p) (hn : g.nullable = false) (min : Nat) (mode : Mode)
    (input : Text) : (g.atLeast min hn).parseIn mode input =
      if min ≤ (input.takeWhile p).length then .success (input.takeWhile p) (input.dropWhile p)
        (.list ((input.takeWhile p).map fun c => .text [c]))
      else .failure input := by
  obtain ⟨links, hchain, hvalues⟩ := h.chain input
  have hmatched : (links.map Link.matched).flatten = input.takeWhile p :=
    List.append_cancel_right (hchain.parts.trans List.takeWhile_append_dropWhile.symm)
  have hlength : links.length = (input.takeWhile p).length := by
    simpa using congrArg List.length hvalues
  rw [hchain.parseIn_atLeast hn, hmatched, hlength, hvalues]
  rfl

/-- Digits are taken as long as there are any. -/
theorem parseIn_digits (mode : Mode) (input : Text) : digits.parseIn mode input =
    if input.takeWhile Char.isDigit = [] then .failure input
    else .success (input.takeWhile Char.isDigit) (input.dropWhile Char.isDigit)
      (.text (input.takeWhile Char.isDigit)) := by
  have hrun := reads_digit.parseIn_atLeast rfl 1 mode input
  rw [parseIn_eq_attempt rfl] at hrun
  show ((digit.atLeast 1 rfl).listen matchedText).parseIn mode input = _
  rw [parseIn_listen, hrun]
  cases input.takeWhile Char.isDigit with
  | nil => rfl
  | cons => rfl

end Grammar

end Peg
