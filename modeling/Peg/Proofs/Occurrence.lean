import Mathlib.Data.List.Basic
import Peg.Proofs.Checked
import Peg.Proofs.Success

/-! Where a literal is taken.

A literal is looked for among bytes, and the offset that comes out counts bytes. What
is meant by it are characters: the literal, and the texts on either side of it, as a
search from character to character finds them (`Text.sides?`).

`Text.find?_eq_sides?`: both searches stop at the same place. They could differ only at
an occurrence among the bytes that begins or ends inside a character, and a literal has
none of these (`Text.isBoundary_of_encode_prefix_drop`). `Matcher.terminal_exact` says
what follows for the match of a literal. -/
namespace Peg

namespace Text

variable {literal s front back : Text} {n : Nat}

/-! ### Search over characters -/

/-- The texts before and after the literal: strictly where it stands at the front, leniently where
it stands first. -/
def sides? (literal : Text) : Mode → Text → Option (Text × Text)
  | .strict, s => (s.dropPrefix? literal).map fun back => ([], back)
  | .lenient, s => s.dropInfix? literal

theorem sides?_strict_eq_some_iff :
    sides? literal .strict s = some (front, back) ↔ front = [] ∧ literal ++ back = s := by
  rw [sides?, Option.map_eq_some_iff]
  constructor
  · rintro ⟨rest, hrest, hsides⟩
    obtain ⟨rfl, rfl⟩ := Prod.mk.inj hsides
    obtain ⟨taken, rfl, htaken⟩ := List.dropPrefix?_eq_some_iff.mp hrest
    rw [beq_iff_eq.mp htaken]
    exact ⟨rfl, rfl⟩
  · rintro ⟨rfl, rfl⟩
    exact ⟨back, List.dropPrefix?_append_of_beq back (beq_self_eq_true literal), rfl⟩

theorem sides?_lenient_eq_some_iff : sides? literal .lenient s = some (front, back) ↔
    front ++ (literal ++ back) = s ∧ FirstAt literal front (literal ++ back) := by
  rw [sides?, List.dropInfix?_eq_some_iff]
  constructor
  · rintro ⟨⟨taken, rfl, htaken⟩, hshort⟩
    obtain rfl := beq_iff_eq.mp htaken
    refine ⟨(List.append_assoc ..).symm, List.prefix_append _ back, ?_⟩
    rintro front' _ hs' ⟨back', rfl⟩
    refine hshort front' taken back' ?_ (beq_self_eq_true taken)
    rw [List.append_assoc, List.append_assoc, hs']
  · rintro ⟨rfl, hfirst⟩
    refine ⟨⟨literal, (List.append_assoc ..).symm, beq_self_eq_true literal⟩, ?_⟩
    rintro front' taken back' hs' htaken
    obtain rfl := beq_iff_eq.mp htaken
    rw [List.append_assoc] at hs'
    exact hfirst.shortest front' _ hs'.symm (List.prefix_append _ back')

theorem sides?_strict_eq_none_iff : sides? literal .strict s = none ↔ ¬ literal <+: s := by
  constructor
  · rintro hnone ⟨back, hs⟩
    exact nomatch hnone.symm.trans (sides?_strict_eq_some_iff.mpr ⟨rfl, hs⟩)
  · intro habsent
    refine Option.eq_none_iff_forall_ne_some.mpr fun sides hsides => habsent ?_
    exact ⟨sides.2, (sides?_strict_eq_some_iff.mp hsides).2⟩

/-- Whatever occurs has its sides. -/
theorem exists_sides?_lenient (h : literal <:+: s) :
    ∃ front back, sides? literal .lenient s = some (front, back) := by
  obtain ⟨front, rest, hs, hfirst⟩ := exists_firstAt h
  obtain ⟨back, rfl⟩ := hfirst.stands
  exact ⟨front, back, sides?_lenient_eq_some_iff.mpr ⟨hs, hfirst⟩⟩

theorem sides?_lenient_eq_none_iff : sides? literal .lenient s = none ↔ ¬ literal <:+: s := by
  constructor
  · intro hnone hoccurs
    obtain ⟨front, back, hsides⟩ := exists_sides?_lenient hoccurs
    exact nomatch hnone.symm.trans hsides
  · intro habsent
    refine Option.eq_none_iff_forall_ne_some.mpr fun sides hsides => habsent ?_
    refine ⟨sides.1, sides.2, ?_⟩
    rw [List.append_assoc]
    exact (sides?_lenient_eq_some_iff.mp hsides).1

/-- In either mode the literal and its sides are the text. -/
theorem append_of_sides? {mode : Mode} (h : sides? literal mode s = some (front, back)) :
    front ++ (literal ++ back) = s := by
  cases mode with
  | strict =>
    obtain ⟨rfl, hs⟩ := sides?_strict_eq_some_iff.mp h
    exact hs
  | lenient => exact (sides?_lenient_eq_some_iff.mp h).1

/-! ### Search over bytes -/

/-- **The search over bytes stops where the one over characters does.** -/
theorem find?_eq_sides? (literal s : Text) :
    find? literal s = (sides? literal .lenient s).map fun sides => sides.1.byteSize := by
  cases h : sides? literal .lenient s with
  | none =>
    refine find?_eq_none_iff.mpr fun front back hs => sides?_lenient_eq_none_iff.mp h ?_
    exact ⟨front, back, by rw [List.append_assoc, hs]⟩
  | some sides =>
    obtain ⟨rfl, hfirst⟩ := sides?_lenient_eq_some_iff.mp h
    exact firstAt_iff_find?.mp hfirst

/-- A literal between its sides begins and ends with a character. -/
theorem isBoundary_sides (front literal back : Text) :
    IsBoundary (front ++ (literal ++ back)) front.byteSize ∧
      IsBoundary (front ++ (literal ++ back)) (front.byteSize + literal.byteSize) := by
  refine ⟨isBoundary_append front _, ?_⟩
  rw [← List.append_assoc, ← byteSize_append]
  exact isBoundary_append (front ++ literal) back

/-- No occurrence among the bytes begins or ends inside a character. -/
theorem isBoundary_of_encode_prefix_drop (hl : literal ≠ [])
    (h : encode literal <+: (encode s).drop n) :
    IsBoundary s n ∧ IsBoundary s (n + literal.byteSize) := by
  obtain ⟨front, back, rfl, rfl⟩ := exists_of_encode_prefix_drop hl h
  exact isBoundary_sides front literal back

end Text

/-! ### The match of a literal -/

namespace Matcher
open Outcome Text

variable {α : Type} {literal input front back : Text} {mode : Mode}

theorem offset?_eq_sides? (literal : Text) (mode : Mode) (input : Text) :
    offset? literal mode input = (sides? literal mode input).map fun sides => sides.1.byteSize := by
  cases mode with
  | lenient => exact find?_eq_sides? literal input
  | strict =>
    cases h : sides? literal .strict input with
    | none => exact if_neg (mt List.isPrefixOf_iff_prefix.mp (sides?_strict_eq_none_iff.mp h))
    | some sides =>
      obtain ⟨hfront, hs⟩ := sides?_strict_eq_some_iff.mp h
      rw [Option.map_some, hfront]
      exact if_pos (List.isPrefixOf_iff_prefix.mpr ⟨sides.2, hs⟩)

theorem result_terminal_of_sides? [TreeLike α]
    (h : sides? literal mode input = some (front, back)) :
    (terminal literal mode input : Recorded (Entry α) _).result =
      .ofParts front literal back (TreeLike.text literal) := by
  rw [result_terminal, offset?_eq_sides?, h]
  obtain rfl := append_of_sides? h
  exact split_byteSize front literal back _

theorem result_terminal_eq_failure_iff [TreeLike α] :
    (terminal literal mode input : Recorded (Entry α) _).result = .failure input ↔
      sides? literal mode input = none := by
  constructor
  · intro hfailure
    refine Option.eq_none_iff_forall_ne_some.mpr fun sides hsides => ?_
    exact failure_ne_ofParts input (hfailure.symm.trans (result_terminal_of_sides? hsides))
  · intro hnone
    rw [result_terminal, offset?_eq_sides?, hnone]
    rfl

theorem result_terminal_eq_ofParts_iff [TreeLike α] :
    (terminal literal mode input : Recorded (Entry α) _).result =
        .ofParts front literal back (TreeLike.text literal) ↔
      sides? literal mode input = some (front, back) := by
  constructor
  · intro hparts
    cases h : sides? literal mode input with
    | none =>
      have hfailure : (terminal literal mode input : Recorded (Entry α) _).result =
          .failure input := result_terminal_eq_failure_iff.mpr h
      exact absurd (hfailure.symm.trans hparts) (failure_ne_ofParts input)
    | some sides =>
      obtain ⟨hfront, _, hback, _⟩ := ofParts_inj ((result_terminal_of_sides? h).symm.trans hparts)
      rw [← hfront, ← hback]
  · exact result_terminal_of_sides?

end Matcher

namespace CheckedMatcher
open Text

variable {literal input : Text} {mode : Mode} {n : Nat}

theorem offset?_eq_sides? (literal : Text) (mode : Mode) (input : Text) :
    offset? literal mode input = (sides? literal mode input).map fun sides => sides.1.byteSize := by
  rw [offset?_eq, Matcher.offset?_eq_sides?]

/-- At the offset that is found a character begins, and one ends where the literal does. -/
theorem isBoundary_offset? (h : offset? literal mode input = some n) :
    IsBoundary input n ∧ IsBoundary input (n + literal.byteSize) := by
  rw [offset?_eq_sides?] at h
  obtain ⟨sides, hsides, rfl⟩ := Option.map_eq_some_iff.mp h
  obtain rfl := append_of_sides? hsides
  exact isBoundary_sides sides.1 literal sides.2

end CheckedMatcher

namespace Matcher
open Text

/-- **A literal is taken exactly where it stands first among the characters.** Leniently its match
fails just where the literal does not occur, and otherwise skips the shortest front behind which it
stands, matches it and leaves what follows; strictly it succeeds just where the literal comes first.
Nothing of this changes when literals are compared and searched for among bytes, and texts cut at
offsets in bytes: the offset is the size of the front that the search over characters finds, it is
a character boundary, and so is the end of the literal from there. Nor is there any other
occurrence among the bytes that begins or ends inside a character. -/
theorem terminal_exact {α : Type} [TreeLike α] (literal input : Text) :
    let lenient : Outcome α := (terminal literal .lenient input).result
    let strict : Outcome α := (terminal literal .strict input).result
    (lenient = .failure input ↔ ¬ literal <:+: input) ∧
    (literal <:+: input ↔ ∃ front back, front ++ (literal ++ back) = input ∧
      (∀ front' back', front' ++ (literal ++ back') = input → front.length ≤ front'.length) ∧
      lenient = .ofParts front literal back (TreeLike.text literal)) ∧
    (strict = .failure input ↔ ¬ ∃ back, literal ++ back = input) ∧
    (∀ back, strict = .success literal back (TreeLike.text literal) ↔ literal ++ back = input) ∧
    (∀ mode, (CheckedMatcher.terminal literal mode input).run =
        some <$> (terminal literal mode input : Recorded (Entry α) _) ∧
      CheckedMatcher.offset? literal mode input =
        (sides? literal mode input).map fun sides => sides.1.byteSize) ∧
    (∀ mode n, CheckedMatcher.offset? literal mode input = some n →
      IsBoundary input n ∧ IsBoundary input (n + literal.byteSize)) ∧
    (∀ n, literal ≠ [] → literal.encode <+: input.encode.drop n →
      IsBoundary input n ∧ IsBoundary input (n + literal.byteSize)) := by
  intro lenient strict
  refine ⟨?_, ⟨fun hoccurs => ?_, ?_⟩, ?_, fun back => ?_, fun mode => ⟨?_, ?_⟩,
    fun mode n => CheckedMatcher.isBoundary_offset?, fun n => isBoundary_of_encode_prefix_drop⟩
  · exact result_terminal_eq_failure_iff.trans sides?_lenient_eq_none_iff
  · obtain ⟨front, back, hsides⟩ := exists_sides?_lenient hoccurs
    obtain ⟨hs, hfirst⟩ := sides?_lenient_eq_some_iff.mp hsides
    refine ⟨front, back, hs, fun front' back' hs' => ?_, result_terminal_of_sides? hsides⟩
    exact hfirst.shortest front' _ (hs'.trans hs.symm) (List.prefix_append literal back')
  · rintro ⟨front, back, hs, _⟩
    exact ⟨front, back, by rw [List.append_assoc, hs]⟩
  · exact result_terminal_eq_failure_iff.trans sides?_strict_eq_none_iff
  · have hsides : strict = .ofParts [] literal back (TreeLike.text literal) ↔
        sides? literal .strict input = some ([], back) := result_terminal_eq_ofParts_iff
    exact hsides.trans (sides?_strict_eq_some_iff.trans (and_iff_right rfl))
  · exact CheckedMatcher.terminal_agrees literal mode input
  · exact CheckedMatcher.offset?_eq_sides? literal mode input

/-- A literal that shares its first byte with the character before it. -/
theorem terminal_exact_shared_byte :
    let literal : Text := "é".toList
    let input : Text := "àéa".toList
    (terminal literal .lenient input : Recorded (Entry Tree) _).result =
      .partialSuccess "à".toList literal "a".toList (.text literal) ∧
    literal ≠ [] ∧ literal.encode <+: input.encode.drop 2 ∧
    IsBoundary input 2 ∧ IsBoundary input (2 + literal.byteSize) := by
  intro literal input
  have hl : literal ≠ [] := by decide
  have hbytes : literal.encode <+: input.encode.drop 2 := by decide +kernel
  obtain ⟨_, _, _, _, _, _, hboundary⟩ := terminal_exact (α := Tree) literal input
  exact ⟨by decide +kernel, hl, hbytes, hboundary 2 hl hbytes⟩

/-- The first of two occurrences that overlap. -/
example : (terminal "aa".toList .lenient "baaac".toList : Recorded (Entry Tree) _).result =
    .partialSuccess "b".toList "aa".toList "ac".toList (.text "aa".toList) := by
  decide +kernel

end Matcher

end Peg
