import Peg.Proofs.Sequence
import Peg.Proofs.Token

/-! Identifiers, and how far tokens go.

A token `Munches` when it is taken, in either mode, just where a character of one class
comes first, and then takes the longest front that is made of another. A run of digits
does, and so does an identifier (`tokens_munch`).

An identifier is two repetitions in a row: the first stops at a digit, and the second
goes on there. Together they take what one repetition of the wider class would
(`Text.takeWhile_of_imp`). Nothing of this depends on the mode, since neither of them
looks for its items further on. -/
namespace Peg.Grammar
open ReadyMade Outcome

/-! ### Classes -/

/-- A letter or an underscore. -/
def isLetter (c : Char) : Bool := c.isAlpha || c == '_'

/-- What an identifier may go on with. -/
def isWordCharacter (c : Char) : Bool := isLetter c || c.isDigit

theorem isWordCharacter_of_isLetter (c : Char) (h : isLetter c = true) :
    isWordCharacter c = true := Bool.or_eq_true_iff.mpr (.inl h)

theorem isLetter_ranges {c : Char} (h : isLetter c = true) :
    (65 ≤ c.toNat ∧ c.toNat ≤ 90) ∨ c.toNat = 95 ∨ (97 ≤ c.toNat ∧ c.toNat ≤ 122) := by
  rcases Bool.or_eq_true_iff.mp h with halpha | hmark
  · rcases Bool.or_eq_true_iff.mp halpha with hupper | hlower
    · exact .inl (of_decide_eq_true hupper)
    · obtain ⟨hfrom, hto⟩ := Bool.and_eq_true_iff.mp hlower
      exact .inr (.inr ⟨of_decide_eq_true hfrom, of_decide_eq_true hto⟩)
  · rw [eq_of_beq hmark]
    decide

theorem isDigit_of_isLetter {c : Char} (h : isLetter c = true) : c.isDigit = false := by
  have hranges := isLetter_ranges h
  refine eq_false_of_ne_true fun hc => ?_
  have hdigit := isDigit_range hc
  omega

theorem contains_letters :
    "abcdefghijklmnopqrstuvwxyzABCDEFGHIJKLMNOPQRSTUVWXYZ_".toList.contains = isLetter := by
  refine contains_eq_of_ascii (by decide +kernel) (fun c hc => ?_) (by decide +kernel)
  have hranges := isLetter_ranges hc
  omega

theorem reads_letter : letter.Reads isLetter := by
  rw [← contains_letters]
  exact reads_oneOf (by simp)

theorem nullable_letter : letter.nullable = false := by decide +kernel

theorem nullable_alphanumeric : alphanumeric.nullable = false := by decide +kernel

theorem reads_alphanumeric : alphanumeric.Reads isWordCharacter := reads_letter.orElse reads_digit

/-! ### Identifiers -/

/-- A letter, and letters and digits after it, without the listener. -/
def spelled : Grammar Tree :=
  (letter.atLeast 1 nullable_letter).andThen (alphanumeric.atLeast 0 nullable_alphanumeric)

variable {mode : Mode} {input : Text}

/-- Two repetitions in a row take what one of the wider class would. -/
theorem parseIn_spelled (mode : Mode) (h : input.Starts isLetter) :
    ∃ value, spelled.parseIn mode input =
      .success (input.takeWhile isWordCharacter) (input.dropWhile isWordCharacter) value := by
  let letters := letter.atLeast 1 nullable_letter
  let word := alphanumeric.atLeast 0 nullable_alphanumeric
  let tail := (input.dropWhile isLetter).takeWhile isWordCharacter
  obtain ⟨a, hletters⟩ : ∃ a, letters.parseIn mode input =
      .success (input.takeWhile isLetter) (input.dropWhile isLetter) a := by
    have htaken : input.takeWhile isLetter ≠ [] := fun hnone => Text.takeWhile_eq_nil.mp hnone h
    exact ⟨_, (reads_letter.parseIn_atLeast nullable_letter 1 mode input).trans
      (if_pos (List.length_pos_iff.mpr htaken))⟩
  obtain ⟨b, hword⟩ : ∃ b, ∀ mode, word.parseIn mode (input.dropWhile isLetter) =
      .success tail (input.dropWhile isWordCharacter) b := by
    rw [← Text.dropWhile_of_imp isWordCharacter_of_isLetter]
    exact ⟨_, fun mode => (reads_alphanumeric.parseIn_atLeast nullable_alphanumeric 0 mode _).trans
      (if_pos (Nat.zero_le _))⟩
  have hsequel : letters.sequel word mode input =
      .success tail (input.dropWhile isWordCharacter) b := by
    rw [sequel, hletters]
    exact hword _
  have hjoined : spelled.parseIn mode input =
      joined input (letters.parseIn mode input) (letters.sequel word mode input) :=
    parseIn_andThen ..
  rw [hletters, hsequel] at hjoined
  rw [Text.takeWhile_of_imp isWordCharacter_of_isLetter]
  exact ⟨_, hjoined⟩

theorem parseIn_spelled_of_not_starts (h : ¬ input.Starts isLetter) :
    spelled.parseIn mode input = .failure input := by
  have hletters : (letter.atLeast 1 nullable_letter).parseIn mode input = .failure input := by
    rw [reads_letter.parseIn_atLeast nullable_letter 1, Text.takeWhile_eq_nil.mpr h]
    rfl
  have hjoined : spelled.parseIn mode input = joined input _ _ := parseIn_andThen ..
  rw [hjoined, joined_of_left (congrArg value? hletters)]

theorem parseIn_identifier : identifier.parseIn mode input =
    (spelled.parseIn mode input).withValue (.text (spelled.parseIn mode input).matched) := by
  rw [parseIn_eq_attempt (g := spelled) rfl]
  exact parseIn_listen spelled matchedText mode input

theorem parseIn_identifier_of_starts (h : input.Starts isLetter) : identifier.parseIn mode input =
    .success (input.takeWhile isWordCharacter) (input.dropWhile isWordCharacter)
      (.text (input.takeWhile isWordCharacter)) := by
  obtain ⟨value, hspelled⟩ := parseIn_spelled mode h
  rw [parseIn_identifier, hspelled]
  rfl

theorem parseIn_identifier_of_not_starts (h : ¬ input.Starts isLetter) :
    identifier.parseIn mode input = .failure input := by
  rw [parseIn_identifier, parseIn_spelled_of_not_starts h]
  rfl

/-! ### Tokens -/

/-- In either mode the token is taken just where a character of the first class comes first. Then it
is the longest front made of the second class, and its value is its text; otherwise nothing is. -/
def Munches (g : Grammar Tree) (initial inner : Char → Bool) : Prop := ∀ mode input,
  ((g.parseIn mode input).isSuccess = true ↔ input.Starts initial) ∧
  (input.Starts initial → ∃ front rest, input.LongestFront inner front rest ∧
    g.parseIn mode input = .success front rest (.text front)) ∧
  (¬ input.Starts initial → g.parseIn mode input = .failure input)

theorem munches_of_parseIn {g : Grammar Tree} {initial inner : Char → Bool}
    (htaken : ∀ mode input, input.Starts initial → g.parseIn mode input =
      .success (input.takeWhile inner) (input.dropWhile inner) (.text (input.takeWhile inner)))
    (hrefused : ∀ mode input, ¬ input.Starts initial → g.parseIn mode input = .failure input) :
    g.Munches initial inner := by
  intro mode input
  by_cases h : input.Starts initial
  · have hrun := htaken mode input h
    refine ⟨iff_of_true ?_ h, fun _ => ?_, fun hno => absurd h hno⟩
    · rw [hrun]
      rfl
    · exact ⟨_, _, Text.longestFront_takeWhile input inner, hrun⟩
  · have hrun := hrefused mode input h
    refine ⟨iff_of_false ?_ h, fun hyes => absurd hyes h, fun _ => hrun⟩
    rw [hrun]
    exact Bool.false_ne_true

/-- **Tokens are maximal, in both modes.** A run of digits is taken just where a digit comes first,
an identifier just where a letter or an underscore does; both go as far as their characters go, and
neither is looked for further on. -/
theorem tokens_munch :
    digits.Munches Char.isDigit Char.isDigit ∧ identifier.Munches isLetter isWordCharacter := by
  constructor
  · refine munches_of_parseIn (fun mode input h => ?_) fun mode input h => ?_
    · rw [parseIn_digits, if_neg fun hnone => Text.takeWhile_eq_nil.mp hnone h]
    · rw [parseIn_digits, if_pos (Text.takeWhile_eq_nil.mpr h)]
  · exact munches_of_parseIn (fun _ _ => parseIn_identifier_of_starts)
      fun _ _ => parseIn_identifier_of_not_starts

/-- Letters of other scripts end an identifier, and leading text is not skipped. -/
example : identifier.parse "_a1é".toList = .success "_a1".toList "é".toList (.text "_a1".toList) ∧
    identifier.parse "1a".toList = .failure "1a".toList := by
  decide +kernel

end Peg.Grammar
