import Peg.Proofs.Guards
import Peg.Proofs.Identifier

/-! The languages of keywords and of greetings.

A keyword is its word where no word character comes behind it. A greeting is one of two
such words, a space and a name, and the name is read to its end. For each part there is
one equivalence: where it succeeds strictly, with what, and what it leaves. Put together
they say that a greeting is taken just where one is written (`greeting_language`).

The two words do not get in each other's way, since neither begins with the other; and
what each of them asks not to come next is no restriction here, since a space does. -/
namespace Peg.Grammar
open ReadyMade

variable {mode : Mode} {input m r : Text} {a : Tree}

/-! ### Keywords -/

theorem keyword_success_iff {word : Text} :
    (keyword word).parseIn .strict input = .success m r a ↔
      (word ++ r = input ∧ m = word ∧ a = .text word) ∧ ¬ r.Starts isWordCharacter := by
  have hguard : (Guard.notBefore alphanumeric).Holds r ↔ ¬ r.Starts isWordCharacter := by
    rw [← reads_alphanumeric.isSuccess_iff]
    exact Bool.not_eq_true _ ▸ Iff.rfl
  have haround : (keyword word).parseIn .strict input = .success m r a ↔ _ :=
    Guard.around_success_iff (.notBefore alphanumeric)
  rw [haround, terminal_success_iff, hguard]
  rfl

/-! ### Names -/

/-- What an identifier may be: word characters, one at least, of which the first is no digit. -/
structure IsName (name : Text) : Prop where
  nonempty : name ≠ []
  inside : ∀ c ∈ name, isWordCharacter c = true
  notDigit : ¬ name.Starts Char.isDigit

instance (name : Text) : Decidable (IsName name) :=
  decidable_of_iff (name ≠ [] ∧ name.all isWordCharacter = true ∧ ¬ name.Starts Char.isDigit)
    ⟨fun ⟨hne, hinside, hdigit⟩ => ⟨hne, List.all_eq_true.mp hinside, hdigit⟩,
      fun h => ⟨h.nonempty, List.all_eq_true.mpr h.inside, h.notDigit⟩⟩

theorem isName_iff {name : Text} :
    IsName name ↔ name.Starts isLetter ∧ ∀ c ∈ name, isWordCharacter c = true := by
  constructor
  · rintro ⟨hne, hinside, hdigit⟩
    obtain ⟨c, rest, rfl⟩ := List.exists_cons_of_ne_nil hne
    rw [Text.starts_cons] at hdigit ⊢
    have hword := hinside c (List.mem_cons_self ..)
    exact ⟨(Bool.or_eq_true_iff.mp hword).resolve_right hdigit, hinside⟩
  · rintro ⟨⟨c, rest, rfl, hc⟩, hinside⟩
    refine ⟨List.cons_ne_nil c rest, hinside, fun hdigit => ?_⟩
    rw [Text.starts_cons, isDigit_of_isLetter hc] at hdigit
    exact nomatch hdigit

theorem identifier_success_iff : identifier.parseIn mode input = .success m r a ↔
    IsName m ∧ m ++ r = input ∧ ¬ r.Starts isWordCharacter ∧ a = .text m := by
  constructor
  · intro h
    by_cases hstarts : input.Starts isLetter
    · obtain ⟨rfl, rfl, rfl⟩ :=
        Outcome.success.inj ((parseIn_identifier_of_starts hstarts).symm.trans h)
      have hfront := Text.longestFront_takeWhile input isWordCharacter
      refine ⟨isName_iff.mpr ⟨?_, hfront.inside⟩, hfront.parts, Text.not_starts_dropWhile _ _, rfl⟩
      obtain ⟨c, rest, rfl, hc⟩ := hstarts
      rw [List.takeWhile_cons_of_pos (isWordCharacter_of_isLetter c hc)]
      exact Text.starts_cons.mpr hc
    · exact nomatch (parseIn_identifier_of_not_starts hstarts).symm.trans h
  · rintro ⟨hname, rfl, hrest, rfl⟩
    obtain ⟨⟨c, more, rfl, hc⟩, hinside⟩ := isName_iff.mp hname
    have hstarts : Text.Starts isLetter (c :: more ++ r) := Text.starts_cons.mpr hc
    rw [parseIn_identifier_of_starts hstarts, Text.takeWhile_front hinside hrest,
      Text.dropWhile_front hinside hrest]

/-! ### Greetings -/

/-- A word that a greeting begins with. -/
def Salutation (word : Text) : Prop := word = "hello".toList ∨ word = "hi".toList

def salutation : Grammar Tree := (keyword "hello".toList).orElse (keyword "hi".toList)

/-- The greeting without its listener. -/
def address : Grammar Tree := (salutation.andThen (terminal [' '])).andThen identifier

theorem salutation_success_iff : salutation.parseIn .strict input = .success m r a ↔
    Salutation m ∧ m ++ r = input ∧ ¬ r.Starts isWordCharacter ∧ a = .text m := by
  rw [salutation, orElse_success_iff, keyword_success_iff, keyword_success_iff]
  constructor
  · rintro (⟨⟨rfl, rfl, rfl⟩, hrest⟩ | ⟨_, ⟨rfl, rfl, rfl⟩, hrest⟩)
    · exact ⟨.inl rfl, rfl, hrest, rfl⟩
    · exact ⟨.inr rfl, rfl, hrest, rfl⟩
  · rintro ⟨rfl | rfl, rfl, hrest, rfl⟩
    · exact .inl ⟨⟨rfl, rfl, rfl⟩, hrest⟩
    · refine .inr ⟨?_, ⟨rfl, rfl, rfl⟩, hrest⟩
      rcases parseIn_strict_cases (keyword "hello".toList) ("hi".toList ++ r) with
        hno | ⟨_, _, _, hyes⟩
      · exact hno
      · have hstands := (keyword_success_iff.mp hyes).1.1
        simp at hstands

theorem address_success_iff : address.parseIn .strict input = .success m r a ↔
    ∃ word name, Salutation word ∧ IsName name ∧ ¬ r.Starts isWordCharacter ∧
      m = word ++ ' ' :: name ∧ m ++ r = input ∧
      a = .pair (.pair (.text word) (.text [' '])) (.text name) := by
  rw [address, andThen_success_iff]
  constructor
  · rintro ⟨_, _, _, name, _, hopening, hname, rfl, rfl⟩
    obtain ⟨word, _, _, _, _, hword, hspace, rfl, rfl⟩ := andThen_success_iff.mp hopening
    obtain ⟨hsalutation, rfl, _, rfl⟩ := salutation_success_iff.mp hword
    obtain ⟨rfl, rfl, rfl⟩ := terminal_success_iff.mp hspace
    obtain ⟨hisName, rfl, hrest, rfl⟩ := identifier_success_iff.mp hname
    exact ⟨word, name, hsalutation, hisName, hrest, by simp, by simp, rfl⟩
  · rintro ⟨word, name, hsalutation, hisName, hrest, rfl, rfl, rfl⟩
    have hspace : ¬ Text.Starts isWordCharacter (' ' :: (name ++ r)) := by
      rw [Text.starts_cons]
      decide
    have hword := salutation_success_iff.mpr ⟨hsalutation, rfl, hspace, rfl⟩
    have hopening := andThen_of_success hword (parseIn_terminal [' '] (name ++ r))
    have hname : identifier.parseIn .strict (name ++ r) = .success name r (.text name) :=
      identifier_success_iff.mpr ⟨hisName, rfl, hrest, rfl⟩
    rw [List.append_assoc]
    exact ⟨_, _, _, _, _, hopening, hname, by simp, rfl⟩

theorem parseIn_greeting (input : Text) : greeting.parseIn .strict input =
    (address.parseIn .strict input).withValue
      (match (address.parseIn .strict input).value? with
        | some (.pair _ name) => name
        | _ => .nothing) := by
  rw [parseIn_eq_attempt (g := address) rfl]
  exact parseIn_listen address _ .strict input

/-- **Keywords and greetings are taken just where they are written.** A keyword is its word where no
word character comes behind it. A greeting is one of its two words, a space and a name, where none
comes behind the name; all of that is matched, the rest remains, and the value is the name. -/
theorem greeting_language :
    (∀ word input, ((keyword word).parseIn .strict input).isSuccess = true ↔
      ∃ rest, word ++ rest = input ∧ ¬ rest.Starts isWordCharacter) ∧
    (∀ word rest, ¬ rest.Starts isWordCharacter →
      (keyword word).parseIn .strict (word ++ rest) = .success word rest (.text word)) ∧
    (∀ input, (greeting.parseIn .strict input).isSuccess = true ↔
      ∃ word name rest, Salutation word ∧ IsName name ∧ ¬ rest.Starts isWordCharacter ∧
        word ++ ' ' :: name ++ rest = input) ∧
    ∀ word name rest, Salutation word → IsName name → ¬ rest.Starts isWordCharacter →
      greeting.parseIn .strict (word ++ ' ' :: name ++ rest) =
        .success (word ++ ' ' :: name) rest (.text name) := by
  have hgreeting (word name rest : Text) (hword : Salutation word) (hname : IsName name)
      (hrest : ¬ rest.Starts isWordCharacter) :
      greeting.parseIn .strict (word ++ ' ' :: name ++ rest) =
        .success (word ++ ' ' :: name) rest (.text name) := by
    rw [parseIn_greeting, address_success_iff.mpr ⟨word, name, hword, hname, hrest, rfl, rfl, rfl⟩]
    rfl
  refine ⟨fun word input => ⟨fun hs => ?_, ?_⟩, fun word rest h => ?_,
    fun input => ⟨fun hs => ?_, ?_⟩, hgreeting⟩
  · obtain ⟨_, rest, _, h⟩ := isSuccess_strict_iff.mp hs
    obtain ⟨⟨hinput, _, _⟩, hrest⟩ := keyword_success_iff.mp h
    exact ⟨rest, hinput, hrest⟩
  · rintro ⟨rest, hinput, hrest⟩
    exact isSuccess_strict_iff.mpr
      ⟨word, rest, .text word, keyword_success_iff.mpr ⟨⟨hinput, rfl, rfl⟩, hrest⟩⟩
  · exact keyword_success_iff.mpr ⟨⟨rfl, rfl, rfl⟩, h⟩
  · rw [parseIn_greeting, Outcome.isSuccess_withValue] at hs
    obtain ⟨_, rest, _, h⟩ := isSuccess_strict_iff.mp hs
    obtain ⟨word, name, hword, hname, hrest, rfl, hinput, _⟩ := address_success_iff.mp h
    exact ⟨word, name, rest, hword, hname, hrest, hinput⟩
  · rintro ⟨word, name, rest, hword, hname, hrest, rfl⟩
    rw [hgreeting word name rest hword hname hrest]
    rfl

/-- A name with a digit in it, and what may come behind it. -/
theorem greeting_language_name :
    IsName "bob_1".toList ∧ ¬ Text.Starts isWordCharacter "é!".toList ∧
    greeting.parseIn .strict "hi bob_1é!".toList =
      .success "hi bob_1".toList "é!".toList (.text "bob_1".toList) ∧
    (keyword []).parseIn .strict "é!".toList = .success [] "é!".toList (.text []) := by
  have hname : IsName "bob_1".toList := by decide +kernel
  have hrest : ¬ Text.Starts isWordCharacter "é!".toList := by decide +kernel
  have hinput : "hi".toList ++ ' ' :: "bob_1".toList ++ "é!".toList = "hi bob_1é!".toList := by
    decide +kernel
  have hmatched : "hi".toList ++ ' ' :: "bob_1".toList = "hi bob_1".toList := by decide +kernel
  have hgreeting := greeting_language.2.2.2 _ _ _ (.inr rfl) hname hrest
  rw [hinput, hmatched] at hgreeting
  exact ⟨hname, hrest, hgreeting, greeting_language.2.1 [] _ hrest⟩

/-- A keyword does not end inside a word, and a name does not begin with a digit. -/
example : (keyword "let".toList).parseIn .strict "letter".toList = .failure "letter".toList ∧
    greeting.parseIn .strict "hello 1".toList = .failure "hello 1".toList := by
  decide +kernel

end Peg.Grammar
