import Peg.Proofs.Token

/-! The language of the list of numbers.

What the ready-made list accepts is what `bracketed` writes: numbers in brackets with
commas between them, at least one. Whatever text comes behind the closing bracket is
left, and the value holds the numbers in their order (`numberList_language`).

The numbers after the first one are the items of a repetition, each with a comma in
front of it. What is written for them has one chain, which ends at the bracket
(`chain_commaed`), and every chain is over what is written for some numbers
(`Chain.exists_commaed`). Greed loses nothing here: behind a number stands a comma or
a bracket, neither of which is a digit, and a bracket does not begin an item. -/
namespace Peg.Grammar
open ReadyMade

/-- One digit or more. -/
structure Numeral where
  digits : Text
  nonempty : digits ≠ []
  isDigit : ∀ c ∈ digits, c.isDigit = true

/-! ### Writing -/

/-- Numbers in brackets with commas between them. -/
def bracketed (numbers : List Numeral) : Text :=
  '[' :: ([','].intercalate (numbers.map Numeral.digits) ++ [']'])

/-- Numbers with a comma in front of each. -/
def commaed (numbers : List Numeral) : Text := numbers.flatMap fun n => ',' :: n.digits

theorem commaed_cons (n : Numeral) (more : List Numeral) :
    commaed (n :: more) = ',' :: (n.digits ++ commaed more) := rfl

theorem intercalate_digits (n : Numeral) (more : List Numeral) :
    [','].intercalate ((n :: more).map Numeral.digits) = n.digits ++ commaed more := by
  induction more generalizing n with
  | nil => simp [commaed]
  | cons m more ih =>
    have hmore := ih m
    rw [List.map_cons] at hmore
    rw [List.map_cons, List.map_cons, List.intercalate_cons_cons, hmore, commaed_cons,
      List.append_assoc]
    rfl

theorem bracketed_cons (n : Numeral) (more : List Numeral) (rest : Text) :
    bracketed (n :: more) ++ rest = '[' :: (n.digits ++ (commaed more ++ ']' :: rest)) := by
  rw [bracketed, intercalate_digits, List.cons_append, List.append_assoc, List.append_assoc]
  rfl

/-- No digit comes behind a number. -/
theorem not_starts_commaed (more : List Numeral) (rest : Text) :
    ¬ Text.Starts Char.isDigit (commaed more ++ ']' :: rest) := by
  cases more with
  | nil => exact mt Text.starts_cons.mp (by decide)
  | cons => exact mt Text.starts_cons.mp (by decide)

/-! ### One number -/

/-- A number is read to its end where no digit comes behind it. -/
theorem parseIn_digits_numeral (n : Numeral) {rest : Text}
    (hrest : ¬ rest.Starts Char.isDigit) (mode : Mode) :
    digits.parseIn mode (n.digits ++ rest) = .success n.digits rest (.text n.digits) := by
  rw [parseIn_digits, Text.takeWhile_front n.isDigit hrest,
    Text.dropWhile_front n.isDigit hrest, if_neg n.nonempty]

theorem exists_numeral {mode : Mode} {input m r : Text} {a : Tree}
    (h : digits.parseIn mode input = .success m r a) :
    ∃ n : Numeral, n.digits ++ r = input := by
  rw [parseIn_digits] at h
  split at h
  next => exact nomatch h
  next hne =>
    obtain ⟨_, rfl, _⟩ := Outcome.success.inj h
    exact ⟨⟨_, hne, List.all_eq_true.mp List.all_takeWhile⟩, List.takeWhile_append_dropWhile⟩

/-! ### The numbers after the first one -/

/-- A number with a comma in front. -/
def further : Grammar Tree := (terminal [',']).andThen digits

/-- The value of a number with a comma in front. -/
def furtherValue (n : Numeral) : Tree := .pair (.text [',']) (.text n.digits)

theorem further_success (n : Numeral) {rest : Text} (hrest : ¬ rest.Starts Char.isDigit) :
    further.parseIn .strict (',' :: (n.digits ++ rest)) =
      .success (',' :: n.digits) rest (furtherValue n) :=
  andThen_of_success (terminal_success_iff.mpr ⟨rfl, rfl, rfl⟩)
    (parseIn_digits_numeral n hrest .strict)

theorem further_success_inv {input m r : Text} {a : Tree}
    (h : further.parseIn .strict input = .success m r a) :
    ∃ n : Numeral, ',' :: (n.digits ++ r) = input := by
  obtain ⟨_, _, _, _, _, hcomma, hdigits, _, _⟩ := andThen_success_iff.mp h
  obtain ⟨n, rfl⟩ := exists_numeral hdigits
  exact ⟨n, (terminal_success_iff.mp hcomma).1⟩

/-- What is written for numbers has the chain of them, up to the bracket. -/
theorem chain_commaed (more : List Numeral) (rest : Text) :
    ∃ links, Chain further (commaed more ++ ']' :: rest) links (']' :: rest) ∧
      links.map Link.value = more.map furtherValue := by
  induction more with
  | nil =>
    refine ⟨[], .nil ?_, rfl⟩
    rcases parseIn_strict_cases further (']' :: rest) with hno | ⟨_, _, _, hyes⟩
    · exact hno
    · obtain ⟨n, hn⟩ := further_success_inv hyes
      exact nomatch hn
  | cons n more ih =>
    obtain ⟨links, hchain, hvalues⟩ := ih
    have hstep := further_success n (not_starts_commaed more rest)
    refine ⟨⟨',' :: n.digits, commaed more ++ ']' :: rest, furtherValue n⟩ :: links, ?_, ?_⟩
    · rw [commaed_cons, List.cons_append, List.append_assoc]
      exact .cons hstep hchain
    · rw [List.map_cons, List.map_cons, hvalues]

/-- Whatever has a chain is what is written for some numbers. -/
theorem Chain.exists_commaed {input rest : Text} {links : List (Link Tree)}
    (h : Chain further input links rest) : ∃ more, commaed more ++ rest = input := by
  induction h with
  | nil => exact ⟨[], rfl⟩
  | cons hlink _ ih =>
    obtain ⟨n, hn⟩ := further_success_inv hlink
    obtain ⟨more, hmore⟩ := ih
    refine ⟨n :: more, ?_⟩
    rw [commaed_cons, List.cons_append, List.append_assoc, hmore, hn]

/-! ### The list -/

/-- The list without its listener. -/
def enclosed : Grammar Tree :=
  (((terminal ['[']).andThen digits).andThen (further.atLeast 0 rfl)).andThen (terminal [']'])

/-- The value that the listener is given. -/
def enclosedValue (n : Numeral) (more : List Numeral) : Tree :=
  .pair (.pair (.pair (.text ['[']) (.text n.digits)) (.list (more.map furtherValue))) (.text [']'])

theorem parseIn_numberList (input : Text) : numberList.parseIn .strict input =
    (enclosed.parseIn .strict input).withValue
      (match (enclosed.parseIn .strict input).value? with
        | some tree => .list (numbers tree)
        | none => .nothing) := by
  rw [parseIn_eq_attempt (g := enclosed) rfl]
  exact parseIn_listen enclosed _ .strict input

/-- The numbers are found in the value in their order, however many there are. -/
theorem numbers_enclosedValue (n : Numeral) (more : List Numeral) :
    numbers (enclosedValue n more) = (n :: more).map fun m => .text m.digits := by
  have hmore : (more.map furtherValue).filterMap second? = more.map fun m => .text m.digits := by
    rw [List.filterMap_map]
    exact congrFun List.filterMap_eq_map more
  show Tree.text n.digits :: (more.map furtherValue).filterMap second? = _
  rw [hmore]
  rfl

theorem parseIn_enclosed (n : Numeral) (more : List Numeral) (rest : Text) :
    enclosed.parseIn .strict (bracketed (n :: more) ++ rest) =
      .success (bracketed (n :: more)) rest (enclosedValue n more) := by
  obtain ⟨links, hchain, hvalues⟩ := chain_commaed more rest
  have hopening : (terminal ['['] : Grammar Tree).parseIn .strict (bracketed (n :: more) ++ rest) =
      .success ['['] (n.digits ++ (commaed more ++ ']' :: rest)) (.text ['[']) := by
    rw [bracketed_cons]
    exact parseIn_terminal ['['] _
  have hfirst := parseIn_digits_numeral n (not_starts_commaed more rest) .strict
  have hmore := hchain.parseIn_atLeast rfl 0 .strict
  rw [if_pos (Nat.zero_le _), hvalues] at hmore
  have hclosing : (terminal [']'] : Grammar Tree).parseIn .strict (']' :: rest) = _ :=
    parseIn_terminal [']'] rest
  have hall : enclosed.parseIn .strict (bracketed (n :: more) ++ rest) = _ :=
    andThen_of_success (andThen_of_success (andThen_of_success hopening hfirst) hmore) hclosing
  rw [hall, List.append_cancel_right (append_eq_of_success hall)]
  rfl

/-- Nothing but the numbers and what stands between them is taken. -/
theorem exists_bracketed {input m r : Text} {a : Tree}
    (h : enclosed.parseIn .strict input = .success m r a) :
    ∃ n more rest, bracketed (n :: more) ++ rest = input := by
  obtain ⟨_, _, _, _, _, hitems, hclosing, _, _⟩ := andThen_success_iff.mp h
  obtain ⟨_, rest, _, _, _, hopened, hmore, _, _⟩ := andThen_success_iff.mp hitems
  obtain ⟨_, _, _, _, _, hopening, hdigits, _, _⟩ := andThen_success_iff.mp hopened
  obtain ⟨hinput, _, _⟩ := terminal_success_iff.mp hopening
  obtain ⟨n, hn⟩ := exists_numeral hdigits
  have hitem : further.nullable = false := rfl
  obtain ⟨links, left, hchain⟩ := exists_chain hitem rest
  rw [hchain.parseIn_atLeast rfl, if_pos (Nat.zero_le _)] at hmore
  obtain ⟨_, hleft, _⟩ := Outcome.success.inj hmore
  obtain ⟨more, hcommaed⟩ := hchain.exists_commaed
  refine ⟨n, more, r, ?_⟩
  rw [bracketed_cons, ← hinput, ← hn, ← hcommaed, hleft, ← (terminal_success_iff.mp hclosing).1]
  rfl

theorem parseIn_bracketed (n : Numeral) (more : List Numeral) (rest : Text) :
    numberList.parseIn .strict (bracketed (n :: more) ++ rest) =
      .success (bracketed (n :: more)) rest (.list ((n :: more).map fun m => .text m.digits)) := by
  rw [parseIn_numberList, parseIn_enclosed]
  show Outcome.success _ rest (Tree.list (numbers (enclosedValue n more))) = _
  rw [numbers_enclosedValue]

/-- **The list of numbers is what is written for numbers in brackets.** It is accepted just where
one number or more, in brackets and with commas between them, stand at the front. All of that is
matched, whatever comes behind it remains, and the value lists the numbers. -/
theorem numberList_language :
    (∀ input, (numberList.parseIn .strict input).isSuccess = true ↔
      ∃ n more rest, bracketed (n :: more) ++ rest = input) ∧
    ∀ n more rest, numberList.parseIn .strict (bracketed (n :: more) ++ rest) =
      .success (bracketed (n :: more)) rest (.list ((n :: more).map fun m => .text m.digits)) := by
  refine ⟨fun input => ⟨fun hs => ?_, ?_⟩, parseIn_bracketed⟩
  · rw [parseIn_numberList, Outcome.isSuccess_withValue] at hs
    rcases parseIn_strict_cases enclosed input with hno | ⟨_, _, _, hyes⟩
    · rw [hno] at hs
      exact nomatch hs
    · exact exists_bracketed hyes
  · rintro ⟨n, more, rest, rfl⟩
    rw [parseIn_bracketed]
    rfl

/-- An empty list is none, and neither is one with a comma behind its last number. -/
example : numberList.parseIn .strict "[]".toList = .failure "[]".toList ∧
    numberList.parseIn .strict "[1,]".toList = .failure "[1,]".toList := by
  decide +kernel

end Peg.Grammar
