import Peg.Proofs.Found
import Peg.Proofs.Printed

/-! What the command says about skipping.

Where a strict parse fails and a lenient one would not, the command says that a match
exists only after skipping input. For the ready-made grammars this is true to the
letter: the lenient match skips something, and without just that text the strict
parse succeeds, with the same value (`skipping_message_truthful`). All of them are
locatable: the tokens are anchored, a list of numbers begins with its bracket, and
neither of the two words of a greeting begins with the other.

The message is printed in no other case, whatever a run prints. It rings the bell,
and what is quoted does not. -/
namespace Peg

/-! ### The ready-made grammars -/

namespace Grammar
open ReadyMade

theorem locatable_digits : digits.expr.Locatable := .anchored rfl

theorem locatable_identifier : identifier.expr.Locatable := .anchored rfl

theorem locatable_keyword (word : Text) : (keyword word).expr.Locatable :=
  .notAhead nofun (.terminal nofun)

theorem locatable_numberList : numberList.expr.Locatable := by
  refine .production ?_ (.sequence nofun (.sequence nofun (.sequence nofun (.terminal nofun) rfl)
    rfl) rfl)
  rintro _ ⟨⟩ p m r a
  cases p <;> rfl

theorem locatable_greeting : greeting.expr.Locatable := by
  have hapart : (keyword "hello".toList).first.Apart (keyword "hi".toList).first := by
    decide +kernel
  have hword : ((keyword "hello".toList).orElse (keyword "hi".toList)).expr.Locatable :=
    .choice nofun (locatable_keyword _) (locatable_keyword _) rfl rfl hapart
  refine .production ?_ (.sequence nofun (.sequence nofun hword rfl) rfl)
  rintro _ ⟨⟩ p m r a
  cases p <;> rfl

theorem locatable_catalogue : ∀ entry ∈ catalogue, entry.2.expr.Locatable := by
  intro entry hentry
  simp only [catalogue, List.mem_cons, List.not_mem_nil, or_false] at hentry
  rcases hentry with rfl | rfl | rfl | rfl
  · exact locatable_digits
  · exact locatable_greeting
  · exact locatable_identifier
  · exact locatable_numberList

/-- A lenient match that the strict parse misses has skipped what stood in its way. -/
theorem exists_skipped [TreeLike α] {g : Grammar α} (h : g.expr.Locatable) {input : Text}
    (hstrict : (g.parseIn .strict input).isSuccess = false) (hnone : g.diagnose input = none) :
    ∃ skipped matched remaining value,
      g.parse input = .partialSuccess skipped matched remaining value ∧ skipped ≠ [] ∧
      skipped ++ (matched ++ remaining) = input ∧
      g.parseIn .strict (matched ++ remaining) = .success matched remaining value := by
  have hsuccess := diagnose_eq_none.mp hnone
  have hparts : Partitions .lenient input (g.parse input) := g.parseIn_partitions .lenient input
  generalize hparse : g.parse input = o at hsuccess hparts
  cases hparts with
  | success hinput =>
    have hfound := parseIn_strict_of_parse h (p := []) hparse
    rw [hinput] at hfound
    rw [hfound] at hstrict
    exact nomatch hstrict
  | partialSuccess hinput _ hne _ =>
    refine ⟨_, _, _, _, rfl, hne, hinput, ?_⟩
    apply parseIn_strict_of_parse h
    rw [hparse, Outcome.ofParts_of_ne_nil hne]
  | failure => exact nomatch hsuccess

end Grammar

/-! ### What is printed -/

namespace CommandLine
open Grammar.ReadyMade Text

variable {s t label : Text}

/-- The bell is not rung. -/
def Quiet (s : Text) : Prop := '\x07' ∉ s

instance (s : Text) : Decidable (Quiet s) := inferInstanceAs (Decidable (¬ '\x07' ∈ s))

theorem Quiet.append (hs : Quiet s) (ht : Quiet t) : Quiet (s ++ t) := by
  intro h
  rcases List.mem_append.mp h with h | h
  · exact hs h
  · exact ht h

theorem quiet_of_printable (h : Printable s) : Quiet s := h.not_mem (by decide +kernel)

/-- A line of a fixed label and something printable. -/
theorem quiet_line (hl : Quiet label) (h : Printable s) : Quiet (line (label ++ s)) :=
  (hl.append (quiet_of_printable h)).append (by decide)

theorem quiet_valueText (tree : Tree) : Quiet (valueText tree) := by
  have hvalue : Quiet (line ("ast:       ".toList ++ tree.render)) :=
    quiet_line (by decide +kernel) tree.printable_render
  unfold valueText
  apply hvalue.append
  split
  · exact List.not_mem_nil
  · exact quiet_line (by decide +kernel) (printable_quote _)

theorem quiet_outcomeText (o : Outcome Tree) : Quiet (outcomeText o) := by
  have hmatched : Quiet (line ("matched:   ".toList ++ o.matched.quote)) :=
    quiet_line (by decide +kernel) (printable_quote _)
  have hremaining : Quiet (line ("remaining: ".toList ++ o.remaining.quote)) :=
    quiet_line (by decide +kernel) (printable_quote _)
  unfold outcomeText
  refine ((Quiet.append ?_ hmatched).append hremaining).append ?_
  · split
    · exact quiet_line (by decide +kernel) (printable_quote _)
    · exact List.not_mem_nil
  · split
    · exact quiet_valueText _
    · exact List.not_mem_nil

/-- What is printed holds the message about skipping. -/
def SpeaksOfSkipping (stdout : Text) : Prop := noMatchText none <:+: stdout

theorem Quiet.not_speaksOfSkipping (h : Quiet s) : ¬ SpeaksOfSkipping s :=
  fun hinfix => h (List.IsInfix.subset hinfix List.mem_cons_self)

/-- The message about what was expected is another one. -/
theorem not_speaksOfSkipping_expected (expected : LiteralSet) :
    ¬ SpeaksOfSkipping (noMatchText (some expected)) := by
  obtain ⟨tail, htail⟩ : ∃ tail, expected.expectation = 'e' :: tail := by
    unfold LiteralSet.expectation
    split <;> exact ⟨_, rfl⟩
  have hquiet : Quiet (line ("NO MATCH: ".toList ++ expected.expectation)) :=
    quiet_line (by decide +kernel) expected.printable_expectation
  rintro ⟨front, back, h⟩
  cases front with
  | nil =>
    -- both messages begin alike, up to the first letter of the reason
    have hletter := congrArg (fun s : Text => s[11]?) h
    simp only [noMatchText, htail] at hletter
    exact nomatch hletter
  | cons c front =>
    have hrest : front ++ noMatchText none ++ back =
        line ("NO MATCH: ".toList ++ expected.expectation) := (List.cons.inj h).2
    apply hquiet
    rw [← hrest]
    exact List.mem_append_left _ (List.mem_append_right _ List.mem_cons_self)

/-- The mode that the options ask for. -/
def Options.mode (options : Options) : Mode := if options.strict then .strict else .lenient

theorem stdout_parseReport (options : Options) (filter : Filter) (grammar : Grammar Tree)
    (input : Text) : (parseReport options filter grammar input).stdout =
      if (grammar.parseIn options.mode input).isSuccess then
        outcomeText (grammar.parseIn options.mode input)
      else noMatchText (grammar.diagnose input) := by
  show (if (grammar.parseIn options.mode input).isSuccess then _ else _ : Report).stdout = _
  split <;> rfl

/-- The message stands for a strict parse that fails where a lenient one would not. -/
theorem parseReport_speaks_iff {options : Options} {filter : Filter} {grammar : Grammar Tree}
    {input : Text} : SpeaksOfSkipping (parseReport options filter grammar input).stdout ↔
      options.strict = true ∧ (grammar.parseIn .strict input).isSuccess = false ∧
        grammar.diagnose input = none := by
  rw [stdout_parseReport]
  cases hstrict : options.strict with
  | true =>
    have hmode : options.mode = .strict := if_pos hstrict
    rw [hmode]
    split
    next hs =>
      apply iff_of_false (quiet_outcomeText _).not_speaksOfSkipping
      intro h
      exact nomatch h.2.1.symm.trans hs
    next hs =>
      cases hdiagnosed : grammar.diagnose input with
      | none => exact iff_of_true List.infix_rfl ⟨rfl, eq_false_of_ne_true hs, rfl⟩
      | some expected =>
        apply iff_of_false (not_speaksOfSkipping_expected expected)
        intro h
        exact nomatch h.2.2
  | false =>
    have hmode : options.mode = .lenient := if_neg (ne_true_of_eq_false hstrict)
    rw [hmode]
    apply iff_of_false
    · split
      next => exact (quiet_outcomeText _).not_speaksOfSkipping
      next hs =>
        have hexpected : grammar.diagnose input = some grammar.first := if_neg hs
        rw [hexpected]
        exact not_speaksOfSkipping_expected grammar.first
    · intro h
      exact nomatch h.1

theorem session_speaks_iff {options : Options} {stdin : ByteArray} {setting : Option Text} :
    SpeaksOfSkipping (session options stdin setting).stdout ↔
      options.strict = true ∧ options.list = false ∧ ∃ grammar input,
        catalogue.lookup options.grammarName = some grammar ∧
        inputText? options stdin = some input ∧
        (grammar.parseIn .strict input).isSuccess = false ∧ grammar.diagnose input = none := by
  have hempty : ¬ SpeaksOfSkipping [] := Quiet.not_speaksOfSkipping List.not_mem_nil
  show SpeaksOfSkipping (perform options stdin _).stdout ↔ _
  unfold perform
  split
  next hlist =>
    have hquiet : Quiet catalogueText := by decide +kernel
    apply iff_of_false hquiet.not_speaksOfSkipping
    intro h
    exact nomatch h.2.1.symm.trans hlist
  next hlist =>
    cases hgrammar : catalogue.lookup options.grammarName with
    | none =>
      apply iff_of_false hempty
      rintro ⟨_, _, _, _, hno, _⟩
      exact nomatch hno
    | some grammar =>
      dsimp only
      cases hinput : inputText? options stdin with
      | none =>
        apply iff_of_false hempty
        rintro ⟨_, _, _, _, _, hno, _⟩
        exact nomatch hno
      | some input =>
        show SpeaksOfSkipping (parseReport options _ grammar input).stdout ↔ _
        rw [parseReport_speaks_iff]
        constructor
        · rintro ⟨hstrict, hfails, hnone⟩
          exact ⟨hstrict, eq_false_of_ne_true hlist, grammar, input, rfl, rfl, hfails, hnone⟩
        · rintro ⟨hstrict, _, _, _, ⟨⟩, ⟨⟩, hfails, hnone⟩
          exact ⟨hstrict, hfails, hnone⟩

/-! ### The message is true -/

/-- **What the command says about skipping is true of the ready-made grammars.** Leniently, each of
them finds what it finds strictly once the skipped text is dropped, with the same value. So where a
strict parse fails and there is nothing to diagnose, something was skipped, and without it the
strict parse succeeds. These are the runs in which the message is printed, and there are no others;
without the option for strict parsing it never is. -/
theorem skipping_message_truthful :
    (∀ entry ∈ catalogue, ∀ input,
      ((entry.2.parse input).isSuccess = true → ∃ skipped matched remaining value,
        entry.2.parse input = .ofParts skipped matched remaining value ∧
        skipped ++ (matched ++ remaining) = input ∧
        entry.2.parseIn .strict (matched ++ remaining) = .success matched remaining value) ∧
      ((entry.2.parseIn .strict input).isSuccess = false → entry.2.diagnose input = none →
        ∃ skipped matched remaining value,
          entry.2.parse input = .partialSuccess skipped matched remaining value ∧ skipped ≠ [] ∧
          skipped ++ (matched ++ remaining) = input ∧
          entry.2.parseIn .strict (matched ++ remaining) = .success matched remaining value)) ∧
    ∀ options stdin setting, SpeaksOfSkipping (session options stdin setting).stdout ↔
      options.strict = true ∧ options.list = false ∧ ∃ grammar input,
        catalogue.lookup options.grammarName = some grammar ∧
        inputText? options stdin = some input ∧
        (grammar.parseIn .strict input).isSuccess = false ∧ grammar.diagnose input = none := by
  refine ⟨fun entry hentry input => ⟨fun hs => ?_, fun hstrict hnone => ?_⟩, fun _ _ _ => ?_⟩
  · have hparts : Partitions .lenient input (entry.2.parse input) :=
      entry.2.expr.run_partitioning .lenient input
    obtain ⟨value, hparse⟩ := hparts.exists_ofParts hs
    have hfound := Grammar.parseIn_strict_of_parse (Grammar.locatable_catalogue entry hentry) hparse
    exact ⟨_, _, _, value, hparse, hparts.parts, hfound⟩
  · exact Grammar.exists_skipped (Grammar.locatable_catalogue entry hentry) hstrict hnone
  · exact session_speaks_iff

/-- A greeting behind another word: the strict run says that there is one, and there is. -/
theorem skipping_message_truthful_greeting :
    let options : Options := { input := some "oh hi bob!".toList,
                               grammar := some "greeting".toList, strict := true }
    SpeaksOfSkipping (session options .empty none).stdout ∧
    ¬ SpeaksOfSkipping (session { options with strict := false } .empty none).stdout ∧
    greeting.parse "oh hi bob!".toList =
      .partialSuccess "oh ".toList "hi bob".toList ['!'] (.text "bob".toList) ∧
    greeting.parseIn .strict "hi bob!".toList =
      .success "hi bob".toList ['!'] (.text "bob".toList) := by
  intro options
  obtain ⟨hfound, hspeaks⟩ := skipping_message_truthful
  have hstrict : (greeting.parseIn .strict "oh hi bob!".toList).isSuccess = false := by
    decide +kernel
  have hnone : greeting.diagnose "oh hi bob!".toList = none := by decide +kernel
  have hparse : greeting.parse "oh hi bob!".toList =
      .partialSuccess "oh ".toList "hi bob".toList ['!'] (.text "bob".toList) := by
    decide +kernel
  obtain ⟨_, _, _, _, hskipped, _, _, hbehind⟩ :=
    (hfound ("greeting".toList, greeting) (by simp [catalogue]) _).2 hstrict hnone
  obtain ⟨rfl, rfl, rfl, rfl⟩ := Outcome.partialSuccess.inj (hparse.symm.trans hskipped)
  refine ⟨?_, ?_, hparse, hbehind⟩
  · exact (hspeaks options .empty none).mpr ⟨rfl, rfl, greeting, _, rfl, rfl, hstrict, hnone⟩
  · intro hspeaks'
    exact nomatch ((hspeaks _ .empty none).mp hspeaks').1

end CommandLine

end Peg
