import Peg.Proofs.Skipping
import Peg.Proofs.Unquoting

/-! The text that was parsed, read back from what was printed.

A quoted text is printable, so it has no line end in it and what a run prints comes apart
into its lines (`lines_outcomeText`), whatever the parts are: one that imitates a label
stands in its quotes. Unquoted and joined, the parts are the text that was parsed
(`parsed?_outcomeText`), for a run divides its input. Only the first label is looked for,
since nothing else tells whether something was skipped. -/
namespace Peg

/-! ### Lines -/

namespace Text

variable {s rest : Text}

theorem linesFrom_append (h : '\n' ∉ s) (read : Text) :
    linesFrom read (s ++ rest) = linesFrom (s.reverse ++ read) rest := by
  induction s generalizing read with
  | nil => rfl
  | cons c s ih =>
    rw [List.mem_cons, not_or] at h
    obtain ⟨hc, hs⟩ := h
    have hne : c ≠ '\n' := Ne.symm hc
    rw [List.reverse_cons, List.append_assoc, List.singleton_append, ← ih hs (c :: read)]
    simp only [List.cons_append, linesFrom]

/-- Without a carriage return at the end, nothing of a line is dropped. -/
theorem closeLine_reverse (h : '\r' ∉ s) : closeLine s.reverse = s := by
  unfold closeLine
  split
  next read heq =>
    have hmem : '\r' ∈ s.reverse := heq ▸ List.mem_cons_self
    exact absurd (List.mem_reverse.mp hmem) h
  next => exact List.reverse_reverse s

/-- What is printable is all on one line. -/
theorem lines_printable (h : Printable s) : lines (s ++ '\n' :: rest) = s :: lines rest := by
  have hfeed : '\n' ∉ s := h.not_mem (by decide +kernel)
  have hreturn : '\r' ∉ s := h.not_mem (by decide +kernel)
  unfold lines
  rw [linesFrom_append hfeed, List.append_nil]
  show closeLine s.reverse :: linesFrom [] rest = _
  rw [closeLine_reverse hreturn]

end Text

namespace CommandLine
open Grammar.ReadyMade Text

/-! ### The reader -/

/-- What the line has in quotes behind a label. -/
def labelled? (label s : Text) : Option Text :=
  if label.isPrefixOf s then unquote? (s.drop label.length) else none

/-- What was skipped, and behind it what the first two lines say. -/
def joined? (skipped : Text) : List Text → Option Text
  | first :: second :: _ => do
    let matched ← labelled? "matched:   ".toList first
    let remaining ← labelled? "remaining: ".toList second
    some (skipped ++ (matched ++ remaining))
  | _ => none

/-- The text that was parsed, put together from the parts that were printed. -/
def parsed? (stdout : Text) : Option Text :=
  match lines stdout with
  | [] => none
  | first :: rest =>
    match labelled? "skipped:   ".toList first with
    | some skipped => joined? skipped rest
    | none => joined? [] (first :: rest)

theorem labelled?_quote (label s : Text) : labelled? label (label ++ s.quote) = some s := by
  have hprefix : label.isPrefixOf (label ++ s.quote) = true :=
    List.isPrefixOf_iff_prefix.mpr (List.prefix_append label _)
  unfold labelled?
  rw [if_pos hprefix, List.drop_left]
  exact unquote?_eq_some_iff.mpr rfl

theorem joined?_quotes (skipped matched remaining : Text) (more : List Text) :
    joined? skipped (("matched:   ".toList ++ matched.quote) ::
      ("remaining: ".toList ++ remaining.quote) :: more) =
        some (skipped ++ (matched ++ remaining)) := by
  simp only [joined?, labelled?_quote]
  rfl

/-! ### What is printed, line by line -/

/-- A label with a quoted text behind it is a line. -/
theorem lines_quoted {label : Text} (h : Printable label) (s rest : Text) :
    lines (line (label ++ s.quote) ++ rest) = (label ++ s.quote) :: lines rest := by
  unfold line
  rw [List.append_assoc]
  exact lines_printable (printable_append.mpr ⟨h, printable_quote s⟩)

/-- The first lines of what is printed of a match: what was skipped, if anything, what was matched
and what remains. -/
theorem lines_outcomeText (o : Outcome Tree) : ∃ more, lines (outcomeText o) =
    (if o.isPartial then ["skipped:   ".toList ++ o.skipped.quote] else []) ++
      ("matched:   ".toList ++ o.matched.quote) :: ("remaining: ".toList ++ o.remaining.quote) ::
        more := by
  obtain ⟨rest, hrest⟩ : ∃ rest, outcomeText o =
      (if o.isPartial then line ("skipped:   ".toList ++ o.skipped.quote) else []) ++
        (line ("matched:   ".toList ++ o.matched.quote) ++
          (line ("remaining: ".toList ++ o.remaining.quote) ++ rest)) :=
    ⟨_, by rw [outcomeText, List.append_assoc, List.append_assoc]⟩
  have hmatch : lines (line ("matched:   ".toList ++ o.matched.quote) ++
      (line ("remaining: ".toList ++ o.remaining.quote) ++ rest)) =
        ("matched:   ".toList ++ o.matched.quote) ::
          ("remaining: ".toList ++ o.remaining.quote) :: lines rest := by
    rw [lines_quoted (by decide +kernel), lines_quoted (by decide +kernel)]
  refine ⟨lines rest, ?_⟩
  rw [hrest]
  split
  · rw [lines_quoted (by decide +kernel), hmatch]
    rfl
  · exact hmatch

/-- **The parts that were printed are found again**, and make up what was divided. -/
theorem parsed?_outcomeText (o : Outcome Tree) :
    parsed? (outcomeText o) = some (o.skipped ++ (o.matched ++ o.remaining)) := by
  obtain ⟨more, hlines⟩ := lines_outcomeText o
  unfold parsed?
  rw [hlines]
  cases o with
  | partialSuccess p m r tree =>
    show (match labelled? "skipped:   ".toList ("skipped:   ".toList ++ p.quote) with
      | some skipped => joined? skipped _
      | none => _) = _
    rw [labelled?_quote]
    exact joined?_quotes p m r more
  | success m r tree => exact joined?_quotes [] m r more
  | failure r => exact joined?_quotes [] [] r more

/-! ### Runs that succeed -/

theorem exit_parseReport (options : Options) (filter : Filter) (grammar : Grammar Tree)
    (input : Text) : (parseReport options filter grammar input).exit =
      if (grammar.parseIn options.mode input).isSuccess then 0 else 1 := by
  show (if (grammar.parseIn options.mode input).isSuccess then _ else _ : Report).exit = _
  split <;> rfl

/-- What a parse printed is the text that it was given, if it succeeded. -/
theorem parsed?_parseReport {options : Options} {filter : Filter} {grammar : Grammar Tree}
    {input : Text} (h : (parseReport options filter grammar input).exit = 0) :
    parsed? (parseReport options filter grammar input).stdout = some input := by
  have hparts : Partitions options.mode input (grammar.parseIn options.mode input) :=
    grammar.expr.run_partitioning options.mode input
  rw [exit_parseReport] at h
  rw [stdout_parseReport]
  split at h
  next hs => rw [if_pos hs, parsed?_outcomeText, hparts.parts]
  next => exact nomatch h

/-- A run that parses and exits with 0 had a text to parse, and printed all of it. -/
theorem parsed?_session {options : Options} {stdin : ByteArray} {setting : Option Text}
    (hlist : options.list = false) (h : (session options stdin setting).exit = 0) :
    ∃ input, inputText? options stdin = some input ∧
      parsed? (session options stdin setting).stdout = some input := by
  change (perform options stdin _).exit = 0 at h
  show ∃ input, _ ∧ parsed? (perform options stdin _).stdout = some input
  unfold perform at h ⊢
  rw [if_neg (ne_true_of_eq_false hlist)] at h ⊢
  cases hgrammar : catalogue.lookup options.grammarName with
  | none =>
    rw [hgrammar] at h
    exact nomatch h
  | some grammar =>
    cases hinput : inputText? options stdin with
    | none =>
      rw [hgrammar, hinput] at h
      exact nomatch h
    | some input =>
      rw [hgrammar, hinput] at h
      exact ⟨input, rfl, parsed?_parseReport h⟩

/-- **What a successful run prints determines what it parsed.** Whatever the grammar, the mode and
the log setting, a run that parses and exits with 0 had a text to parse, and this is what the lines
for the skipped, the matched and the remaining part spell, unquoted and joined. So two such runs
that print the same have parsed the same. -/
theorem stdout_determines_input (options options' : Options) (stdin stdin' : ByteArray)
    (setting setting' : Option Text)
    (hlist : options.list = false) (hexit : (session options stdin setting).exit = 0)
    (hlist' : options'.list = false) (hexit' : (session options' stdin' setting').exit = 0) :
    (∃ input, inputText? options stdin = some input ∧
      parsed? (session options stdin setting).stdout = some input) ∧
    ((session options stdin setting).stdout = (session options' stdin' setting').stdout →
      inputText? options stdin = inputText? options' stdin') := by
  obtain ⟨input, hinput, hparsed⟩ := parsed?_session hlist hexit
  obtain ⟨input', hinput', hparsed'⟩ := parsed?_session hlist' hexit'
  refine ⟨⟨input, hinput, hparsed⟩, fun hstdout => ?_⟩
  rw [hinput, hinput', ← hparsed, ← hparsed', hstdout]

/-- The skipped part imitates a line of the output. The other run has its log shown. -/
theorem stdout_determines_input_labels :
    let input := "\"\nmatched:   \"\" hi bob\n".toList
    let options : Options := { input := some input, grammar := some "greeting".toList }
    let loud : Options := { options with verbose := true }
    (session options .empty none).stdout =
      ("skipped:   \"\\\"\\nmatched:   \\\"\\\" \"\nmatched:   \"hi bob\"\n" ++
        "remaining: \"\\n\"\nast:       \"bob\"\n").toList ∧
    (session loud .empty none).stdout = (session options .empty none).stdout ∧
    parsed? (session loud .empty none).stdout = some input ∧
    inputText? loud .empty = inputText? options .empty := by
  intro input options loud
  have hsame : (session loud .empty none).stdout = (session options .empty none).stdout := by
    decide +kernel
  obtain ⟨⟨_, ⟨⟩, hparsed⟩, hinput⟩ := stdout_determines_input loud options .empty .empty none none
    rfl (by decide +kernel) rfl (by decide +kernel)
  exact ⟨by decide +kernel, hsame, hparsed, hinput hsame⟩

end CommandLine

end Peg
