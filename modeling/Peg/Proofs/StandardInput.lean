import Peg.CommandLine.Session
import Peg.Proofs.Token

/-! A text as an argument, and on standard input.

The command takes the text to parse from its argument or, if there is none, from
standard input. Line feeds at the end of standard input do not count
(`inputText?_utf8`), and nothing else that the command does looks at where the text
came from (`session_congr`). So it is all one which way a text is given that does not
end in a line feed itself (`session_stdin_agrees`).

What reports are compared by are the entries of the log, not the lines that come of
them: those also show the time, which is up to the layout. -/
namespace Peg

namespace Text

/-- The bytes of the UTF-8 form. -/
def utf8 (s : Text) : ByteArray := (String.ofList s).toUTF8

theorem decode?_utf8 (s : Text) : decode? s.utf8 = some s := by
  have hvalid : String.fromUTF8? s.utf8 = some (String.ofList s) :=
    dif_pos (String.ofList s).isValidUTF8
  rw [decode?, hvalid, Option.map_some, String.toList_ofList]

end Text

namespace CommandLine
open Text

variable {s : Text}

/-- All line feeds at the end are dropped, and nothing before them. -/
theorem trimEnd_append_replicate (h : s.getLast? ≠ some '\n') (k : Nat) :
    trimEnd (s ++ List.replicate k '\n') = s := by
  have hfeeds : ∀ c ∈ List.replicate k '\n', (c == '\n') = true := by
    intro c hc
    rw [List.eq_of_mem_replicate hc]
    rfl
  have hrest : ¬ Starts (· == '\n') s.reverse := by
    rintro ⟨c, front, hs, hc⟩
    rw [List.getLast?_eq_head?_reverse, hs, List.head?_cons, eq_of_beq hc] at h
    exact h rfl
  unfold trimEnd
  rw [List.reverse_append, List.reverse_replicate, dropWhile_front hfeeds hrest,
    List.reverse_reverse]

theorem inputText?_utf8 (options : Options) (hnone : options.input = none)
    (h : s.getLast? ≠ some '\n') (k : Nat) :
    inputText? options (utf8 (s ++ List.replicate k '\n')) = some s := by
  unfold inputText?
  rw [hnone]
  show (decode? _).map trimEnd = _
  rw [decode?_utf8, Option.map_some, trimEnd_append_replicate h]

/-- Two runs with the same options that come by the same text, whichever way, are the same. -/
theorem session_congr {options : Options} {input input' : Option Text} {stdin stdin' : ByteArray}
    (h : inputText? { options with input := input } stdin =
      inputText? { options with input := input' } stdin') (setting : Option Text) :
    session { options with input := input } stdin setting =
      session { options with input := input' } stdin' setting := by
  have hperform (filter : Filter) : perform { options with input := input } stdin filter =
      perform { options with input := input' } stdin' filter := by
    unfold perform
    rw [h]
    rfl
  let setting := effectiveSetting options.verbose setting
  exact congrArg (fun report : Report =>
    { report with messages := (Filter.complaints setting).map Message.said ++ report.messages })
    (hperform _)

/-- **It is all one whether a text is given as an argument or on standard input.** For every setting
of the other options and of the log, and every text that does not end in a line feed, the run with
the text on standard input, with any number of line feeds behind it, exits with the same code and
writes the same as the run with the text as its argument, whatever is on standard input there; so do
any two commands whose arguments are read as these options. The same texts and the same entries of
the log come to standard error in the same order. Its lines are therefore the same in every layout,
that is, if the same time and the same colours go with the first entry in both runs, with the second
one, and so on. -/
theorem session_stdin_agrees (options : Options) (h : s.getLast? ≠ some '\n') (k : Nat)
    (stdin : ByteArray) (setting : Option Text) :
    let piped := utf8 (s ++ List.replicate k '\n')
    session { options with input := none } piped setting =
      session { options with input := some s } stdin setting ∧
    ∀ arguments arguments',
      read {} arguments = .ok (.session { options with input := none }) →
      read {} arguments' = .ok (.session { options with input := some s }) →
      command arguments piped setting = command arguments' stdin setting ∧
      ∀ layout : Layout, (command arguments piped setting).errorLinesIn layout =
        (command arguments' stdin setting).errorLinesIn layout := by
  intro piped
  have hsession : session { options with input := none } piped setting =
      session { options with input := some s } stdin setting :=
    session_congr (inputText?_utf8 { options with input := none } rfl h k) setting
  refine ⟨hsession, fun arguments arguments' hread hread' => ?_⟩
  have hcommand : command arguments piped setting = command arguments' stdin setting := by
    unfold command
    rw [hread, hread']
    exact hsession
  exact ⟨hcommand, fun layout => by rw [hcommand]⟩

/-- Two line feeds behind a text that has one in it; the log is shown, and its entries are numbered
in place of the time. -/
theorem session_stdin_agrees_greeting :
    let arguments := ["-vg".toList, "greeting".toList]
    let piped := command arguments (utf8 ("oh\nhi bob".toList ++ List.replicate 2 '\n')) none
    let given := command (arguments ++ ["oh\nhi bob".toList]) .empty none
    let numbered : Layout := fun n entry => numeral n ++ ' ' :: Layout.plain n entry
    piped = given ∧ piped.errorLinesIn numbered = given.errorLinesIn numbered ∧
      given.exit = 0 ∧ given.messages ≠ [] := by
  intro arguments piped given numbered
  let options : Options := { grammar := some "greeting".toList, verbose := true }
  have hagrees := session_stdin_agrees (s := "oh\nhi bob".toList) options (by decide) 2 .empty none
  obtain ⟨hreport, hlines⟩ := hagrees.2 arguments (arguments ++ ["oh\nhi bob".toList]) rfl rfl
  exact ⟨hreport, hlines numbered, by decide +kernel, by decide +kernel⟩

end CommandLine

end Peg
