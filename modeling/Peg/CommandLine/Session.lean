import Peg.CommandLine.Log
import Peg.CommandLine.Options
import Peg.Diagnosis
import Peg.Grammar.ReadyMade
import Peg.Text.Lines

/-! A run of the command.

The command parses one text with a ready-made grammar and tells how the text was
divided and what value came of it, or what was expected. Everything it does is a
function of its arguments, the bytes on standard input and the log setting; only how
the entries of the log are written is not, and is given by a layout. -/
namespace Peg.CommandLine
open Grammar.ReadyMade (catalogue)

/-- What is written to standard error: a text as it is, or an entry of the log. -/
inductive Message where
  | said (text : Text)
  | logged (entry : LogEntry)
deriving DecidableEq

/-- Exit code, standard output, and what is written to standard error. -/
structure Report where
  exit : Nat
  stdout : Text
  messages : List Message
deriving DecidableEq

/-- A text with a line feed after it. -/
def line (s : Text) : Text := s ++ ['\n']

/-- Messages as they are written after `count` entries of the log. -/
def written (layout : Layout) : Nat → List Message → Text
  | _, [] => []
  | count, .said text :: rest => line text ++ written layout count rest
  | count, .logged entry :: rest => line (layout count entry) ++ written layout (count + 1) rest

/-- Standard error, with the entries of the log in the given layout. -/
def Report.stderr (layout : Layout) (r : Report) : Text := written layout 0 r.messages

def Report.errorLinesIn (layout : Layout) (r : Report) : List Text := Text.lines (r.stderr layout)

/-- The lines on standard error, without the time and the colours of the entries of the log. -/
def Report.errorLines (r : Report) : List Text := r.errorLinesIn .plain

/-! ### Fixed texts -/

def versionText : Text := program ++ " 0.1.0\n".toList

def helpText : Text :=
  "A backtracking PEG parser-combinator engine with semantic actions.\n\n".toList ++
  "Usage: vernac [OPTIONS] [INPUT]\n\n".toList ++
  "Arguments:\n".toList ++
  "  [INPUT]  Text to parse (read from stdin when absent)\n\n".toList ++
  "Options:\n".toList ++
  "  -g, --grammar <GRAMMAR>  Built-in grammar to run [default: list]\n".toList ++
  "  -s, --strict             Forbid skipping leading input\n".toList ++
  "  -l, --list               List the built-in grammars and exit\n".toList ++
  "  -v, --verbose            Trace every node visited\n".toList ++
  "  -h, --help               Print help\n".toList ++
  "  -V, --version            Print version\n".toList

/-! ### What is printed -/

def catalogueText : Text := catalogue.flatMap fun entry => line entry.1

def unknownGrammar (name : Text) : Text :=
  "Error: Unknown grammar '".toList ++ name ++ "'. Available: ".toList ++
    ", ".toList.intercalate (catalogue.map Prod.fst) ++ ['.']

def unreadableInput : List Text :=
  ["Error: Failed to read stdin".toList, [], "Caused by:".toList,
    "    stream did not contain valid UTF-8".toList]

/-- The value, and below it its text, unless it is nothing else. -/
def valueText (tree : Tree) : Text :=
  line ("ast:       ".toList ++ tree.render) ++
    match tree.asText? with
    | some _ => []
    | none => line ("text:      ".toList ++ tree.flatten.quote)

def outcomeText (outcome : Outcome Tree) : Text :=
  (if outcome.isPartial then line ("skipped:   ".toList ++ outcome.skipped.quote) else []) ++
    line ("matched:   ".toList ++ outcome.matched.quote) ++
    line ("remaining: ".toList ++ outcome.remaining.quote) ++
    match outcome.value? with
    | some tree => valueText tree
    | none => []

def noMatchText (expected? : Option LiteralSet) : Text :=
  line ("\x07NO MATCH: ".toList ++
    match expected? with
    | some expected => expected.expectation
    | none => "a match exists only after skipping input".toList)

/-! ### The run -/

/-- The setting that holds: with `verbose` everything of the program is shown. -/
def effectiveSetting (verbose : Bool) (setting : Option Text) : Text :=
  if verbose then program ++ "=trace".toList else setting.getD []

/-- The visits of a run, if the filter shows them. -/
def visitLog {β : Type} (filter : Filter) (run : Recorded (Entry Tree) β) : List Message :=
  if filter.shows visitOrigin then run.events.map fun e => .logged (visitEntry e) else []

/-- The grammar that is about to run, if the filter shows it. -/
def builtLog (filter : Filter) (name : Text) (grammar : Grammar Tree) : List Message :=
  if filter.shows builtOrigin then [.logged (builtEntry name grammar.render)] else []

/-- Line feeds at the end are dropped. -/
def trimEnd (s : Text) : Text := (s.reverse.dropWhile (· == '\n')).reverse

/-- The text to parse: the argument, or standard input without the line feeds at its end. -/
def inputText? (options : Options) (stdin : ByteArray) : Option Text :=
  match options.input with
  | some input => some input
  | none => (Text.decode? stdin).map trimEnd

def parseReport (options : Options) (filter : Filter) (grammar : Grammar Tree) (input : Text) :
    Report :=
  let run := grammar.run (if options.strict then .strict else .lenient) input
  if run.result.isSuccess then ⟨0, outcomeText run.result, visitLog filter run⟩
  else
    let examined := grammar.examine input
    ⟨1, noMatchText examined.result, visitLog filter run ++ visitLog filter examined⟩

/-- What follows once the log is set up. -/
def perform (options : Options) (stdin : ByteArray) (filter : Filter) : Report :=
  if options.list then ⟨0, catalogueText, []⟩
  else
    match catalogue.lookup options.grammarName with
    | none => ⟨1, [], [.said (unknownGrammar options.grammarName)]⟩
    | some grammar =>
      let built := builtLog filter options.grammarName grammar
      match inputText? options stdin with
      | none => ⟨1, [], built ++ unreadableInput.map .said⟩
      | some input =>
        let report := parseReport options filter grammar input
        { report with messages := built ++ report.messages }

def session (options : Options) (stdin : ByteArray) (setting : Option Text) : Report :=
  let setting := effectiveSetting options.verbose setting
  let report := perform options stdin (Filter.read setting)
  { report with messages := (Filter.complaints setting).map .said ++ report.messages }

/-- The whole command: a usage error exits with 2. -/
def command (arguments : List Text) (stdin : ByteArray) (setting : Option Text) : Report :=
  match read {} arguments with
  | .error e => ⟨2, [], [.said e.message]⟩
  | .ok .help => ⟨0, helpText, []⟩
  | .ok .version => ⟨0, versionText, []⟩
  | .ok (.session options) => session options stdin setting

/-- Whether the command looks at standard input. -/
def readsInput (arguments : List Text) : Bool :=
  match read {} arguments with
  | .ok (.session options) => !options.list && options.input.isNone
  | _ => false

end Peg.CommandLine
