import Peg.CommandLine.Filter
import Peg.Journal
import Peg.Text.Quoted

/-! The log of the command: the grammar that was built, and every visit of a node.

An entry carries values; how it is written is up to a `Layout`. The program leaves that
to the fmt layer of tracing-subscriber with its defaults, which puts the time in front of
an entry and escape sequences for colours around its parts. So a layout may be any
function of the entry and of how many were written before it. `Layout.plain` is the
documented format of that layer, with the time and the colours left out. -/
namespace Peg.CommandLine

/-- The name that the program goes by. -/
def program : Text := "vernac".toList

def numeral (n : Nat) : Text := Nat.toDigits 10 n

/-! ### Entries -/

/-- A value that an entry carries. -/
inductive Value where
  /-- A text that is written as it is. -/
  | words (s : Text)
  /-- A text that is quoted when it is written. -/
  | text (s : Text)
  | number (n : Nat)
  | flag (b : Bool)
deriving DecidableEq

/-- An entry of the log has a value for every name that its origin gives. -/
structure LogEntry where
  origin : Origin
  values : List Value
  named : values.length = origin.values.length
deriving DecidableEq

def builtOrigin : Origin :=
  ⟨.debug, program, ["message".toList, "grammar".toList, "tree".toList]⟩

def visitOrigin : Origin :=
  ⟨.trace, program ++ "::grammar::matcher".toList, ["message".toList, "node".toList,
    "input_len".toList, "consumed".toList, "success".toList]⟩

/-- The grammar that is about to run, under the name it was asked for. -/
def builtEntry (name tree : Text) : LogEntry :=
  ⟨builtOrigin, [.words "built grammar".toList, .words name, .words tree], rfl⟩

/-- The visit of a node, as the log tells it. -/
def visitEntry (e : Event) : LogEntry :=
  ⟨visitOrigin, [.words "parse".toList, .text e.kind.name.toList, .number e.inputSize,
    .number e.consumed, .flag e.success], rfl⟩

/-! ### Layouts -/

/-- How an entry is written when so many were written before it. -/
abbrev Layout := Nat → LogEntry → Text

def Value.written : Value → Text
  | .words s => s
  | .text s => s.quote
  | .number n => numeral n
  | .flag b => if b then "true".toList else "false".toList

/-- A value behind its name; the message has no name. -/
def field (name : Text) (value : Value) : Text :=
  if name = "message".toList then value.written else name ++ '=' :: value.written

/-- Level, target and values. -/
def Layout.plain : Layout := fun _ entry =>
  entry.origin.level.label ++ ' ' :: entry.origin.target ++ ": ".toList ++
    " ".toList.intercalate (entry.origin.values.zipWith field entry.values)

example : Layout.plain 0 (visitEntry ⟨.terminal, 3, 1, true⟩) =
    "TRACE vernac::grammar::matcher: ".toList ++
      "parse node=\"terminal\" input_len=3 consumed=1 success=true".toList := by
  decide +kernel

end Peg.CommandLine
