import Peg.Text.Alphanumeric

/-! What of the log is shown.

A log entry has an `Origin`: a level, a target, which is the part of the program that
it comes from, and the names of the values that it carries. A filter is a list of
directives; of those that apply to an origin the most specific decides down to which
level entries from there are shown.

A directive is written `target[scope{value}]=level`, and any part may be missing:

- a word alone that is a level is for every target;
- without a level everything that applies is shown;
- a directive with a named scope, or with a value that is compared, is for entries
  inside scopes; the program opens none, so it shows nothing.

The program leaves filtering to the EnvFilter of tracing-subscriber. What is here
follows the documented behaviour of that filter and, where nothing is documented (blanks
in a directive, and which of two equally specific ones decides), what it does. -/
namespace Peg.CommandLine

/-! ### Levels -/

inductive Level where
  | error | warn | info | debug | trace
deriving DecidableEq, Repr

namespace Level

/-- Levels from the gravest on. -/
def rank : Level → Nat
  | .error => 1
  | .warn => 2
  | .info => 3
  | .debug => 4
  | .trace => 5

/-- Five characters wide, aligned to the right. -/
def label : Level → Text
  | .error => "ERROR".toList
  | .warn => " WARN".toList
  | .info => " INFO".toList
  | .debug => "DEBUG".toList
  | .trace => "TRACE".toList

end Level

/-- Decimal digits, after one plus sign or none. -/
def number? (word : Text) : Option Nat :=
  let digits := match word with
    | '+' :: digits => digits
    | digits => digits
  if digits.isEmpty || !digits.all Char.isDigit then none
  else some (digits.foldl (fun n c => 10 * n + (c.toNat - '0'.toNat)) 0)

/-- The rank down to which a level shows entries; `off` and zero show none. -/
def limit? (word : Text) : Option Nat :=
  match number? word with
  | some n => if n ≤ Level.trace.rank then some n else none
  | none =>
    let word := word.map Char.toLower
    if word = "off".toList then some 0
    else if word = "error".toList then some Level.error.rank
    else if word = "warn".toList then some Level.warn.rank
    else if word = "info".toList then some Level.info.rank
    else if word = "debug".toList then some Level.debug.rank
    else if word = "trace".toList then some Level.trace.rank
    else none

/-! ### Directives -/

/-- Where a log entry comes from. -/
structure Origin where
  level : Level
  target : Text
  values : List Text
deriving DecidableEq, Repr

structure Directive where
  /-- What the target of an origin starts with. -/
  target : Option Text := none
  /-- What an origin carries. -/
  values : List Text := []
  /-- Whether it is for entries inside scopes. -/
  inScope : Bool := false
  /-- The highest rank that is shown. -/
  limit : Nat := Level.trace.rank
deriving DecidableEq, Repr

inductive DirectiveError where
  | malformed
  | unknownLevel
deriving DecidableEq, Repr

def DirectiveError.message : DirectiveError → Text
  | .malformed => "invalid filter directive".toList
  | .unknownLevel =>
    "error parsing level filter: expected one of \"off\", \"error\", \"warn\", \"info\", ".toList ++
      "\"debug\", \"trace\", or a number 0-5".toList

namespace Directive

/-- The `size` bytes of a word after the first `start`. -/
def piece (word : Text) (start size : Nat) : Text := (Text.cut size (Text.cut start word).2).1

/-- What a word has after the first `start` bytes. -/
def following (word : Text) (start : Nat) : Text := (Text.cut start word).2

/-- The directive with the level that is written after the first `start` bytes. -/
def withLevel (d : Directive) (word : Text) (start : Nat) : Except DirectiveError Directive :=
  match following word start with
  | [] => .ok d
  | level =>
    match limit? level with
    | some limit => .ok { d with limit := limit }
    | none => .error .unknownLevel

/-- What may follow the closing bracket, at `start`: nothing, or a level. -/
def readLevel (d : Directive) (word : Text) (start : Nat) :
    Text → Except DirectiveError Directive
  | [] => .ok d
  | '=' :: _ => d.withLevel word (start + 1)
  | _ => .error .malformed

/-- The value named in braces, whose text begins at `start`. -/
def readValue (d : Directive) (word : Text) (start : Nat) (s : Text) :
    Except DirectiveError Directive :=
  let inside := s.takeWhile (· != '\x7d')
  let size := Text.byteSize inside
  let written := piece word start size
  let named := { d with
    values := d.values ++ [written.takeWhile (· != '=')]
    inScope := d.inScope || written.contains '=' }
  match s.dropWhile (· != '\x7d') with
  | '\x7d' :: ']' :: rest =>
    if inside.isEmpty then .error .malformed else named.readLevel word (start + size + 2) rest
  | _ => .error .malformed

/-- The scope in brackets, whose text begins at `start`. -/
def readScope (d : Directive) (word : Text) (start : Nat) (s : Text) :
    Except DirectiveError Directive :=
  let inside := s.takeWhile fun c => c != ']' && c != '\x7b'
  let size := Text.byteSize inside
  match s.dropWhile fun c => c != ']' && c != '\x7b' with
  | ']' :: rest => { d with inScope := true }.readLevel word (start + size + 1) rest
  | '\x7b' :: rest =>
    { d with inScope := !inside.isEmpty }.readValue word (start + size + 1) rest
  | _ => .error .malformed

/-- What a directive may begin with, a bracket apart. -/
def isTargetStart (c : Char) : Bool := Text.isAlphanumeric c || c == '-' || c == ':' || c == '_'

/-- Reads one directive. The parts are measured in the word without the blanks around it and then
taken from the word as it stands, so blanks in front shift them. -/
def read (word : Text) : Except DirectiveError Directive :=
  match Text.trim word with
  | [] => .error .malformed
  | '[' :: rest => readScope {} word 1 rest
  | first :: rest =>
    if !isTargetStart first then .error .malformed
    else
      let head := first :: rest.takeWhile fun c => c != '=' && c != '['
      let size := Text.byteSize head
      match rest.dropWhile fun c => c != '=' && c != '[' with
      | '=' :: _ => withLevel { target := some (piece word 0 size) } word (size + 1)
      | '[' :: rest => readScope { target := some (piece word 0 size) } word (size + 1) rest
      | _ =>
        match limit? word with
        | some limit => .ok { limit := limit }
        | none => .ok { target := some word }

def applies (d : Directive) (o : Origin) : Bool :=
  !d.inScope && d.target.all (·.isPrefixOf o.target) && d.values.all o.values.contains

/-- Longer targets come before shorter ones, and any before none. -/
def targetRank (d : Directive) : Nat :=
  match d.target with
  | some target => Text.byteSize target + 1
  | none => 0

/-- Whether `d` decides before `e`, if both apply: by the target, then by the number of values, then
by their names. -/
def outranks (d e : Directive) : Bool :=
  if d.targetRank ≠ e.targetRank then e.targetRank < d.targetRank
  else if d.values.length ≠ e.values.length then e.values.length < d.values.length
  else e.values < d.values

end Directive

/-! ### Filters -/

abbrev Filter := List Directive

namespace Filter

/-- The directives of a setting, which stand between commas; empty ones do not count. -/
def words (setting : Text) : List Text := (setting.splitOn ',').filter fun word => !word.isEmpty

/-- The filter of a setting, without what is no directive. -/
def read (setting : Text) : Filter :=
  (words setting).filterMap fun word => (Directive.read word).toOption

/-- What is said about the words of a setting that are no directives. -/
def complaints (setting : Text) : List Text :=
  (words setting).filterMap fun word =>
    match Directive.read word with
    | .ok _ => none
    | .error e => some ("ignoring `".toList ++ word ++ "`: ".toList ++ e.message)

/-- Of two directives the one that decides; of equals the second. -/
def decisive (best? : Option Directive) (d : Directive) : Option Directive :=
  match best? with
  | some best => if best.outranks d then some best else some d
  | none => some d

def shows (filter : Filter) (o : Origin) : Bool :=
  match (filter.filter (·.applies o)).foldl decisive none with
  | some d => o.level.rank ≤ d.limit
  | none => false

example : shows (read "info,a=trace,a::b=off".toList) ⟨.debug, "a::c".toList, []⟩ = true := by
  decide +kernel

example : shows (read "info,a=trace,a::b=off".toList) ⟨.error, "a::b".toList, []⟩ = false := by
  decide +kernel

example : complaints "a=6,,*,b[c\x7bd\x7d]=+4".toList =
    ["ignoring `a=6`: ".toList ++ DirectiveError.unknownLevel.message,
      "ignoring `*`: invalid filter directive".toList] := by
  decide +kernel

end Filter

end Peg.CommandLine
