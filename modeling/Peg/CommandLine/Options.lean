import Peg.Text.Basic

/-! Reading the arguments of the command.

Arguments are read from left to right; the first error, or the first request for
help or for the version, ends the reading. A flag or option may be given once and
there may be one positional argument.

- `-` and the empty argument are positional, and so is everything after `--`;
- letters after one `-` are flags in a row; a `g` among them takes what follows it,
  without a leading `=`, or else the next argument;
- `--name=value` gives a value, `--name` takes the next argument if it needs one;
- a value taken from the next argument does not start with `-`, unless it is `-`.

The program declares its arguments and leaves the reading to clap; what is here follows
the documented behaviour of clap on such a declaration. What a usage error says is put
more briefly here than there. -/
namespace Peg.CommandLine

inductive Flag where
  | strict | list | verbose
deriving DecidableEq, Repr

/-- What the command was asked to do. -/
structure Options where
  input : Option Text := none
  grammar : Option Text := none
  strict : Bool := false
  list : Bool := false
  verbose : Bool := false
deriving DecidableEq

inductive UsageError where
  | unknownOption (spelling : Text)
  | missingValue
  | unexpectedValue (spelling : Text)
  | repeated (name : String)
  | extraArgument (argument : Text)
deriving DecidableEq

def UsageError.message : UsageError → Text
  | .unknownOption spelling => "error: unexpected argument '".toList ++ spelling ++ "' found".toList
  | .missingValue => "error: a value is required for '--grammar <GRAMMAR>'".toList
  | .unexpectedValue spelling =>
    "error: unexpected value for '".toList ++ spelling ++ "'".toList
  | .repeated name =>
    "error: the argument '--".toList ++ name.toList ++ "' cannot be used multiple times".toList
  | .extraArgument argument => "error: unexpected argument '".toList ++ argument ++ "' found".toList

inductive Request where
  | help
  | version
  | session (options : Options)
deriving DecidableEq

namespace Options

/-- The grammar asked for; lists of numbers when none is named. -/
def grammarName (options : Options) : Text := options.grammar.getD "list".toList

/-! ### Giving one option -/

def withFlag (options : Options) : Flag → Except UsageError Options
  | .strict =>
    if options.strict then .error (.repeated "strict") else .ok { options with strict := true }
  | .list => if options.list then .error (.repeated "list") else .ok { options with list := true }
  | .verbose =>
    if options.verbose then .error (.repeated "verbose") else .ok { options with verbose := true }

def withGrammar (options : Options) (name : Text) : Except UsageError Options :=
  match options.grammar with
  | some _ => .error (.repeated "grammar")
  | none => .ok { options with grammar := some name }

def withInput (options : Options) (input : Text) : Except UsageError Options :=
  match options.input with
  | some _ => .error (.extraArgument input)
  | none => .ok { options with input := some input }

end Options

/-! ### One argument -/

/-- What an option name or letter stands for. -/
inductive Switch where
  | flag (flag : Flag)
  | grammar
  | help
  | version

def Switch.ofLetter? : Char → Option Switch
  | 'g' => some .grammar
  | 's' => some (.flag .strict)
  | 'l' => some (.flag .list)
  | 'v' => some (.flag .verbose)
  | 'h' => some .help
  | 'V' => some .version
  | _ => none

def Switch.ofName? (name : Text) : Option Switch :=
  if name = "grammar".toList then some .grammar
  else if name = "strict".toList then some (.flag .strict)
  else if name = "list".toList then some (.flag .list)
  else if name = "verbose".toList then some (.flag .verbose)
  else if name = "help".toList then some .help
  else if name = "version".toList then some .version
  else none

/-- Where the reading of one argument leads. -/
inductive Step where
  /-- On to the next argument. -/
  | next (options : Options)
  /-- The next argument names the grammar. -/
  | awaitGrammar (options : Options)
  /-- Nothing else is read. -/
  | stop (request : Request)

/-- The letters after one `-`. -/
def readLetters (options : Options) : Text → Except UsageError Step
  | [] => .ok (.next options)
  | letter :: rest =>
    match Switch.ofLetter? letter with
    | none => .error (.unknownOption ['-', letter])
    | some .help => .ok (.stop .help)
    | some .version => .ok (.stop .version)
    | some (.flag flag) => do readLetters (← options.withFlag flag) rest
    | some .grammar =>
      match rest with
      | [] => .ok (.awaitGrammar options)
      | '=' :: value => .next <$> options.withGrammar value
      | value => .next <$> options.withGrammar value

/-- The value after `=`, if there is such a sign. -/
def attached? (argument : Text) : Option Text :=
  match argument.dropWhile (· != '=') with
  | [] => none
  | _ :: value => some value

/-- A name after `--`, with or without a value. -/
def readName (options : Options) (argument : Text) : Except UsageError Step :=
  match Switch.ofName? (argument.takeWhile (· != '=')), attached? argument with
  | none, _ => .error (.unknownOption ('-' :: '-' :: argument))
  | some .grammar, some value => .next <$> options.withGrammar value
  | some .grammar, none => .ok (.awaitGrammar options)
  | some _, some _ => .error (.unexpectedValue ('-' :: '-' :: argument))
  | some .help, none => .ok (.stop .help)
  | some .version, none => .ok (.stop .version)
  | some (.flag flag), none => .next <$> options.withFlag flag

def readArgument (options : Options) : Text → Except UsageError Step
  | '-' :: '-' :: name => readName options name
  | '-' :: letter :: letters => readLetters options (letter :: letters)
  | input => .next <$> options.withInput input

/-! ### All arguments -/

/-- Whether an argument may be the value of the option before it. -/
def isValue : Text → Bool
  | '-' :: _ :: _ => false
  | _ => true

def readInputs (options : Options) : List Text → Except UsageError Request
  | [] => .ok (.session options)
  | input :: rest => do readInputs (← options.withInput input) rest

def read (options : Options) : List Text → Except UsageError Request
  | [] => .ok (.session options)
  | argument :: rest =>
    if argument = ['-', '-'] then readInputs options rest
    else
      match readArgument options argument, rest with
      | .error e, _ => .error e
      | .ok (.stop request), _ => .ok request
      | .ok (.next options), rest => read options rest
      | .ok (.awaitGrammar _), [] => .error .missingValue
      | .ok (.awaitGrammar options), value :: rest =>
        if isValue value then
          match options.withGrammar value with
          | .error e => .error e
          | .ok options => read options rest
        else .error .missingValue

example : (read {} ["-sgdigits".toList, "12".toList]).toOption =
    some (.session
      { input := some "12".toList, grammar := some "digits".toList, strict := true }) := by
  decide +kernel

example : (read {} ["-g".toList, "-".toList, "--".toList, "-s".toList]).toOption =
    some (.session { input := some "-s".toList, grammar := some "-".toList }) := by
  decide +kernel

example : (read {} ["-g".toList, "-s".toList]).toOption = none := by decide +kernel

example : (read {} ["-l".toList, "-Vh".toList, "--none".toList]).toOption = some .version := by
  decide +kernel

end Peg.CommandLine
