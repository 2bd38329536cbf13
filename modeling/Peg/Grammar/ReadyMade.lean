import Peg.Grammar.Basic

/-! Ready-made grammars.

Tokens are repetitions of a class of characters: repetitions always match strictly,
so a token starts where it is looked for even when the parse around it is lenient. -/
namespace Peg.Grammar.ReadyMade

/-! ### Characters -/

/-- Ordered choice among single characters. -/
def oneOf : Text → Grammar Tree
  | [] => empty
  | c :: rest => rest.foldl (fun g d => g.orElse (terminal [d])) (terminal [c])

/-- One decimal digit. -/
def digit : Grammar Tree := oneOf "0123456789".toList

/-- One letter or underscore. -/
def letter : Grammar Tree := oneOf "abcdefghijklmnopqrstuvwxyzABCDEFGHIJKLMNOPQRSTUVWXYZ_".toList

def alphanumeric : Grammar Tree := letter.orElse digit

/-! ### Tokens -/

/-- The value is the matched text. -/
def matchedText : Listener Tree where
  action outcome := .text outcome.matched

/-- A run of digits. -/
def digits : Grammar Tree := (digit.atLeast 1 rfl).listen matchedText

/-- A letter and the letters and digits after it. -/
def identifier : Grammar Tree :=
  ((letter.atLeast 1 rfl).andThen (alphanumeric.atLeast 0 rfl)).listen matchedText

/-- A word that no letter or digit follows. -/
def keyword (word : Text) : Grammar Tree := (terminal word).notBefore alphanumeric

/-! ### Lists of numbers -/

/-- The right half, if there is one. -/
def second? : Tree → Option Tree
  | .pair _ right => some right
  | _ => none

/-- The numbers in the value of a bracketed list: the one after the opening bracket, and one after
each comma. -/
def numbers : Tree → List Tree
  | .pair (.pair head (.list rest)) _ => (second? head).toList ++ rest.filterMap second?
  | .pair (.pair head _) _ => (second? head).toList
  | _ => []

/-- Numbers in brackets with commas between them; the value lists the numbers. -/
def numberList : Grammar Tree :=
  let more := (terminal [',']).andThen digits
  ((((terminal ['[']).andThen digits).andThen (more.atLeast 0 rfl)).andThen (terminal [']'])).listen
    { action := fun outcome => match outcome.value? with
        | some tree => .list (numbers tree)
        | none => .nothing }

/-! ### Greetings -/

/-- A greeting and a name; the value is the name. -/
def greeting : Grammar Tree :=
  ((((keyword "hello".toList).orElse (keyword "hi".toList)).andThen (terminal [' '])).andThen
    identifier).listen
    { action := fun outcome => match outcome.value? with
        | some (.pair _ name) => name
        | _ => .nothing }

/-! ### By name -/

/-- The grammars that can be asked for by name, in the order of their names. -/
def catalogue : List (Text × Grammar Tree) :=
  [("digits".toList, digits), ("greeting".toList, greeting), ("identifier".toList, identifier),
    ("list".toList, numberList)]

end Peg.Grammar.ReadyMade
