import Peg.Text.Basic

/-! The lines of a text.

A line ends with a line feed, or with a carriage return and a line feed; what
follows the last line feed is a line only if there is something. -/
namespace Peg.Text

/-- A line without the carriage return at its end; lines are read backwards here. -/
def closeLine : Text → Text
  | '\r' :: read => read.reverse
  | read => read.reverse

/-- The lines of `read`, reversed, followed by the rest. -/
def linesFrom (read : Text) : Text → List Text
  | [] => if read.isEmpty then [] else [read.reverse]
  | '\n' :: rest => closeLine read :: linesFrom [] rest
  | c :: rest => linesFrom (c :: read) rest

def lines (s : Text) : List Text := linesFrom [] s

example : lines "a\r\n\r\n\nb\rc\n".toList =
    ["a".toList, [], [], "b\rc".toList] := by decide +kernel

end Peg.Text
