import Peg.Text.Printable

/-! Quoted text.

A text is shown between double quotes. The quote, the backslash, NUL, tab, line
feed and carriage return have an escape of one letter; any other hidden character
is written by its code point in hexadecimal; all else stands for itself. -/
namespace Peg.Text

/-- The code point in lower case hexadecimal, without padding, between braces. -/
def codePointEscape (c : Char) : Text :=
  ['\\', 'u', '\x7b'] ++ Nat.toDigits 16 c.toNat ++ ['\x7d']

/-- How a character is written between quotes. -/
def escape (c : Char) : Text :=
  match c with
  | '\x00' => ['\\', '0']
  | '\t' => ['\\', 't']
  | '\n' => ['\\', 'n']
  | '\r' => ['\\', 'r']
  | '"' => ['\\', '"']
  | '\\' => ['\\', '\\']
  | c => if isPrintable c then [c] else codePointEscape c

def quote (s : Text) : Text := '"' :: s.flatMap escape ++ ['"']

example : quote "a\t\"b\\".toList = "\"a\\t\\\"b\\\\\"".toList := by decide +kernel

example : quote ['é', '\x07', '\u00a0'] = "\"é\\u\x7b7\x7d\\u\x7ba0\x7d\"".toList := by
  decide +kernel

end Peg.Text
