import Peg.Text.Basic

/-! Looking for a literal.

`find?` searches the bytes of a text for the bytes of a literal and answers with
the offset of the leftmost occurrence, in bytes. A search that has to hit at the
front is `List.isPrefixOf` on the characters themselves. -/
namespace Peg.Text

/-- The UTF-8 form. -/
def encode (s : Text) : List UInt8 := s.flatMap String.utf8EncodeChar

@[simp] theorem encode_nil : encode [] = [] := rfl

@[simp] theorem encode_cons (c : Char) (s : Text) :
    encode (c :: s) = String.utf8EncodeChar c ++ encode s := rfl

@[simp] theorem encode_append (s t : Text) : encode (s ++ t) = encode s ++ encode t := by
  simp [encode]

@[simp] theorem length_encode (s : Text) : (encode s).length = byteSize s := by
  induction s with
  | nil => rfl
  | cons c s ih => simp [ih]

/-- The offset of the leftmost occurrence of some bytes among others. -/
def findBytes? (sought : List UInt8) : List UInt8 → Option Nat
  | [] => if sought.isEmpty then some 0 else none
  | b :: rest =>
    if sought.isPrefixOf (b :: rest) then some 0 else (findBytes? sought rest).map (· + 1)

/-- The offset of the leftmost occurrence of a literal, in bytes. -/
def find? (literal s : Text) : Option Nat := findBytes? (encode literal) (encode s)

/-- The text whose UTF-8 form is given, if there is one. -/
def decode? (bytes : ByteArray) : Option Text := (String.fromUTF8? bytes).map String.toList

end Peg.Text
