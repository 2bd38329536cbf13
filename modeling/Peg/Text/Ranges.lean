import Peg.Text.Basic

/-! Classes of characters as ranges of code points.

A class is a list of ranges, first and last code point, in ascending order. -/
namespace Peg.Text

abbrev Ranges := List (Nat × Nat)

/-- Membership: the first range that does not end before the character decides. -/
def Ranges.contains (ranges : Ranges) (c : Char) : Bool :=
  match ranges with
  | [] => false
  | (first, last) :: rest => if c.toNat ≤ last then first ≤ c.toNat else Ranges.contains rest c

end Peg.Text
