/-! Text and its size.

A text is a list of characters. Offsets and lengths count the bytes of its UTF-8
form; `cut` divides a text at such an offset and never inside a character.

`cut_byteSize_append`: cutting a join at the size of its first part gives the two
parts back. -/
namespace Peg

abbrev Text := List Char

namespace Text

/-! ### Size -/

/-- The number of bytes of the UTF-8 form. -/
def byteSize : Text → Nat
  | [] => 0
  | c :: rest => c.utf8Size + byteSize rest

@[simp] theorem byteSize_nil : byteSize [] = 0 := rfl

@[simp] theorem byteSize_cons (c : Char) (s : Text) :
    byteSize (c :: s) = c.utf8Size + byteSize s := rfl

@[simp] theorem byteSize_append (s t : Text) : byteSize (s ++ t) = byteSize s + byteSize t := by
  induction s with
  | nil => simp
  | cons c s ih => simp [ih, Nat.add_assoc]

theorem byteSize_eq_zero {s : Text} : byteSize s = 0 ↔ s = [] := by
  cases s with
  | nil => simp
  | cons c s =>
    have := c.utf8Size_pos
    simp only [byteSize_cons, reduceCtorEq, iff_false]
    omega

theorem byteSize_le_of_suffix {s t : Text} (h : s <:+ t) : byteSize s ≤ byteSize t := by
  obtain ⟨front, rfl⟩ := h
  simp

/-! ### Cutting -/

/-- The longest front part of at most `n` bytes, and what follows it. -/
def cut (n : Nat) : Text → Text × Text
  | [] => ([], [])
  | c :: rest =>
    if c.utf8Size ≤ n then
      let (front, back) := cut (n - c.utf8Size) rest
      (c :: front, back)
    else ([], c :: rest)

/-- Cutting loses nothing. -/
theorem cut_append (n : Nat) (s : Text) : (cut n s).1 ++ (cut n s).2 = s := by
  induction s generalizing n with
  | nil => rfl
  | cons c s ih =>
    rw [cut]
    split
    · simp [ih]
    · rfl

@[simp] theorem cut_zero (s : Text) : cut 0 s = ([], s) := by
  cases s with
  | nil => rfl
  | cons c s =>
    have := c.utf8Size_pos
    rw [cut, if_neg (by omega)]

@[simp] theorem cut_byteSize_append (s t : Text) : cut (byteSize s) (s ++ t) = (s, t) := by
  induction s with
  | nil => simp
  | cons c s ih => simp [cut, ih]

end Text

end Peg
