import Peg.Text.Basic

/-! Finite sets of literals.

A set is its list of members in ascending order, by code point. `ext`: sets with
the same members are equal. -/
namespace Peg

/-- Members are listed once each, in ascending order. -/
structure LiteralSet where
  toList : List Text
  ascending : toList.Pairwise (· < ·)
deriving DecidableEq

namespace LiteralSet

instance : Membership Text LiteralSet := ⟨fun s literal => literal ∈ s.toList⟩

theorem mem_iff {literal : Text} {s : LiteralSet} : literal ∈ s ↔ literal ∈ s.toList := Iff.rfl

/-! ### Ascending lists -/

/-- Puts a literal in its place, unless it is there already. -/
def place (literal : Text) : List Text → List Text
  | [] => [literal]
  | least :: rest =>
    if literal < least then literal :: least :: rest
    else if literal = least then least :: rest
    else least :: place literal rest

theorem mem_place {other literal : Text} {list : List Text} :
    other ∈ place literal list ↔ other = literal ∨ other ∈ list := by
  induction list with
  | nil => simp [place]
  | cons least rest ih =>
    rw [place]
    split
    · simp
    · split
      next h => simp [h]
      next => simp [ih, or_left_comm]

theorem ascending_place (literal : Text) {list : List Text} (h : list.Pairwise (· < ·)) :
    (place literal list).Pairwise (· < ·) := by
  induction list with
  | nil => simp [place]
  | cons least rest ih =>
    obtain ⟨hleast, hrest⟩ := List.pairwise_cons.mp h
    rw [place]
    split
    next hlt =>
      refine List.pairwise_cons.mpr ⟨?_, h⟩
      intro other hother
      rcases List.mem_cons.mp hother with rfl | hother
      · exact hlt
      · exact List.lt_trans hlt (hleast other hother)
    next hlt =>
      split
      next => exact h
      next hne =>
        refine List.pairwise_cons.mpr ⟨?_, ih hrest⟩
        intro other hother
        rcases mem_place.mp hother with rfl | hother
        · rcases List.le_iff_lt_or_eq.mp (List.not_lt.mp hlt) with hgt | heq
          · exact hgt
          · exact absurd heq.symm hne
        · exact hleast other hother

/-- An ascending list is determined by its members. -/
theorem eq_of_ascending {xs ys : List Text} (hx : xs.Pairwise (· < ·)) (hy : ys.Pairwise (· < ·))
    (h : ∀ literal, literal ∈ xs ↔ literal ∈ ys) : xs = ys := by
  induction xs generalizing ys with
  | nil =>
    cases ys with
    | nil => rfl
    | cons y ys => simpa using (h y).mpr (List.mem_cons_self ..)
  | cons x xs ih =>
    cases ys with
    | nil => simpa using (h x).mp (List.mem_cons_self ..)
    | cons y ys =>
      obtain ⟨hx₀, hxs⟩ := List.pairwise_cons.mp hx
      obtain ⟨hy₀, hys⟩ := List.pairwise_cons.mp hy
      have hxy : x = y := by
        rcases List.mem_cons.mp ((h x).mp (List.mem_cons_self ..)) with hx' | hx'
        · exact hx'
        · rcases List.mem_cons.mp ((h y).mpr (List.mem_cons_self ..)) with hy' | hy'
          · exact hy'.symm
          · exact absurd (hx₀ y hy') (List.lt_asymm (hy₀ x hx'))
      subst hxy
      congr 1
      refine ih hxs hys fun literal => ⟨fun hm => ?_, fun hm => ?_⟩
      · rcases List.mem_cons.mp ((h literal).mp (List.mem_cons_of_mem x hm)) with rfl | hm'
        · exact absurd (hx₀ literal hm) (List.lt_irrefl literal)
        · exact hm'
      · rcases List.mem_cons.mp ((h literal).mpr (List.mem_cons_of_mem x hm)) with rfl | hm'
        · exact absurd (hy₀ literal hm) (List.lt_irrefl literal)
        · exact hm'

@[ext] theorem ext {s t : LiteralSet} (h : ∀ literal, literal ∈ s ↔ literal ∈ t) : s = t := by
  have := eq_of_ascending s.ascending t.ascending h
  cases s
  cases t
  simp_all

/-! ### Operations -/

instance : EmptyCollection LiteralSet := ⟨⟨[], .nil⟩⟩

instance : Singleton Text LiteralSet :=
  ⟨fun literal => ⟨[literal], List.pairwise_singleton _ literal⟩⟩

def insert (s : LiteralSet) (literal : Text) : LiteralSet :=
  ⟨place literal s.toList, ascending_place literal s.ascending⟩

instance : Union LiteralSet := ⟨fun s t => t.toList.foldl insert s⟩

@[simp] theorem not_mem_empty (literal : Text) : literal ∉ (∅ : LiteralSet) := by
  intro h
  exact nomatch mem_iff.mp h

@[simp] theorem mem_singleton {other literal : Text} :
    other ∈ ({literal} : LiteralSet) ↔ other = literal :=
  List.mem_singleton

@[simp] theorem mem_insert {s : LiteralSet} {other literal : Text} :
    other ∈ s.insert literal ↔ other = literal ∨ other ∈ s := mem_place

theorem mem_foldl_insert {s : LiteralSet} {list : List Text} {literal : Text} :
    literal ∈ list.foldl insert s ↔ literal ∈ s ∨ literal ∈ list := by
  induction list generalizing s with
  | nil => simp
  | cons x list ih => simp [ih, or_assoc, or_left_comm]

@[simp] theorem mem_union {s t : LiteralSet} {literal : Text} :
    literal ∈ s ∪ t ↔ literal ∈ s ∨ literal ∈ t := mem_foldl_insert

def contains (s : LiteralSet) (literal : Text) : Bool := s.toList.contains literal

def size (s : LiteralSet) : Nat := s.toList.length

def isEmpty (s : LiteralSet) : Bool := s.toList.isEmpty

theorem contains_iff {s : LiteralSet} {literal : Text} : s.contains literal ↔ literal ∈ s := by
  simp [contains, mem_iff]

end LiteralSet

end Peg
