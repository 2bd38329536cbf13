import Mathlib.Logic.Basic
import Peg.Proofs.Success
import Peg.Grammar.ReadyMade

/-! Guards upon guards.

A guard looks at what a match leaves: something has to match there, or must not. Guards
are put around a grammar one after another, so that each is put around a grammar that is
guarded already. Still all of them look at the same text, namely what the innermost
grammar leaves: one that holds hands on the outcome as it is, with what was skipped in
it, and one that does not hold makes a failure that no guard further out can undo
(`parseIn_guardedBy`).

So it is of no importance in which order guards are put around, or how often each of
them, and a guard can be told by what it is not (`guardedBy_conjunction`). -/
namespace Peg

variable {α : Type}

/-- What has to come next, or must not. -/
inductive Guard (α : Type) where
  | before (next : Grammar α)
  | notBefore (next : Grammar α)

/-! ### One guard -/

namespace Guard

/-- The grammar with the guard around it. -/
def around : Guard α → Grammar α → Grammar α
  | .before next, g => g.before next
  | .notBefore next, g => g.notBefore next

variable [TreeLike α]

/-- Whether the guard lets a match pass that leaves `rest`. -/
def Holds : Guard α → Text → Prop
  | .before next, rest => (next.parseIn .strict rest).isSuccess = true
  | .notBefore next, rest => (next.parseIn .strict rest).isSuccess = false

instance (guard : Guard α) (rest : Text) : Decidable (guard.Holds rest) :=
  match guard with
  | .before _ => inferInstanceAs (Decidable (_ = true))
  | .notBefore _ => inferInstanceAs (Decidable (_ = false))

theorem parseIn_around (guard : Guard α) (g : Grammar α) (mode : Mode) (input : Text) :
    (guard.around g).parseIn mode input =
      if (g.parseIn mode input).isSuccess = true ∧ guard.Holds (g.parseIn mode input).remaining
        then g.parseIn mode input
      else .failure input := by
  rw [ite_and]
  cases guard with
  | before next =>
    exact (Grammar.parseIn_eq_attempt rfl ..).trans (Matcher.result_guarded true)
  | notBefore next =>
    exact (Grammar.parseIn_eq_attempt rfl ..).trans (Matcher.result_guarded false)

theorem isSuccess_around (guard : Guard α) (g : Grammar α) (mode : Mode) (input : Text) :
    ((guard.around g).parseIn mode input).isSuccess = true ↔
      (g.parseIn mode input).isSuccess = true ∧ guard.Holds (g.parseIn mode input).remaining := by
  rw [parseIn_around]
  split
  next h => exact iff_of_true h.1 h
  next h => exact iff_of_false nofun h

/-- A guard that holds hands on the success as it is. -/
theorem around_success_iff (guard : Guard α) {g : Grammar α} {mode : Mode}
    {input matched remaining : Text} {value : α} :
    (guard.around g).parseIn mode input = .success matched remaining value ↔
      g.parseIn mode input = .success matched remaining value ∧ guard.Holds remaining := by
  rw [parseIn_around]
  constructor
  · intro h
    split at h
    next hheld =>
      refine ⟨h, ?_⟩
      rw [h] at hheld
      exact hheld.2
    next => exact nomatch h
  · rintro ⟨h, hheld⟩
    rw [h]
    exact if_pos ⟨rfl, hheld⟩

/-- Guards that let the same pass do the same. -/
theorem parseIn_around_congr {guard guard' : Guard α}
    (h : ∀ rest, guard.Holds rest ↔ guard'.Holds rest) (g : Grammar α) (mode : Mode)
    (input : Text) : (guard.around g).parseIn mode input = (guard'.around g).parseIn mode input := by
  simp only [parseIn_around, h]

/-- A guard against what is itself guarded against `next` asks for `next`. -/
theorem holds_notBefore_notBefore (next : Grammar α) (rest : Text) :
    (notBefore (Grammar.empty.notBefore next)).Holds rest ↔ (before next).Holds rest := by
  have hinner : ((Grammar.empty.notBefore next).parseIn .strict rest).isSuccess = true ↔
      (next.parseIn .strict rest).isSuccess = false := by
    have haround := isSuccess_around (notBefore next) Grammar.empty .strict rest
    rw [Grammar.parseIn_empty] at haround
    exact haround.trans (and_iff_right rfl)
  show ((Grammar.empty.notBefore next).parseIn .strict rest).isSuccess = false ↔
    (next.parseIn .strict rest).isSuccess = true
  rw [← Bool.not_eq_true, hinner, Bool.not_eq_false]

end Guard

/-! ### Any number of guards -/

namespace Grammar

/-- The grammar with one guard after another around it. -/
def guardedBy (g : Grammar α) : List (Guard α) → Grammar α
  | [] => g
  | guard :: outer => (guard.around g).guardedBy outer

variable [TreeLike α]

/-- **Guards upon guards are one conjunction.** -/
theorem parseIn_guardedBy (g : Grammar α) (guards : List (Guard α)) (mode : Mode) (input : Text) :
    (g.guardedBy guards).parseIn mode input =
      if (g.parseIn mode input).isSuccess = true ∧
          ∀ guard ∈ guards, guard.Holds (g.parseIn mode input).remaining
        then g.parseIn mode input
      else .failure input := by
  induction guards generalizing g with
  | nil =>
    have hp := g.parseIn_partitions mode input
    split
    next => rfl
    next h =>
      have hs : (g.parseIn mode input).isSuccess ≠ true := fun hs => h ⟨hs, nofun⟩
      exact hp.eq_failure (eq_false_of_ne_true hs)
  | cons guard outer ih =>
    have hstep := guard.parseIn_around g mode input
    rw [guardedBy, ih]
    by_cases h : (g.parseIn mode input).isSuccess = true ∧
        guard.Holds (g.parseIn mode input).remaining
    · -- the guards further out see what this one was shown
      rw [if_pos h] at hstep
      simp only [hstep, List.forall_mem_cons, h.2, true_and]
    · have hall : ¬ ((g.parseIn mode input).isSuccess = true ∧
          ∀ other ∈ guard :: outer, other.Holds (g.parseIn mode input).remaining) :=
        fun hall => h ⟨hall.1, hall.2 guard (List.mem_cons_self ..)⟩
      rw [if_neg h] at hstep
      rw [hstep, if_neg hall]
      exact if_neg fun hfailed => nomatch hfailed.1

/-- **Guards are a conjunction of independent checks.** Under any number of them a grammar comes to
what it comes to by itself if each of them holds, strictly, on what it leaves; otherwise it fails
and gives the input back. So neither their order nor their number matters, but only which guards
there are. Of a guard and its opposite at most one lets a match pass, and one does; and to look
ahead comes to the same as not to look ahead twice. -/
theorem guardedBy_conjunction (g : Grammar α) (mode : Mode) (input : Text) :
    (∀ guards, (g.guardedBy guards).parseIn mode input =
      if (g.parseIn mode input).isSuccess = true ∧
          ∀ guard ∈ guards, guard.Holds (g.parseIn mode input).remaining
        then g.parseIn mode input
      else .failure input) ∧
    (∀ guards guards', (∀ guard, guard ∈ guards ↔ guard ∈ guards') →
      (g.guardedBy guards).parseIn mode input = (g.guardedBy guards').parseIn mode input) ∧
    ∀ next : Grammar α,
      ¬ (((g.before next).parseIn mode input).isSuccess = true ∧
        ((g.notBefore next).parseIn mode input).isSuccess = true) ∧
      ((g.parseIn mode input).isSuccess = true →
        ((g.before next).parseIn mode input).isSuccess = true ∨
          ((g.notBefore next).parseIn mode input).isSuccess = true) ∧
      (g.before next).parseIn mode input =
        (g.notBefore (empty.notBefore next)).parseIn mode input := by
  refine ⟨fun guards => g.parseIn_guardedBy guards mode input, fun guards guards' h => ?_,
    fun next => ⟨?_, ?_, ?_⟩⟩
  · simp only [parseIn_guardedBy, h]
  · rintro ⟨hbefore, hnotBefore⟩
    have hyes := (((Guard.before next).isSuccess_around g mode input).mp hbefore).2
    have hno := (((Guard.notBefore next).isSuccess_around g mode input).mp hnotBefore).2
    exact nomatch hyes.symm.trans hno
  · intro hs
    cases hnext : (next.parseIn .strict (g.parseIn mode input).remaining).isSuccess with
    | true => exact .inl (((Guard.before next).isSuccess_around g mode input).mpr ⟨hs, hnext⟩)
    | false => exact .inr (((Guard.notBefore next).isSuccess_around g mode input).mpr ⟨hs, hnext⟩)
  · exact Guard.parseIn_around_congr (fun rest => (Guard.holds_notBefore_notBefore next rest).symm)
      g mode input

/-- A number that a letter and no two letters follow, found behind a sign: guards in another order,
one of them twice, and a guard that is guarded itself. -/
theorem guardedBy_conjunction_units :
    let number : Grammar Tree := (terminal ['-']).andThen ReadyMade.digits
    let unit : Guard Tree := .before (ReadyMade.letter.notBefore (terminal ['!']))
    let word : Guard Tree := .notBefore (ReadyMade.letter.andThen ReadyMade.letter)
    (∀ guard, guard ∈ [unit, word] ↔ guard ∈ [word, unit, word]) ∧
    (number.guardedBy [word, unit, word]).parse "é-12m".toList =
      (number.guardedBy [unit, word]).parse "é-12m".toList ∧
    (number.parse "é-12m".toList).isSuccess = true ∧
    (number.guardedBy [unit, word]).parse "é-12m".toList =
      .partialSuccess ['é'] "-12".toList ['m'] (.pair (.text ['-']) (.text "12".toList)) ∧
    (number.guardedBy [unit, word]).parse "-12m!".toList = .failure "-12m!".toList := by
  intro number unit word
  have hsame : ∀ guard, guard ∈ [unit, word] ↔ guard ∈ [word, unit, word] := by
    intro guard
    simp only [List.mem_cons]
    grind
  have hnumber : number.parse "é-12m".toList =
      .partialSuccess ['é'] "-12".toList ['m'] (.pair (.text ['-']) (.text "12".toList)) := by
    decide +kernel
  have hfound := guardedBy_conjunction number .lenient "é-12m".toList
  have hmarked := guardedBy_conjunction number .lenient "-12m!".toList
  refine ⟨hsame, (hfound.2.1 _ _ hsame).symm, ?_, ?_, ?_⟩
  · rw [hnumber]
    rfl
  · exact ((hfound.1 [unit, word]).trans (if_pos (by decide +kernel))).trans hnumber
  · exact (hmarked.1 [unit, word]).trans (if_neg (by decide +kernel))

end Grammar

end Peg
