import Peg.Expr.Basic

/-! The textbook meaning of a parsing expression.

A form is a parsing expression and nothing more: it has no flags, no listeners and no
modes. `Derives f s v` says what `f` comes to on the text `s`, by one rule for each
way that it can; a repetition is the greedy `Star` of its body, counted.

`Form.decides`: nothing has two verdicts. Not everything has one: there is no end to
the star of a form that succeeds on nothing. -/
namespace Peg

inductive Form where
  | literal (text : Text)
  | nothing
  | seq (first second : Form)
  | alt (first second : Form)
  /-- `body` as often as it matches, which has to be `min` times at least. -/
  | many (min : Nat) (body : Form)
  /-- Nothing, where `f` matches what follows. -/
  | ahead (f : Form)
  /-- Nothing, where `f` does not match what follows. -/
  | notAhead (f : Form)

inductive Verdict where
  | consumed (text rest : Text)
  | fail

mutual

inductive Derives : Form → Text → Verdict → Prop where
  | literal {text rest s : Text} : text ++ rest = s →
      Derives (.literal text) s (.consumed text rest)
  | literal_fail {text s : Text} : ¬ text <+: s → Derives (.literal text) s .fail
  | nothing {s : Text} : Derives .nothing s (.consumed [] s)
  | seq {f g : Form} {s m r m' r' : Text} : Derives f s (.consumed m r) →
      Derives g r (.consumed m' r') → Derives (.seq f g) s (.consumed (m ++ m') r')
  | seq_fail_first {f g : Form} {s : Text} : Derives f s .fail → Derives (.seq f g) s .fail
  | seq_fail_second {f g : Form} {s m r : Text} : Derives f s (.consumed m r) →
      Derives g r .fail → Derives (.seq f g) s .fail
  | alt_first {f g : Form} {s m r : Text} : Derives f s (.consumed m r) →
      Derives (.alt f g) s (.consumed m r)
  | alt_second {f g : Form} {s : Text} {v : Verdict} : Derives f s .fail → Derives g s v →
      Derives (.alt f g) s v
  | many {f : Form} {min n : Nat} {s m r : Text} : Star f s n m r → min ≤ n →
      Derives (.many min f) s (.consumed m r)
  | many_fail {f : Form} {min n : Nat} {s m r : Text} : Star f s n m r → n < min →
      Derives (.many min f) s .fail
  | ahead {f : Form} {s m r : Text} : Derives f s (.consumed m r) →
      Derives (.ahead f) s (.consumed [] s)
  | ahead_fail {f : Form} {s : Text} : Derives f s .fail → Derives (.ahead f) s .fail
  | notAhead {f : Form} {s : Text} : Derives f s .fail → Derives (.notAhead f) s (.consumed [] s)
  | notAhead_fail {f : Form} {s m r : Text} : Derives f s (.consumed m r) →
      Derives (.notAhead f) s .fail

/-- `f` matches `n` times in a row and then not again, which consumes `m` in all and leaves `r`. -/
inductive Star : Form → Text → Nat → Text → Text → Prop where
  | nil {f : Form} {s : Text} : Derives f s .fail → Star f s 0 [] s
  | cons {f : Form} {s m r m' r' : Text} {n : Nat} : Derives f s (.consumed m r) →
      Star f r n m' r' → Star f s (n + 1) (m ++ m') r'

end

/-! ### Verdicts are unique -/

/-- No text has two verdicts. -/
def Form.Decides (f : Form) : Prop := ∀ {s v v'}, Derives f s v → Derives f s v' → v = v'

namespace Form

variable {f g : Form}

theorem decides_literal (text : Text) : Decides (.literal text) := by
  intro s v v' h h'
  cases h with
  | literal hs =>
    cases h' with
    | literal hs' => rw [List.append_cancel_left (hs.trans hs'.symm)]
    | literal_fail hno => exact absurd ⟨_, hs⟩ hno
  | literal_fail hno =>
    cases h' with
    | literal hs' => exact absurd ⟨_, hs'⟩ hno
    | literal_fail => rfl

theorem decides_nothing : Decides .nothing := by
  intro s v v' h h'
  cases h
  cases h'
  rfl

theorem Decides.seq (hf : f.Decides) (hg : g.Decides) : Decides (.seq f g) := by
  intro s v v' h h'
  cases h with
  | seq hm hn =>
    cases h' with
    | seq hm' hn' =>
      obtain ⟨rfl, rfl⟩ := Verdict.consumed.inj (hf hm hm')
      obtain ⟨rfl, rfl⟩ := Verdict.consumed.inj (hg hn hn')
      rfl
    | seq_fail_first hno => exact nomatch hf hm hno
    | seq_fail_second hm' hno =>
      obtain ⟨rfl, rfl⟩ := Verdict.consumed.inj (hf hm hm')
      exact nomatch hg hn hno
  | seq_fail_first hno =>
    cases h' with
    | seq hm _ => exact nomatch hf hno hm
    | seq_fail_first | seq_fail_second => rfl
  | seq_fail_second hm hno =>
    cases h' with
    | seq hm' hn =>
      obtain ⟨rfl, rfl⟩ := Verdict.consumed.inj (hf hm hm')
      exact nomatch hg hno hn
    | seq_fail_first | seq_fail_second => rfl

theorem Decides.alt (hf : f.Decides) (hg : g.Decides) : Decides (.alt f g) := by
  intro s v v' h h'
  cases h with
  | alt_first hm =>
    cases h' with
    | alt_first hm' => exact hf hm hm'
    | alt_second hno _ => exact nomatch hf hm hno
  | alt_second hno hv =>
    cases h' with
    | alt_first hm => exact nomatch hf hno hm
    | alt_second _ hv' => exact hg hv hv'

/-- The star goes on as long as the form matches, so it can end in one place only. -/
theorem Decides.star (hf : f.Decides) {s m r m' r' : Text} {n n' : Nat} (h : Star f s n m r)
    (h' : Star f s n' m' r') : n = n' ∧ m = m' ∧ r = r' := by
  induction n generalizing s m n' m' with
  | zero =>
    obtain ⟨hno⟩ := h
    cases h' with
    | nil => exact ⟨rfl, rfl, rfl⟩
    | cons hm _ => exact nomatch hf hno hm
  | succ n ih =>
    cases h with
    | cons hm h =>
      cases h' with
      | nil hno => exact nomatch hf hno hm
      | cons hm' h' =>
        obtain ⟨rfl, rfl⟩ := Verdict.consumed.inj (hf hm hm')
        obtain ⟨rfl, rfl, rfl⟩ := ih h h'
        exact ⟨rfl, rfl, rfl⟩

theorem Decides.many (hf : f.Decides) (min : Nat) : Decides (.many min f) := by
  intro s v v' h h'
  cases h with
  | many hstar hmin =>
    cases h' with
    | many hstar' _ =>
      obtain ⟨_, rfl, rfl⟩ := hf.star hstar hstar'
      rfl
    | many_fail hstar' hmin' =>
      obtain ⟨rfl, _⟩ := hf.star hstar hstar'
      omega
  | many_fail hstar hmin =>
    cases h' with
    | many hstar' hmin' =>
      obtain ⟨rfl, _⟩ := hf.star hstar hstar'
      omega
    | many_fail => rfl

theorem Decides.ahead (hf : f.Decides) : Decides (.ahead f) := by
  intro s v v' h h'
  cases h with
  | ahead hm =>
    cases h' with
    | ahead => rfl
    | ahead_fail hno => exact nomatch hf hm hno
  | ahead_fail hno =>
    cases h' with
    | ahead hm => exact nomatch hf hno hm
    | ahead_fail => rfl

theorem Decides.notAhead (hf : f.Decides) : Decides (.notAhead f) := by
  intro s v v' h h'
  cases h with
  | notAhead hno =>
    cases h' with
    | notAhead => rfl
    | notAhead_fail hm => exact nomatch hf hno hm
  | notAhead_fail hm =>
    cases h' with
    | notAhead hno => exact nomatch hf hm hno
    | notAhead_fail => rfl

/-- **A form has one verdict on a text at most.** -/
theorem decides (f : Form) : f.Decides := by
  induction f with
  | literal text => exact decides_literal text
  | nothing => exact decides_nothing
  | seq f g ihf ihg => exact ihf.seq ihg
  | alt f g ihf ihg => exact ihf.alt ihg
  | many min f ih => exact ih.many min
  | ahead f ih => exact ih.ahead
  | notAhead f ih => exact ih.notAhead

end Form

/-! ### The form of an expression -/

/-- What is left of an expression without its marks. An option is a choice whose last alternative
is nothing, a guard is a sequence whose second part consumes nothing, and a production is its
body. -/
def Expr.form {α : Type} : Expr α → Form
  | .terminal _ literal => .literal literal
  | .empty _ => .nothing
  | .sequence _ first second => .seq first.form second.form
  | .choice _ first second => .alt first.form second.form
  | .optional _ body => .alt body.form .nothing
  | .repetition _ body min => .many min body.form
  | .ahead _ current forward => .seq current.form (.ahead forward.form)
  | .notAhead _ current forward => .seq current.form (.notAhead forward.form)
  | .production _ body => body.form

end Peg
