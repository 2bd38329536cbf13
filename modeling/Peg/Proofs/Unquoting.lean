import Peg.Proofs.Printed

/-! Quoted texts, read back.

`Unquoting.step` reads a quoted text one character at a time. It takes nothing but
what quoting writes: no character without an escape that needs one, no escape that
is not needed, no code point in other digits. So the state always tells what was
read, to the letter (`written_step`), and `unquote?` accepts the quoted texts and no
others (`unquote?_eq_some_iff`).

A reader is its step on a character; `Runs` is what it comes to on a text. Where quoted
texts stand among other things, the reader of the whole does between the quotes what
this one does (`Unquoting.runs_inside`). -/
namespace Peg.Text

/-! ### Readers -/

section Readers

variable {σ τ : Type} {step : σ → Char → Option σ} {step' : τ → Char → Option τ}
variable {s t : Text} {c : Char} {state middle state' : σ}

/-- Reading a text leads from the one state to the other. -/
def Runs (step : σ → Char → Option σ) (state : σ) (s : Text) (state' : σ) : Prop :=
  s.foldlM step state = some state'

theorem Runs.nil : Runs step state [] state := rfl

theorem runs_cons : Runs step state (c :: s) state' ↔
    ∃ middle, step state c = some middle ∧ Runs step middle s state' := by
  unfold Runs
  rw [List.foldlM_cons]
  exact Option.bind_eq_some_iff

theorem Runs.cons (h : step state c = some middle) (hs : Runs step middle s state') :
    Runs step state (c :: s) state' := runs_cons.mpr ⟨middle, h, hs⟩

theorem Runs.single (h : step state c = some state') : Runs step state [c] state' := .cons h .nil

theorem Runs.append (hs : Runs step state s middle) (ht : Runs step middle t state') :
    Runs step state (s ++ t) state' := by
  unfold Runs at hs ht ⊢
  rw [List.foldlM_append, hs]
  exact ht

/-- A state that tells what each step has read tells what a run has read. -/
theorem Runs.written_eq (written : σ → Text)
    (h : ∀ {state state' c}, step state c = some state' → written state' = written state ++ [c])
    (hrun : Runs step state s state') : written state' = written state ++ s := by
  induction s generalizing state with
  | nil =>
    cases hrun
    exact (List.append_nil _).symm
  | cons c s ih =>
    obtain ⟨middle, hstep, hrest⟩ := runs_cons.mp hrun
    rw [ih hrest, h hstep, List.append_assoc]
    rfl

/-- A reader that takes the steps of another one takes its runs. -/
theorem Runs.map (f : σ → τ)
    (h : ∀ {state state' c}, step state c = some state' → step' (f state) c = some (f state'))
    (hrun : Runs step state s state') : Runs step' (f state) s (f state') := by
  induction s generalizing state with
  | nil =>
    cases hrun
    exact .nil
  | cons c s ih =>
    obtain ⟨middle, hstep, hrest⟩ := runs_cons.mp hrun
    exact .cons (h hstep) (ih hrest)

end Readers

/-! ### Hexadecimal digits -/

def hexDigit (c : Char) : Nat := "0123456789abcdef".toList.idxOf c

def hexValue (digits : Text) : Nat := digits.foldl (fun n c => 16 * n + hexDigit c) 0

theorem hexValue_toDigits (n : Nat) : hexValue (Nat.toDigits 16 n) = n := by
  have hdigit : ∀ d < 16, hexDigit (Nat.digitChar d) = d := by decide
  induction n using Nat.strongRecOn with
  | ind n ih =>
    rw [Nat.toDigits_eq_if (by decide)]
    split
    next hn =>
      simp only [hexValue, List.foldl_cons, List.foldl_nil, hdigit n hn]
      omega
    next hn =>
      have hfront := ih (n / 16) (by omega)
      unfold hexValue at hfront ⊢
      rw [List.foldl_append, hfront, List.foldl_cons, List.foldl_nil, hdigit _ (by omega)]
      omega

/-! ### Escapes -/

/-- The character that is written as a backslash and this letter. -/
def unescape? : Char → Option Char
  | '0' => some '\x00'
  | 't' => some '\t'
  | 'n' => some '\n'
  | 'r' => some '\r'
  | '"' => some '"'
  | '\\' => some '\\'
  | _ => none

theorem escape_of_unescape? {letter c : Char} (h : unescape? letter = some c) :
    escape c = ['\\', letter] := by
  unfold unescape? at h
  split at h <;> cases h <;> rfl

theorem escape_of_isPrintable {c : Char} (h : isPrintable c = true) (hquote : c ≠ '"')
    (hbackslash : c ≠ '\\') : escape c = [c] := by
  unfold escape
  split
  case h_5 => exact absurd rfl hquote
  case h_6 => exact absurd rfl hbackslash
  case h_7 => rw [if_pos h]
  all_goals exact absurd h (by decide +kernel)

/-- The three ways in which a character is written. -/
theorem escape_cases (c : Char) :
    (escape c = [c] ∧ isPrintable c = true ∧ c ≠ '"' ∧ c ≠ '\\') ∨
    (∃ letter, unescape? letter = some c ∧ escape c = ['\\', letter]) ∨
    escape c = codePointEscape c := by
  unfold escape
  split
  case h_1 => exact .inr (.inl ⟨'0', rfl, rfl⟩)
  case h_2 => exact .inr (.inl ⟨'t', rfl, rfl⟩)
  case h_3 => exact .inr (.inl ⟨'n', rfl, rfl⟩)
  case h_4 => exact .inr (.inl ⟨'r', rfl, rfl⟩)
  case h_5 => exact .inr (.inl ⟨'"', rfl, rfl⟩)
  case h_6 => exact .inr (.inl ⟨'\\', rfl, rfl⟩)
  case h_7 hquote hbackslash =>
    split
    next h => exact .inl ⟨rfl, h, hquote, hbackslash⟩
    next => exact .inr (.inr rfl)

/-! ### Reading a quoted text -/

/-- How far a quoted text was read, and the characters that were found in it. -/
inductive Unquoting where
  /-- Behind the opening quote, and after a character if there is one. -/
  | between (found : Text)
  /-- Behind a backslash. -/
  | escaped (found : Text)
  /-- Behind a backslash and `u`. -/
  | marked (found : Text)
  /-- Among the digits of a code point. -/
  | numbered (found digits : Text)
  /-- Behind the closing quote. -/
  | closed (found : Text)

namespace Unquoting

def step : Unquoting → Char → Option Unquoting
  | .between found, c =>
    if c = '"' then some (.closed found)
    else if c = '\\' then some (.escaped found)
    else if isPrintable c then some (.between (found ++ [c])) else none
  | .escaped found, c =>
    if c = 'u' then some (.marked found)
    else (unescape? c).map fun d => .between (found ++ [d])
  | .marked found, c => if c = '\x7b' then some (.numbered found []) else none
  | .numbered found digits, c =>
    if c = '\x7d' then
      let d := Char.ofNat (hexValue digits)
      if escape d = ['\\', 'u', '\x7b'] ++ digits ++ ['\x7d'] then some (.between (found ++ [d]))
      else none
    else some (.numbered found (digits ++ [c]))
  | .closed _, _ => none

/-- What was read. -/
def written : Unquoting → Text
  | .between found => '"' :: found.flatMap escape
  | .escaped found => '"' :: found.flatMap escape ++ ['\\']
  | .marked found => '"' :: found.flatMap escape ++ ['\\', 'u']
  | .numbered found digits => '"' :: found.flatMap escape ++ (['\\', 'u', '\x7b'] ++ digits)
  | .closed found => found.quote

theorem written_between (found : Text) (c : Char) :
    written (.between (found ++ [c])) = written (.between found) ++ escape c := by
  simp [written]

theorem written_step {q q' : Unquoting} {c : Char} (h : q.step c = some q') :
    q'.written = q.written ++ [c] := by
  cases q with
  | between found =>
    simp only [step] at h
    split at h
    next hc =>
      cases h
      rw [hc]
      rfl
    next hquote =>
      split at h
      next hc =>
        cases h
        rw [hc]
        rfl
      next hbackslash =>
        split at h
        next hc =>
          cases h
          rw [written_between, escape_of_isPrintable hc hquote hbackslash]
        next => exact nomatch h
  | escaped found =>
    simp only [step] at h
    split at h
    next hc =>
      cases h
      simp [written, hc]
    next =>
      obtain ⟨d, hd, rfl⟩ := Option.map_eq_some_iff.mp h
      rw [written_between, escape_of_unescape? hd]
      simp [written]
  | marked found =>
    simp only [step] at h
    split at h
    next hc =>
      cases h
      simp [written, hc]
    next => exact nomatch h
  | numbered found digits =>
    simp only [step] at h
    split at h
    next hc =>
      split at h
      next hd =>
        cases h
        rw [written_between, hd, hc]
        simp [written]
      next => exact nomatch h
    next =>
      cases h
      simp [written]
  | closed found => exact nomatch h

/-! ### What quoting writes is read -/

theorem runs_digits {digits : Text} (h : ∀ c ∈ digits, c ≠ '\x7d') (found before : Text) :
    Runs step (.numbered found before) digits (.numbered found (before ++ digits)) := by
  induction digits generalizing before with
  | nil =>
    rw [List.append_nil]
    exact .nil
  | cons c digits ih =>
    obtain ⟨hc, hdigits⟩ := List.forall_mem_cons.mp h
    have hrest := ih hdigits (before ++ [c])
    rw [List.append_assoc] at hrest
    exact .cons (if_neg hc) hrest

theorem runs_codePointEscape {c : Char} (h : escape c = codePointEscape c) (found : Text) :
    Runs step (.between found) (codePointEscape c) (.between (found ++ [c])) := by
  have hdigits : ∀ d ∈ Nat.toDigits 16 c.toNat, d ≠ '\x7d' :=
    forall_mem_toDigits (by decide) (by decide) _
  have hclosing : step (.numbered found (Nat.toDigits 16 c.toNat)) '\x7d' =
      some (.between (found ++ [c])) := by
    have hback : Char.ofNat (hexValue (Nat.toDigits 16 c.toNat)) = c := by
      rw [hexValue_toDigits, Char.ofNat_toNat]
    simp only [step, hback]
    exact if_pos h
  have hopening : Runs step (.between found) ['\\', 'u', '\x7b'] (.numbered found []) := rfl
  exact (hopening.append (runs_digits hdigits found [])).append (.single hclosing)

/-- The way in which a character is written is read as that character. -/
theorem runs_escape (c : Char) (found : Text) :
    Runs step (.between found) (escape c) (.between (found ++ [c])) := by
  rcases escape_cases c with ⟨hc, hprintable, hquote, hbackslash⟩ | ⟨letter, hletter, hc⟩ | hc
  · rw [hc]
    refine .single ?_
    simp only [step, if_neg hquote, if_neg hbackslash, if_pos hprintable]
  · have hu : letter ≠ 'u' := by
      rintro rfl
      exact nomatch hletter
    rw [hc]
    refine .cons rfl (.single ?_)
    simp only [step, if_neg hu, hletter, Option.map_some]
  · rw [hc]
    exact runs_codePointEscape hc found

theorem runs_escapes (s found : Text) :
    Runs step (.between found) (s.flatMap escape) (.between (found ++ s)) := by
  induction s generalizing found with
  | nil =>
    rw [List.append_nil]
    exact .nil
  | cons c s ih =>
    have hrest := ih (found ++ [c])
    rw [List.append_assoc] at hrest
    rw [List.flatMap_cons]
    exact (runs_escape c found).append hrest

/-- All of a quoted text but its opening quote. -/
theorem runs_quoted (s : Text) :
    Runs step (.between []) (s.flatMap escape ++ ['"']) (.closed s) :=
  (runs_escapes s []).append (.single rfl)

/-! ### Among other things -/

section Inside

variable {σ : Type} {step' : σ → Char → Option σ} {before : σ}
variable (inside : Unquoting → σ) (behind : Text → σ)

/-- Where a reader stands that comes upon a quoted text: inside it, or behind it. -/
def standing : Unquoting → σ
  | .closed s => behind s
  | q => inside q

/-- A reader that goes inside at a quote, and takes the steps of this one there, comes out with the
text that was quoted. -/
theorem runs_inside (hquote : step' before '"' = some (inside (.between [])))
    (h : ∀ q c, step' (inside q) c = (q.step c).map (standing inside behind)) (s : Text) :
    Runs step' before s.quote (behind s) := by
  have hinside : Runs step' (inside (.between [])) (s.flatMap escape ++ ['"']) (behind s) := by
    refine (runs_quoted s).map (standing inside behind) fun {q q' c} hstep => ?_
    cases q with
    | closed found => exact nomatch hstep
    | between | escaped | marked | numbered =>
      show step' (inside _) c = _
      rw [h, hstep, Option.map_some]
  exact .cons hquote hinside

end Inside

end Unquoting

/-! ### Quoted texts -/

/-- The text that is quoted so. -/
def unquote? : Text → Option Text
  | '"' :: rest =>
    match rest.foldlM Unquoting.step (.between []) with
    | some (.closed s) => some s
    | _ => none
  | _ => none

theorem unquote?_eq_some {s t : Text} : unquote? t = some s ↔
    ∃ rest, t = '"' :: rest ∧ Runs Unquoting.step (.between []) rest (.closed s) := by
  unfold unquote? Runs
  constructor
  · intro h
    split at h
    next rest =>
      split at h
      next hrun =>
        cases h
        exact ⟨rest, rfl, hrun⟩
      next => exact nomatch h
    next => exact nomatch h
  · rintro ⟨rest, rfl, hrun⟩
    simp only [hrun]

/-- **Unquoting accepts exactly what quoting writes.** -/
theorem unquote?_eq_some_iff {s t : Text} : unquote? t = some s ↔ t = s.quote := by
  rw [unquote?_eq_some]
  constructor
  · rintro ⟨rest, rfl, hrun⟩
    exact (hrun.written_eq Unquoting.written Unquoting.written_step).symm
  · rintro rfl
    exact ⟨_, rfl, Unquoting.runs_quoted s⟩

example : unquote? "\"a\\tb\\u\x7b7\x7d\"".toList = some ['a', '\t', 'b', '\x07'] := by
  decide +kernel

/-- An escape that is not needed. -/
example : unquote? "\"\\u\x7b61\x7d\"".toList = none := by decide +kernel

end Peg.Text
