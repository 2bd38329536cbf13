import Peg.Proofs.Construction
import Peg.Proofs.Totality
import Peg.Proofs.Unquoting

/-! Grammars, read back from their text.

The text of a grammar is read from left to right, with what was begun on a stack. An
operator stands behind what it is for, so an expression that is complete may still turn
out to be the body of a larger one; a state behind an expression lets that happen. What
was read is built by the operations that build any grammar, so it is well-formed from
the start. A listener shows by its sign and by nothing else: each one that is read does
nothing, and so the grammar that comes back is `Grammar.muted`.

`runs_render` is by induction on the expression, whatever was begun before it. Each case
ends with the sign of a listener, which is the same step for all of them
(`Reading.runs_sign`).

There must be no look-ahead. The text has no brackets around it, so an operator behind it
may be for the expression that is looked ahead at, or for the whole. -/
namespace Peg

variable {α β : Type}

/-! ### Muted listeners -/

/-- A listener that does nothing. -/
def mute : Listener Unit := { action := fun _ => () }

/-- The mark with such a listener in place of any other. -/
def Mark.muted (mark : Mark α) : Mark Unit :=
  { nullable := mark.nullable, listener? := mark.listener?.map fun _ => mute }

namespace Expr

/-- The expression with a listener that does nothing wherever it has one. -/
def muted : Expr α → Expr Unit
  | .terminal mark literal => .terminal mark.muted literal
  | .empty mark => .empty mark.muted
  | .sequence mark first second => .sequence mark.muted first.muted second.muted
  | .choice mark first second => .choice mark.muted first.muted second.muted
  | .optional mark body => .optional mark.muted body.muted
  | .repetition mark body min => .repetition mark.muted body.muted min
  | .ahead mark current forward => .ahead mark.muted current.muted forward.muted
  | .notAhead mark current forward => .notAhead mark.muted current.muted forward.muted
  | .production mark body => .production mark.muted body.muted

@[simp] theorem mark_muted (e : Expr α) : e.muted.mark = e.mark.muted := by
  cases e <;> rfl

@[simp] theorem nullable_muted (e : Expr α) : e.muted.nullable = e.nullable := by
  cases e <;> rfl

theorem WellFormed.muted {e : Expr α} (h : e.WellFormed) : e.muted.WellFormed := by
  induction e with
  | terminal | empty => exact h
  | sequence mark a b iha ihb | choice mark a b iha ihb | ahead mark a b iha ihb
  | notAhead mark a b iha ihb =>
    refine ⟨h.1.trans ?_, iha h.2.1, ihb h.2.2⟩
    simp only [rule, Expr.muted, nullable_muted]
  | optional mark body ih => exact ⟨h.1, ih h.2⟩
  | repetition mark body min ih => exact ⟨h.1, (nullable_muted body).trans h.2.1, ih h.2.2⟩
  | production mark body ih =>
    refine ⟨h.1.trans (nullable_muted body).symm, ?_, ih h.2.2⟩
    show (mark.listener?.map _).isSome = true
    rw [Option.isSome_map]
    exact h.2.1

theorem bare_muted (e : Expr α) : e.muted.bare = e.bare := by
  induction e with
  | terminal | empty => rfl
  | sequence mark a b iha ihb | choice mark a b iha ihb | ahead mark a b iha ihb
  | notAhead mark a b iha ihb => simp only [muted, bare, iha, ihb]
  | optional mark body ih | repetition mark body min ih | production mark body ih =>
    simp only [muted, bare, ih]

end Expr

namespace Grammar
open Text

theorem ext {g g' : Grammar α} (h : g.expr = g'.expr) : g = g' := by
  cases g
  cases g'
  cases h
  rfl

/-- The grammar with a listener that does nothing wherever it has one. -/
def muted (g : Grammar α) : Grammar Unit := ⟨g.expr.muted, g.wellFormed.muted⟩

/-! ### The reader -/

/-- An expression that was begun and is not complete. -/
inductive Opened where
  /-- A sequence or a choice, before its first part. -/
  | pair
  /-- A sequence, before its second part. -/
  | sequence (first : Grammar Unit)
  /-- A choice, before its second part. -/
  | choice (first : Grammar Unit)
  /-- A production, before its body. -/
  | production

/-- How far a text was read. What was opened last comes first. -/
inductive Reading where
  /-- Before an expression. -/
  | before (opened : List Opened)
  /-- In a literal. -/
  | literal (opened : List Opened) (quoted : Unquoting)
  /-- Behind an expression; it may be part of a larger one. -/
  | behind (opened : List Opened) (g : Grammar Unit)
  /-- Behind the first part of a sequence or a choice, and a space. -/
  | gap (outer : List Opened) (first : Grammar Unit)
  /-- Behind the first part of a choice, and a space and a slash. -/
  | slash (outer : List Opened) (first : Grammar Unit)
  /-- In the number of a repetition. -/
  | count (opened : List Opened) (body : Grammar Unit) (min : Nat)
  /-- Behind the comma after that number. -/
  | comma (opened : List Opened) (body : Grammar Unit) (min : Nat)

namespace Reading

/-- In a literal, or behind it. -/
def quoting (opened : List Opened) : Unquoting → Reading :=
  Unquoting.standing (.literal opened) fun s => .behind opened (terminal s)

/-- The first character of an expression. -/
def enter (opened : List Opened) : Char → Option Reading
  | '"' => some (.literal opened (.between []))
  | 'ε' => some (.behind opened empty)
  | '(' => some (.before (.pair :: opened))
  | '<' => some (.before (.production :: opened))
  | _ => none

/-- The character behind an expression that ends with it, or that it ends. -/
def close (g : Grammar Unit) : List Opened → Char → Option Reading
  | .pair :: outer, ' ' => some (.gap outer g)
  | .sequence first :: outer, ')' => some (.behind outer (first.andThen g))
  | .choice first :: outer, ')' => some (.behind outer (first.orElse g))
  | .production :: outer, '>' => some (.behind outer (g.listen mute))
  | _, _ => none

def step : Reading → Char → Option Reading
  | .before opened, c => enter opened c
  | .literal opened quoted, c => (quoted.step c).map (quoting opened)
  | .behind opened g, '?' => some (.behind opened g.optionally)
  | .behind opened g, '\x7b' => some (.count opened g 0)
  | .behind opened g, '@' => some (.behind opened (g.withListener mute))
  | .behind opened g, c => close g opened c
  | .gap outer first, '/' => some (.slash outer first)
  | .gap outer first, c => enter (.sequence first :: outer) c
  | .slash outer first, ' ' => some (.before (.choice first :: outer))
  | .count opened body min, ',' => some (.comma opened body min)
  | .count opened body min, c => some (.count opened body (10 * min + (c.toNat - '0'.toNat)))
  | .comma opened body min, '\x7d' => (body.times min).toOption.map (.behind opened)
  | _, _ => none

theorem runs_quote (opened : List Opened) (literal : Text) :
    Runs step (.before opened) literal.quote (.behind opened (terminal literal)) :=
  Unquoting.runs_inside (Reading.literal opened) (fun s => behind opened (terminal s)) rfl
    (fun _ _ => rfl) literal

/-- The second part of a sequence is read as what it is. -/
theorem runs_gap {outer opened : List Opened} {first g : Grammar Unit} {s : Text}
    (h : Runs step (.before (.sequence first :: outer)) s (.behind opened g)) :
    Runs step (.gap outer first) s (.behind opened g) := by
  cases s with
  | nil => exact nomatch h
  | cons c s =>
    obtain ⟨middle, hstep, hrest⟩ := runs_cons.mp h
    have hc : c ≠ '/' := by
      rintro rfl
      exact nomatch hstep
    refine .cons ?_ hrest
    simpa only [step, hc] using hstep

theorem runs_digits (opened : List Opened) (body : Grammar Unit) {digits : Text}
    (h : ∀ c ∈ digits, c ≠ ',') (min : Nat) : Runs step (.count opened body min) digits
      (.count opened body (Nat.ofDigitChars 10 digits min)) := by
  induction digits generalizing min with
  | nil => exact .nil
  | cons c digits ih =>
    obtain ⟨hc, hdigits⟩ := List.forall_mem_cons.mp h
    refine .cons ?_ (ih hdigits _)
    simp only [step]

theorem runs_numeral (opened : List Opened) (body : Grammar Unit) (min : Nat) :
    Runs step (.count opened body 0) (Nat.toDigits 10 min) (.count opened body min) := by
  have hdigits : ∀ c ∈ Nat.toDigits 10 min, c ≠ ',' :=
    forall_mem_toDigits (by decide) (by decide) min
  have hrun := runs_digits opened body hdigits 0
  rwa [Nat.ofDigitChars_toDigits (by decide) (by decide)] at hrun

theorem step_comma {opened : List Opened} {body : Grammar Unit} (min : Nat)
    (h : body.nullable = false) :
    step (.comma opened body min) '\x7d' = some (.behind opened (body.atLeast min h)) := by
  simp only [step, times_atLeast h]
  rfl

/-- A node that is built of muted parts, and gets a listener where one shows, is the muted node. -/
theorem runs_sign {e : Expr α} (h : e.WellFormed) {g : Grammar Unit} (hflag : g.nullable = e.rule)
    (hbare : e.mark.listener? = none → g.expr.listener? = none)
    (he : e.muted = g.expr.remark e.mark.muted) (opened : List Opened) :
    Runs step (.behind opened g) (Expr.render.sign e.mark) (.behind opened (muted ⟨e, h⟩)) := by
  have hnullable : e.mark.nullable = g.expr.mark.nullable := h.nullable_eq.trans hflag.symm
  unfold Expr.render.sign
  unfold Mark.muted at he
  rw [hnullable] at he
  cases hl : e.mark.listener? with
  | none =>
    have hmark : (⟨g.expr.mark.nullable, none⟩ : Mark Unit) = g.expr.mark := by
      rw [← hbare hl]
      rfl
    have hsame : e.muted = g.expr := by
      rw [he, hl, Option.map_none, hmark, Expr.remark_mark]
    rw [show muted ⟨e, h⟩ = g from ext hsame]
    exact .nil
  | some listener =>
    have hsame : e.muted = (g.withListener mute).expr := by
      rw [he, hl]
      rfl
    rw [show muted ⟨e, h⟩ = g.withListener mute from ext hsame]
    exact .single rfl

end Reading

/-! ### What a grammar is shown as is read -/

@[simp] theorem nullable_muted (g : Grammar α) : g.muted.nullable = g.nullable :=
  g.expr.nullable_muted

open Reading in
theorem runs_render {e : Expr α} (h : e.WellFormed) (hfree : e.LookaheadFree)
    (opened : List Opened) :
    Runs step (.before opened) e.render (.behind opened (muted ⟨e, h⟩)) := by
  induction e generalizing opened with
  | terminal mark literal =>
    have hsign := runs_sign h (g := terminal literal) rfl (fun _ => rfl) rfl opened
    exact (runs_quote opened literal).append hsign
  | empty mark =>
    have hsign := runs_sign h (g := empty) rfl (fun _ => rfl) rfl opened
    exact .cons rfl hsign
  | sequence mark a b iha ihb =>
    obtain ⟨hfa, hfb⟩ := Expr.forall_mem_parts hfree
    let first : Grammar α := ⟨a, h.2.1⟩
    let second : Grammar α := ⟨b, h.2.2⟩
    have hfirst := iha h.2.1 hfa (.pair :: opened)
    have hsecond := runs_gap (ihb h.2.2 hfb (.sequence first.muted :: opened))
    have hflag : (first.muted.andThen second.muted).nullable = (a.nullable && b.nullable) :=
      congr (congrArg and first.nullable_muted) second.nullable_muted
    have hsign :=
      runs_sign h (g := first.muted.andThen second.muted) hflag (fun _ => rfl) rfl opened
    exact ((Runs.cons rfl hfirst).append (.cons rfl hsecond)).append (.cons rfl hsign)
  | choice mark a b iha ihb =>
    obtain ⟨hfa, hfb⟩ := Expr.forall_mem_parts hfree
    let first : Grammar α := ⟨a, h.2.1⟩
    let second : Grammar α := ⟨b, h.2.2⟩
    have hfirst := iha h.2.1 hfa (.pair :: opened)
    have hslash : Runs step (.behind (.pair :: opened) first.muted) " / ".toList
      (.before (.choice first.muted :: opened)) := rfl
    have hsecond := ihb h.2.2 hfb (.choice first.muted :: opened)
    have hflag : (first.muted.orElse second.muted).nullable = (a.nullable || b.nullable) :=
      congr (congrArg or first.nullable_muted) second.nullable_muted
    have hsign :=
      runs_sign h (g := first.muted.orElse second.muted) hflag (fun _ => rfl) rfl opened
    exact (((Runs.cons rfl hfirst).append hslash).append hsecond).append (.cons rfl hsign)
  | optional mark body ih =>
    let g : Grammar α := ⟨body, h.2⟩
    have hbody := ih h.2 (Expr.forall_mem_body hfree) opened
    have hsign := runs_sign h (g := g.muted.optionally) rfl (fun _ => rfl) rfl opened
    exact hbody.append (.cons rfl hsign)
  | repetition mark body min ih =>
    let g : Grammar α := ⟨body, h.2.2⟩
    have hconsumes : g.muted.nullable = false := g.nullable_muted.trans h.2.1
    have hbody := ih h.2.2 (Expr.forall_mem_body hfree) opened
    have hmin := runs_numeral opened g.muted min
    have hsign := runs_sign h (g := g.muted.atLeast min hconsumes) rfl (fun _ => rfl) rfl opened
    have hclose := Runs.cons (step_comma min hconsumes) hsign
    exact (hbody.append (.cons rfl hmin)).append (.cons rfl hclose)
  | ahead mark a b => exact absurd rfl (hfree _ (Expr.self_mem_nodes _)).1
  | notAhead mark a b => exact absurd rfl (hfree _ (Expr.self_mem_nodes _)).2
  | production mark body ih =>
    let g : Grammar α := ⟨body, h.2.2⟩
    have hbody := ih h.2.2 (Expr.forall_mem_body hfree) (.production :: opened)
    have hlistener : mark.listener? ≠ none := Option.isSome_iff_ne_none.mp h.2.1
    have hsign := runs_sign h (g := g.muted.listen mute) g.nullable_muted
      (fun hnone => absurd hnone hlistener) rfl opened
    exact (Runs.cons rfl hbody).append (.cons rfl hsign)

/-- The grammar that a text shows, with listeners that do nothing. A text that shows none may be
read as well, and one with a look-ahead in it is not. -/
def read? (s : Text) : Option (Grammar Unit) :=
  match s.foldlM Reading.step (.before []) with
  | some (.behind [] g) => some g
  | _ => none

theorem read?_render {g : Grammar α} (h : g.expr.LookaheadFree) :
    read? g.render = some g.muted := by
  have hrun : g.expr.render.foldlM Reading.step (.before []) = some (.behind [] g.muted) :=
    runs_render g.wellFormed h []
  unfold read? render
  rw [hrun]

/-! ### What the text of a grammar determines -/

/-- **The text of a grammar without look-ahead determines how it matches.** Two of them that show
the same text, whatever their listeners do and their types of values are, are the same tree, node
by node, with the same literals and minima, and have listeners at the same nodes. So they agree on
whether they are nullable and on what they may begin with; and on every text and in both modes they
skip, match and leave the same. -/
theorem render_determines_matching [TreeLike α] [TreeLike β] {g : Grammar α} {g' : Grammar β}
    (hfree : g.expr.LookaheadFree) (hfree' : g'.expr.LookaheadFree) (h : g.render = g'.render) :
    g.muted = g'.muted ∧ g.nullable = g'.nullable ∧ g.first = g'.first ∧
    ∀ mode input, (g.parseIn mode input).span = (g'.parseIn mode input).span := by
  have hmuted : g.muted = g'.muted := by
    have hread := read?_render hfree
    rw [h, read?_render hfree'] at hread
    exact (Option.some.inj hread).symm
  have hbare : g.expr.bare = g'.expr.bare := by
    calc g.expr.bare
      _ = g.muted.expr.bare := g.expr.bare_muted.symm
      _ = g'.muted.expr.bare := by rw [hmuted]
      _ = g'.expr.bare := g'.expr.bare_muted
  refine ⟨hmuted, ?_, ?_, fun mode input => ?_⟩
  · rw [← g.nullable_muted, hmuted, nullable_muted]
  · show g.expr.first = g'.expr.first
    rw [← Expr.first_bare g.wellFormed, hbare, Expr.first_bare g'.wellFormed]
  · have hleft : g.expr.run.Alike id g.expr.bare.run := g.expr.run_bare_alike
    have hright : g'.expr.run.Alike id g'.expr.bare.run := g'.expr.run_bare_alike
    rw [hbare] at hleft
    exact (hleft.trans hright.symm mode input).result

/-- A quote among the literals, and listeners of two types. -/
theorem render_determines_matching_quotes :
    let quotes : Grammar Tree :=
      (((terminal ['"']).orElse (terminal ['1'])).atLeast 2 rfl).listen ReadyMade.matchedText
    let quotes' : Grammar Text :=
      (((terminal ['"']).orElse (terminal ['1'])).atLeast 2 rfl).listen { action := fun _ => [] }
    quotes.render = "<(\"\\\"\" / \"1\")\x7b2,\x7d>@".toList ∧ quotes'.render = quotes.render ∧
    quotes'.muted = quotes.muted ∧
    (quotes'.parse "1\"1.".toList).span = (quotes.parse "1\"1.".toList).span := by
  intro quotes quotes'
  have hsame : quotes'.render = quotes.render := by decide +kernel
  obtain ⟨hmuted, _, _, hspan⟩ := render_determines_matching (by decide) (by decide) hsame
  exact ⟨by decide +kernel, hsame, hmuted, hspan .lenient _⟩

/-- An operator behind what is looked ahead at does not tell which of the two it is for. -/
example :
    let a : Grammar Tree := terminal ['a']
    (a.before a).optionally.render = (a.before a.optionally).render := by
  decide +kernel

end Grammar

end Peg
