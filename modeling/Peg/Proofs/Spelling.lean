import Peg.Proofs.Repetition
import Peg.Grammar.ReadyMade

/-! Values that spell what was matched.

A `reading` of values as texts that respects the four operations, `IsHom`, is
compared with the text that a match takes: an outcome is `SpelledBy` a reading when
its value is read as its matched text. Every combinator keeps this, although it
builds the value from the values of its parts and takes the matched text from its own
input, by size. A listener keeps it if it is `Faithful`.

`Grammar.value_spells_matched` has both readings: a tree is read as its leaves, and a
text as itself. -/
namespace Peg

/-! ### Readings -/

/-- A map of values that respects the operations. -/
structure TreeLike.IsHom {α β : Type} [TreeLike α] [TreeLike β] (f : α → β) : Prop where
  text : ∀ s, f (TreeLike.text s) = TreeLike.text s
  pair : ∀ a b, f (TreeLike.pair a b) = TreeLike.pair (f a) (f b)
  list : ∀ items, f (TreeLike.list items) = TreeLike.list (items.map f)
  nothing : f TreeLike.nothing = TreeLike.nothing

theorem Tree.flatten_isHom : TreeLike.IsHom Tree.flatten :=
  ⟨fun _ => rfl, fun _ _ => rfl, flattenAll_eq, rfl⟩

theorem TreeLike.isHom_id {α : Type} [TreeLike α] : TreeLike.IsHom (id : α → α) :=
  ⟨fun _ => rfl, fun _ _ => rfl, fun items => by rw [List.map_id, id], rfl⟩

variable {α : Type} {reading : α → Text}

/-- The value, if there is one, is read as what was matched. -/
def Outcome.SpelledBy (reading : α → Text) (o : Outcome α) : Prop :=
  ∀ a, o.value? = some a → reading a = o.matched

theorem Outcome.SpelledBy.failure (rest : Text) : (Outcome.failure rest).SpelledBy reading :=
  fun _ h => nomatch h

theorem Outcome.SpelledBy.success {matched rest : Text} {a : α} (h : reading a = matched) :
    (Outcome.success matched rest a).SpelledBy reading := by
  intro b hb
  obtain rfl : a = b := Option.some.inj hb
  exact h

theorem Outcome.SpelledBy.ofParts {skipped matched rest : Text} {a : α} (h : reading a = matched) :
    (Outcome.ofParts skipped matched rest a).SpelledBy reading := by
  intro b hb
  rw [value?_ofParts] at hb
  obtain rfl : a = b := Option.some.inj hb
  rw [matched_ofParts]
  exact h

/-- A listener that spells the match wherever the value that it is given does. -/
def Listener.Faithful (reading : α → Text) (listener : Listener α) : Prop :=
  ∀ (o : Outcome α) a, o.value? = some a → reading a = o.matched →
    reading (listener.action o) = o.matched

theorem Outcome.SpelledBy.withValue {o : Outcome α} (h : o.SpelledBy reading)
    {listener : Listener α} (hl : listener.Faithful reading) :
    (o.withValue (listener.action o)).SpelledBy reading := by
  intro b hb
  rw [value?_withValue] at hb
  obtain ⟨a, ha, rfl⟩ := Option.map_eq_some_iff.mp hb
  rw [matched_withValue]
  exact hl o a ha (h a ha)

/-! ### Combinators -/

namespace Matcher
open Outcome

variable {first second body current forward : Matcher α}

def Spelling (reading : α → Text) (m : Matcher α) : Prop :=
  ∀ mode input, (m mode input).result.SpelledBy reading

theorem spelling_terminal [TreeLike α] (hr : TreeLike.IsHom reading) (literal : Text) :
    (terminal literal : Matcher α).Spelling reading := by
  intro mode input
  rw [result_terminal]
  cases hn : offset? literal mode input with
  | none => exact .failure input
  | some n =>
    obtain ⟨front, back, rfl, rfl, _⟩ := offset?_eq_some hn
    simp only [split_byteSize]
    exact .ofParts (hr.text literal)

theorem spelling_empty [TreeLike α] (hr : TreeLike.IsHom reading) :
    (empty : Matcher α).Spelling reading := by
  intro mode input
  rw [result_empty]
  exact .success (hr.text [])

theorem Spelling.sequence [TreeLike α] (hr : TreeLike.IsHom reading) (pa : first.Partitioning)
    (pb : second.Partitioning) (ha : first.Spelling reading) (hb : second.Spelling reading) :
    (sequence first second).Spelling reading := by
  intro mode input
  rcases pa.result_sequence pb mode input with ⟨hf, _⟩ | ⟨a, b, hva, hvb, hj⟩
  · rw [hf]
    exact .failure input
  · have hleft : reading a = (first mode input).result.matched := ha mode input a hva
    have hright : reading b = (follow first second mode input).matched := hb _ _ b hvb
    rw [hj]
    refine .ofParts ?_
    rw [hr.pair, hleft, hright]
    rfl

theorem Spelling.optional [TreeLike α] (hr : TreeLike.IsHom reading) (h : body.Spelling reading) :
    (optional body).Spelling reading := by
  intro mode input
  rw [result_optional]
  split
  · exact h mode input
  · exact .success hr.nothing

/-- The items of the loop spell, in their order, what they take from the input. -/
theorem Spelling.iterates (h : body.Spelling reading) (hp : body.Partitioning) {input rest : Text}
    {items : List α} (hiter : Iterates body input items rest) :
    (items.map reading).flatten ++ rest = input := by
  induction hiter with
  | nil input => rfl
  | @cons input rest a items hv _ ih =>
    have hitem := hp .strict input
    have hparts := hitem.parts
    rw [hitem.skipped_strict, List.nil_append, ← h .strict input a hv, ← ih] at hparts
    rw [List.map_cons, List.flatten_cons, List.append_assoc, hparts]

theorem Spelling.repetition [TreeLike α] (hr : TreeLike.IsHom reading) (hp : body.Partitioning)
    (hc : body.Consuming) (h : body.Spelling reading) (min : Nat) :
    (repetition body min).Spelling reading := by
  intro mode input
  have htaken := h.iterates hp (chain_iterates hc hp input).1
  rw [result_repetition]
  split
  · exact .failure input
  · rw [split_chain htaken]
    exact .success (hr.list _)

theorem Spelling.choice (ha : first.Spelling reading) (hb : second.Spelling reading) :
    (choice first second).Spelling reading := by
  intro mode input
  rw [result_choice]
  split
  · exact ha mode input
  · exact hb mode input

theorem Spelling.guarded (expected : Bool) (h : current.Spelling reading) :
    (guarded expected current forward).Spelling reading := by
  intro mode input
  rw [result_guarded]
  split
  · split
    · exact h mode input
    · exact .failure input
  · exact .failure input

theorem Spelling.visit {node : Expr α} (h : body.Spelling reading)
    (hl : ∀ listener, node.listener? = some listener → listener.Faithful reading) :
    (visit node body).Spelling reading := by
  intro mode input
  rw [result_visit]
  cases hnode : node.listener? with
  | none => exact h mode input
  | some listener => exact (h mode input).withValue (hl listener hnode)

end Matcher

/-! ### Expressions -/

namespace Expr

/-- Every listener in the tree is faithful. -/
def Faithful (reading : α → Text) (e : Expr α) : Prop :=
  ∀ node ∈ e.nodes, ∀ listener, node.listener? = some listener → listener.Faithful reading

theorem Faithful.of_silent {e : Expr α} (h : ∀ node ∈ e.nodes, node.listener? = none) :
    e.Faithful reading :=
  fun node hnode _ hlistener => nomatch (h node hnode).symm.trans hlistener

variable [TreeLike α]

theorem attempt_spelling (hr : TreeLike.IsHom reading) {e : Expr α} (h : e.WellFormed)
    (hl : e.Faithful reading) : e.attempt.Spelling reading := by
  have hpart : ∀ {part : Expr α}, part.Faithful reading →
      (part.Faithful reading → part.attempt.Spelling reading) → part.run.Spelling reading :=
    fun {part} hp ih => (ih hp).visit (hp part part.self_mem_nodes)
  induction e with
  | terminal mark literal => exact Matcher.spelling_terminal hr literal
  | empty mark => exact Matcher.spelling_empty hr
  | sequence mark a b iha ihb =>
    obtain ⟨ha, hb⟩ := forall_mem_parts hl
    exact .sequence hr a.run_partitioning b.run_partitioning (hpart ha (iha h.2.1))
      (hpart hb (ihb h.2.2))
  | choice mark a b iha ihb =>
    obtain ⟨ha, hb⟩ := forall_mem_parts hl
    exact (hpart ha (iha h.2.1)).choice (hpart hb (ihb h.2.2))
  | optional mark body ih =>
    exact .optional hr (hpart (forall_mem_body hl) (ih h.2))
  | repetition mark body min ih =>
    obtain ⟨_, hn, hwf⟩ := h
    exact .repetition hr body.run_partitioning (run_consuming hwf hn)
      (hpart (forall_mem_body hl) (ih hwf)) min
  | ahead mark a b iha _ =>
    obtain ⟨ha, _⟩ := forall_mem_parts hl
    exact (hpart ha (iha h.2.1)).guarded true
  | notAhead mark a b iha _ =>
    obtain ⟨ha, _⟩ := forall_mem_parts hl
    exact (hpart ha (iha h.2.1)).guarded false
  | production mark body ih => exact ih h.2.2 (forall_mem_body hl)

theorem run_spelling (hr : TreeLike.IsHom reading) {e : Expr α} (h : e.WellFormed)
    (hl : e.Faithful reading) : e.run.Spelling reading :=
  (attempt_spelling hr h hl).visit (hl e e.self_mem_nodes)

end Expr

/-! ### Grammars -/

/-- A grammar whose listeners are faithful comes to a value that is read as what was matched. -/
theorem Grammar.value?_map_reading [TreeLike α] (hr : TreeLike.IsHom reading) {g : Grammar α}
    (hl : g.expr.Faithful reading) {mode : Mode} {input : Text}
    (hs : (g.parseIn mode input).isSuccess = true) :
    (g.parseIn mode input).value?.map reading = some (g.parseIn mode input).matched := by
  obtain ⟨a, ha⟩ := Outcome.exists_value? hs
  have hread := Expr.run_spelling hr g.wellFormed hl mode input a ha
  rw [ha, Option.map_some, hread]
  rfl

/-- **No text is lost, and none is made up.** The leaves of the tree that a match comes to are what
it matched, if every listener keeps them so; and without listeners the text that it comes to is what
it matched. -/
theorem Grammar.value_spells_matched :
    (∀ g : Grammar Tree, g.expr.Faithful Tree.flatten →
      ∀ mode input, (g.parseIn mode input).isSuccess = true →
        (g.parseIn mode input).value?.map Tree.flatten = some (g.parseIn mode input).matched) ∧
    ∀ g : Grammar Text, (∀ node ∈ g.expr.nodes, node.listener? = none) →
      ∀ mode input, (g.parseIn mode input).isSuccess = true →
        (g.parseIn mode input).value? = some (g.parseIn mode input).matched := by
  constructor
  · intro g hl mode input hs
    exact value?_map_reading Tree.flatten_isHom hl hs
  · intro g hnone mode input hs
    have hread := value?_map_reading TreeLike.isHom_id (.of_silent hnone) hs
    rwa [Option.map_id, id] at hread

/-- A name, whose listener keeps the matched text, behind a blank; and a text without listeners. -/
theorem Grammar.value_spells_matched_name :
    let name : Grammar Tree := (terminal [' ']).andThen ReadyMade.identifier
    let letters : Grammar Text := (terminal ['a']).andThen (terminal ['b'])
    name.expr.Faithful Tree.flatten ∧
    (name.parse "hi bob_1!".toList).value?.map Tree.flatten = some " bob_1".toList ∧
    (letters.parse "xab".toList).value? = some "ab".toList := by
  intro name letters
  have hlistener : ReadyMade.matchedText.Faithful Tree.flatten := fun _ _ _ _ => rfl
  have htokens : ∀ node ∈ (name.expr.nodes.drop 3), node.listener?.isNone := by decide +kernel
  have hname : name.expr.Faithful Tree.flatten := by
    -- the sequence, its blank and the name; what the name is made of has no listeners
    refine List.forall_mem_cons.mpr ⟨nofun, List.forall_mem_cons.mpr ⟨nofun,
      List.forall_mem_cons.mpr ⟨?_, fun node hnode _ h => ?_⟩⟩⟩
    · rintro _ ⟨⟩
      exact hlistener
    · exact nomatch (Option.isNone_iff_eq_none.mp (htokens node hnode)).symm.trans h
  have hletters : ∀ node ∈ letters.expr.nodes, node.listener? = none := by
    have hnone : ∀ node ∈ letters.expr.nodes, node.listener?.isNone := by decide +kernel
    exact fun node hnode => Option.isNone_iff_eq_none.mp (hnone node hnode)
  refine ⟨hname, ?_, ?_⟩
  · have hmatched : (name.parse "hi bob_1!".toList).matched = " bob_1".toList := by decide +kernel
    rw [← hmatched]
    exact value_spells_matched.1 name hname .lenient "hi bob_1!".toList (by decide +kernel)
  · have hmatched : (letters.parse "xab".toList).matched = "ab".toList := by decide +kernel
    rw [← hmatched]
    exact value_spells_matched.2 letters hletters .lenient "xab".toList (by decide +kernel)

end Peg
