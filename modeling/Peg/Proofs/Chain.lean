import Peg.Proofs.Success

/-! Greedy repetition is the maximal chain.

A `Chain` of a grammar is a row of its strict matches, each on what the one before
left, up to where there is none. It speaks of the outcomes of the grammar alone, and
not of the loop that a repetition runs. A grammar that is not nullable has exactly one
chain on every text (`exists_chain`, `Chain.unique`), and a repetition comes to that
chain if it has links enough (`Chain.parseIn_atLeast`), whatever the mode. -/
namespace Peg

variable {α : Type}

/-- One match of a chain. -/
@[ext] structure Link (α : Type) where
  matched : Text
  remaining : Text
  value : α

namespace Grammar

variable [TreeLike α] {body : Grammar α} {input rest : Text} {links : List (Link α)}

/-- The links are strict matches of `body` in a row, the first one on `input` and each other one on
what the one before left. The last one left `rest`, where `body` fails. -/
inductive Chain (body : Grammar α) : Text → List (Link α) → Text → Prop where
  | nil {input : Text} : body.parseIn .strict input = .failure input → Chain body input [] input
  | cons {input rest : Text} {link : Link α} {links : List (Link α)} :
      body.parseIn .strict input = .success link.matched link.remaining link.value →
      Chain body link.remaining links rest → Chain body input (link :: links) rest

/-! ### One chain on every text -/

theorem Chain.unique {links' : List (Link α)} {rest' : Text} (h : Chain body input links rest)
    (h' : Chain body input links' rest') : links' = links ∧ rest' = rest := by
  induction h generalizing links' with
  | nil hend =>
    cases h' with
    | nil => exact ⟨rfl, rfl⟩
    | cons hlink _ => exact nomatch hend.symm.trans hlink
  | cons hlink _ ih =>
    cases h' with
    | nil hend => exact nomatch hend.symm.trans hlink
    | cons hlink' hrest =>
      obtain ⟨hm, hr, hv⟩ := Outcome.success.inj (hlink'.symm.trans hlink)
      rw [hr] at hrest
      obtain ⟨rfl, rfl⟩ := ih hrest
      rw [Link.ext hm hr hv]
      exact ⟨rfl, rfl⟩

/-- The links follow each other without a gap. -/
theorem Chain.parts (h : Chain body input links rest) :
    (links.map Link.matched).flatten ++ rest = input := by
  induction h with
  | nil => rfl
  | cons hlink _ ih =>
    rw [List.map_cons, List.flatten_cons, List.append_assoc, ih]
    exact append_eq_of_success hlink

/-- Each link leaves less than it was given, so there is a last one. -/
theorem exists_chain (hn : body.nullable = false) (input : Text) :
    ∃ links rest, Chain body input links rest := by
  rcases parseIn_strict_cases body input with hno | ⟨matched, remaining, value, hyes⟩
  · exact ⟨[], input, .nil hno⟩
  · have hless : remaining.length < input.length := by
      have htaken := List.length_pos_iff.mpr (matched_ne_nil hn hyes)
      rw [← append_eq_of_success hyes, List.length_append]
      omega
    obtain ⟨links, rest, hrest⟩ := exists_chain hn remaining
    exact ⟨⟨matched, remaining, value⟩ :: links, rest, .cons hyes hrest⟩
termination_by input.length

/-! ### The loop follows the chain -/

theorem Chain.iterates (h : Chain body input links rest) :
    Matcher.Iterates body.run input (links.map Link.value) rest ∧
      (body.parseIn .strict rest).value? = none := by
  induction h with
  | nil hend => exact ⟨.nil _, by rw [hend]; rfl⟩
  | @cons input rest link links hlink _ ih =>
    have hvalue : (body.run .strict input).result.value? = some link.value :=
      congrArg Outcome.value? hlink
    have hremaining : (body.run .strict input).result.remaining = link.remaining :=
      congrArg Outcome.remaining hlink
    exact ⟨.cons hvalue (hremaining ▸ ih.1), ih.2⟩

theorem Chain.length_le (hn : body.nullable = false) (h : Chain body input links rest) :
    links.length ≤ input.byteSize := by
  have hc : body.run.Consuming := Expr.run_consuming body.wellFormed hn
  have hbound := h.iterates.1.length_add_le hc body.expr.run_partitioning
  rw [List.length_map] at hbound
  omega

theorem Chain.result_chain (hn : body.nullable = false) (h : Chain body input links rest) :
    (Matcher.chain body.run input).result = (links.map Link.value, rest) := by
  have hc : body.run.Consuming := Expr.run_consuming body.wellFormed hn
  obtain ⟨hiter, hend⟩ := Matcher.chain_iterates hc body.expr.run_partitioning input
  obtain ⟨hitems, hrest⟩ := hiter.unique hend h.iterates.1 h.iterates.2
  rw [← hitems, ← hrest]

/-- What a repetition comes to, told from the chain of its body. -/
theorem Chain.parseIn_atLeast (hn : body.nullable = false) (h : Chain body input links rest)
    (min : Nat) (mode : Mode) : (body.atLeast min hn).parseIn mode input =
      if min ≤ links.length then .success (links.map Link.matched).flatten rest
        (TreeLike.list (links.map Link.value))
      else .failure input := by
  rw [parseIn_eq_attempt rfl]
  show (Matcher.repetition body.run min mode input).result = _
  rw [Matcher.result_repetition, h.result_chain hn, Matcher.split_chain h.parts, List.length_map]
  split
  next hfew => rw [if_neg (Nat.not_le.mpr hfew)]
  next henough => rw [if_pos (Nat.not_lt.mp henough)]

/-- **Greedy repetition is the maximal chain.** On every text there is exactly one chain of a body
that is not nullable. A repetition of the body may be built, and in either mode it succeeds just
where the chain has links enough, with what they matched, what the last one left, and their values.
So asking for more links never changes a success, only whether there is one; asking for fewer keeps
it; and there are no more links than bytes. -/
theorem parseIn_times_chain (body : Grammar α) (hn : body.nullable = false) (input : Text) :
    ∃ links rest, Chain body input links rest ∧
      (∀ links' rest', Chain body input links' rest' → links' = links ∧ rest' = rest) ∧
      ∀ min mode, body.times min = .ok (body.atLeast min hn) ∧
        ((body.atLeast min hn).parseIn mode input =
          if min ≤ links.length then .success (links.map Link.matched).flatten rest
            (TreeLike.list (links.map Link.value))
          else .failure input) ∧
        ((body.atLeast min hn).parseIn mode input = .failure input ∨
          (body.atLeast min hn).parseIn mode input = (body.atLeast 0 hn).parseIn mode input) ∧
        (((body.atLeast min hn).parseIn mode input).isSuccess = true → ∀ fewer ≤ min,
          ((body.atLeast fewer hn).parseIn mode input).isSuccess = true) ∧
        (input.byteSize < min → (body.atLeast min hn).parseIn mode input = .failure input) := by
  obtain ⟨links, rest, hchain⟩ := exists_chain hn input
  refine ⟨links, rest, hchain, fun _ _ h => hchain.unique h, fun min mode => ?_⟩
  have hlength := hchain.length_le hn
  have hrepeated := fun min => hchain.parseIn_atLeast hn min mode
  refine ⟨times_atLeast hn, hrepeated min, ?_, fun hs fewer hfewer => ?_, fun hbytes => ?_⟩
  · rw [hrepeated min, hrepeated 0, if_pos (Nat.zero_le _)]
    split
    · exact .inr rfl
    · exact .inl rfl
  · rw [hrepeated min] at hs
    split at hs
    next henough =>
      rw [hrepeated fewer, if_pos (Nat.le_trans hfewer henough)]
      rfl
    next => exact nomatch hs
  · rw [hrepeated min, if_neg (by omega)]

/-- Two letters in a row, heard by a listener, and then none: enough for two and not for three. -/
theorem parseIn_times_chain_letters :
    let letter : Grammar Tree := ((terminal ['a']).orElse (terminal ['é'])).withListener
      { action := fun outcome => .list [.text outcome.remaining] }
    letter.nullable = false ∧
    (letter.atLeast 2 rfl).parse "éab".toList = .success "éa".toList ['b']
      (.list [.list [.text "ab".toList], .list [.text ['b']]]) ∧
    (letter.atLeast 3 rfl).parse "éab".toList = .failure "éab".toList := by
  intro letter
  obtain ⟨links, rest, _, hunique, htimes⟩ := parseIn_times_chain letter rfl "éab".toList
  have hchain : Chain letter "éab".toList
      [⟨['é'], "ab".toList, .list [.text "ab".toList]⟩,
        ⟨['a'], ['b'], .list [.text ['b']]⟩] ['b'] :=
    .cons (by decide +kernel) (.cons (by decide +kernel) (.nil (by decide +kernel)))
  obtain ⟨rfl, rfl⟩ := hunique _ _ hchain
  exact ⟨rfl, (htimes 2 .lenient).2.1, (htimes 3 .lenient).2.1⟩

end Grammar

end Peg
