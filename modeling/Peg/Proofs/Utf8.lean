import Peg.Text.Search

/-! Bytes and characters.

The UTF-8 form is a prefix code, so one text begins with another exactly when its
bytes begin with the other's (`encode_prefix_iff`). It is also self-synchronising:
the first byte of a character stands nowhere else, so an offset is a character
boundary exactly when it is the size of a front part (`isBoundary_iff`).

`find?_eq_some` puts the two together: what the search over bytes finds is an
occurrence among the characters, and no other lies further left. In terms of
characters alone, the search answers with the size of the shortest front behind
which the literal stands (`firstAt_iff_find?`). -/
namespace Peg.Text

/-! ### A prefix code -/

/-- The first character can be read off the bytes. -/
theorem eq_of_encodeChar_append {c d : Char} {x y : List UInt8}
    (h : String.utf8EncodeChar c ++ x = String.utf8EncodeChar d ++ y) : c = d := by
  have hb := congrArg List.toByteArray h
  rw [List.toByteArray_append, List.toByteArray_append] at hb
  have hd := congrArg (fun b => ByteArray.utf8DecodeChar? b 0) hb
  simpa only [ByteArray.utf8DecodeChar?_utf8EncodeChar_append, Option.some.injEq] using hd

theorem encode_prefix_iff {s t : Text} : encode s <+: encode t ↔ s <+: t := by
  constructor
  · intro h
    induction s generalizing t with
    | nil => exact List.nil_prefix
    | cons c s ih =>
      obtain ⟨x, hx⟩ := h
      cases t with
      | nil => simp at hx
      | cons d t =>
        rw [encode_cons, encode_cons, List.append_assoc] at hx
        obtain rfl := eq_of_encodeChar_append hx
        exact (List.prefix_cons_inj c).mpr (ih ⟨x, List.append_cancel_left hx⟩)
  · rintro ⟨r, rfl⟩
    exact ⟨encode r, (encode_append s r).symm⟩

/-! ### Character boundaries -/

/-- The first byte of a character stands at the offset, or the text ends there. -/
def IsBoundary (s : Text) (n : Nat) : Prop :=
  n = byteSize s ∨ ∃ b, (encode s)[n]? = some b ∧ b.IsUTF8FirstByte

instance (s : Text) (n : Nat) : Decidable (IsBoundary s n) :=
  match h : (encode s)[n]? with
  | none => decidable_of_iff (n = byteSize s) (by simp [IsBoundary, h])
  | some b => decidable_of_iff (n = byteSize s ∨ b.IsUTF8FirstByte) (by simp [IsBoundary, h])

theorem isBoundary_zero (s : Text) : IsBoundary s 0 := by
  cases s with
  | nil => exact .inl rfl
  | cons c s =>
    have hpos := c.utf8Size_pos
    have hlt : 0 < (String.utf8EncodeChar c).length := by simpa using hpos
    refine .inr ⟨(String.utf8EncodeChar c)[0], ?_, by simp⟩
    rw [encode_cons, List.getElem?_append_left hlt, List.getElem?_eq_getElem hlt]

/-- Inside the first character there is no boundary, and after it those of the rest. -/
theorem isBoundary_cons {c : Char} {s : Text} {n : Nat} (hn : 0 < n) :
    IsBoundary (c :: s) n ↔ c.utf8Size ≤ n ∧ IsBoundary s (n - c.utf8Size) := by
  by_cases hc : c.utf8Size ≤ n
  · have hget : (encode (c :: s))[n]? = (encode s)[n - c.utf8Size]? := by
      rw [encode_cons, List.getElem?_append_right (by simpa using hc), String.length_utf8EncodeChar]
    have hsize : n = byteSize (c :: s) ↔ n - c.utf8Size = byteSize s := by
      rw [byteSize_cons]
      omega
    simp only [IsBoundary, hget, hsize, hc, true_and]
  · have hlt : n < (String.utf8EncodeChar c).length := by
      rw [String.length_utf8EncodeChar]
      omega
    have hget : (encode (c :: s))[n]? = some (String.utf8EncodeChar c)[n] := by
      rw [encode_cons, List.getElem?_append_left hlt, List.getElem?_eq_getElem hlt]
    have hsize : n ≠ byteSize (c :: s) := by
      rw [byteSize_cons]
      omega
    have hfirst : ¬ (String.utf8EncodeChar c)[n].IsUTF8FirstByte := by
      rw [UInt8.isUTF8FirstByte_getElem_utf8EncodeChar]
      omega
    simp only [IsBoundary, hget, hsize, hc, Option.some.injEq, false_and, false_or, iff_false]
    rintro ⟨b, rfl, hb⟩
    exact hfirst hb

/-- The boundaries are the sizes of the front parts. -/
theorem isBoundary_iff {s : Text} {n : Nat} :
    IsBoundary s n ↔ ∃ front back, s = front ++ back ∧ byteSize front = n := by
  constructor
  · intro h
    induction s generalizing n with
    | nil =>
      rcases h with rfl | ⟨b, hb, _⟩
      · exact ⟨[], [], rfl, rfl⟩
      · simp at hb
    | cons c s ih =>
      rcases Nat.eq_zero_or_pos n with rfl | hn
      · exact ⟨[], c :: s, rfl, rfl⟩
      · obtain ⟨hc, hs⟩ := (isBoundary_cons hn).mp h
        obtain ⟨front, back, rfl, hfront⟩ := ih hs
        refine ⟨c :: front, back, rfl, ?_⟩
        rw [byteSize_cons, hfront]
        omega
  · rintro ⟨front, back, rfl, rfl⟩
    induction front with
    | nil => exact isBoundary_zero back
    | cons c front ih =>
      have hpos := c.utf8Size_pos
      rw [List.cons_append, byteSize_cons, isBoundary_cons (by omega)]
      exact ⟨by omega, by rwa [Nat.add_sub_cancel_left]⟩

theorem isBoundary_append (front back : Text) : IsBoundary (front ++ back) (byteSize front) :=
  isBoundary_iff.mpr ⟨front, back, rfl, rfl⟩

/-! ### Search -/

theorem prefix_drop_findBytes? {sought bytes : List UInt8} {n : Nat}
    (h : findBytes? sought bytes = some n) : n ≤ bytes.length ∧ sought <+: bytes.drop n := by
  induction bytes generalizing n with
  | nil =>
    rw [findBytes?] at h
    split at h
    next he =>
      obtain rfl : 0 = n := by simpa using h
      exact ⟨Nat.le_refl 0, by simp [List.isEmpty_iff.mp he]⟩
    next => exact nomatch h
  | cons b rest ih =>
    rw [findBytes?] at h
    split at h
    next hp =>
      obtain rfl : 0 = n := by simpa using h
      exact ⟨Nat.zero_le _, List.isPrefixOf_iff_prefix.mp hp⟩
    next =>
      obtain ⟨m, hm, rfl⟩ := Option.map_eq_some_iff.mp h
      obtain ⟨hle, hpre⟩ := ih hm
      exact ⟨by simpa using hle, by simpa using hpre⟩

theorem findBytes?_le {sought bytes : List UInt8} {k : Nat} (hk : k ≤ bytes.length)
    (h : sought <+: bytes.drop k) : ∃ n, findBytes? sought bytes = some n ∧ n ≤ k := by
  induction bytes generalizing k with
  | nil =>
    have hs : sought = [] := by simpa using h
    exact ⟨0, by simp [findBytes?, hs], Nat.zero_le k⟩
  | cons b rest ih =>
    rw [findBytes?]
    split
    next => exact ⟨0, rfl, Nat.zero_le k⟩
    next hp =>
      cases k with
      | zero => exact absurd (List.isPrefixOf_iff_prefix.mpr (by simpa using h)) hp
      | succ k =>
        obtain ⟨n, hn, hle⟩ := ih (by simpa using hk) (by simpa using h)
        exact ⟨n + 1, by rw [hn]; rfl, Nat.succ_le_succ hle⟩

/-- The bytes of a text from a boundary on are those of a back part. -/
theorem encode_drop (front back : Text) :
    (encode (front ++ back)).drop (byteSize front) = encode back := by
  rw [encode_append, ← length_encode front, List.drop_left]

/-- An occurrence among the bytes is one among the characters. -/
theorem exists_of_encode_prefix_drop {literal s : Text} {n : Nat} (hl : literal ≠ [])
    (h : encode literal <+: (encode s).drop n) :
    ∃ front back, s = front ++ (literal ++ back) ∧ byteSize front = n := by
  have hb : IsBoundary s n := by
    obtain ⟨c, l, rfl⟩ := List.exists_cons_of_ne_nil hl
    obtain ⟨x, hx⟩ := h
    have hlt : 0 < (String.utf8EncodeChar c).length := by simpa using c.utf8Size_pos
    refine .inr ⟨(String.utf8EncodeChar c)[0], ?_, by simp⟩
    rw [← Nat.add_zero n, ← List.getElem?_drop, ← hx, encode_cons, List.append_assoc,
      List.getElem?_append_left hlt, List.getElem?_eq_getElem hlt]
  obtain ⟨front, rest, rfl, rfl⟩ := isBoundary_iff.mp hb
  rw [encode_drop, encode_prefix_iff] at h
  obtain ⟨back, rfl⟩ := h
  exact ⟨front, back, rfl, rfl⟩

/-- Whatever occurs is found, and not after any of its occurrences. -/
theorem find?_le (literal front back : Text) :
    ∃ n, find? literal (front ++ (literal ++ back)) = some n ∧ n ≤ byteSize front := by
  refine findBytes?_le ?_ ?_
  · simp
  · rw [encode_drop, encode_prefix_iff]
    exact ⟨back, rfl⟩

/-- **The search finds the first occurrence**, and its offset is the size of what comes before. -/
theorem find?_eq_some {literal s : Text} {n : Nat} (h : find? literal s = some n) :
    ∃ front back, s = front ++ (literal ++ back) ∧ byteSize front = n ∧
      ∀ front' back', s = front' ++ (literal ++ back') → n ≤ byteSize front' := by
  have hleft : ∀ front' back', s = front' ++ (literal ++ back') → n ≤ byteSize front' := by
    rintro front' back' rfl
    obtain ⟨m, hm, hle⟩ := find?_le literal front' back'
    obtain rfl : n = m := Option.some.inj (h.symm.trans hm)
    exact hle
  by_cases hl : literal = []
  · subst hl
    have h0 : n = 0 := Nat.le_zero.mp (hleft [] s rfl)
    exact ⟨[], s, rfl, h0.symm, hleft⟩
  · obtain ⟨_, hpre⟩ := prefix_drop_findBytes? h
    obtain ⟨front, back, hs, hn⟩ := exists_of_encode_prefix_drop hl hpre
    exact ⟨front, back, hs, hn, hleft⟩

theorem find?_eq_none_iff {literal s : Text} :
    find? literal s = none ↔ ∀ front back, s ≠ front ++ (literal ++ back) := by
  constructor
  · rintro h front back rfl
    obtain ⟨m, hm, _⟩ := find?_le literal front back
    exact nomatch h.symm.trans hm
  · intro h
    cases hf : find? literal s with
    | none => rfl
    | some n =>
      obtain ⟨front, back, hs, _⟩ := find?_eq_some hf
      exact absurd hs (h front back)

/-! ### First occurrences -/

/-- The literal stands right behind `front`, and behind no shorter front of the same text. -/
structure FirstAt (literal front rest : Text) : Prop where
  stands : literal <+: rest
  shortest : ∀ front' rest', front' ++ rest' = front ++ rest → literal <+: rest' →
    front.length ≤ front'.length

/-- Of two fronts of a text the longer one has more bytes. -/
theorem byteSize_le_iff {front front' s : Text} (h : front <+: s) (h' : front' <+: s) :
    front.byteSize ≤ front'.byteSize ↔ front.length ≤ front'.length := by
  constructor
  · intro hsize
    rcases Nat.le_total front.length front'.length with hle | hle
    · exact hle
    · obtain ⟨t, rfl⟩ := List.prefix_of_prefix_length_le h' h hle
      rw [byteSize_append] at hsize
      have ht : t = [] := byteSize_eq_zero.mp (by omega)
      simp [ht]
  · intro hle
    obtain ⟨t, rfl⟩ := List.prefix_of_prefix_length_le h h' hle
    rw [byteSize_append]
    exact Nat.le_add_right ..

theorem firstAt_iff_find? {literal front rest : Text} :
    FirstAt literal front rest ↔ find? literal (front ++ rest) = some front.byteSize := by
  constructor
  · rintro ⟨⟨back, rfl⟩, hshort⟩
    obtain ⟨n, hn, hle⟩ := find?_le literal front back
    obtain ⟨front', back', hs, rfl, _⟩ := find?_eq_some hn
    have hlength := hshort front' _ hs.symm (List.prefix_append literal back')
    have hsize := (byteSize_le_iff (List.prefix_append front _) ⟨_, hs.symm⟩).mpr hlength
    rw [hn, Nat.le_antisymm hle hsize]
  · intro h
    obtain ⟨front', back', hs, hsize, hleft⟩ := find?_eq_some h
    have hpre : front' <+: front ++ rest := ⟨_, hs.symm⟩
    have hlength : front'.length = front.length :=
      Nat.le_antisymm
        ((byteSize_le_iff hpre (List.prefix_append front rest)).mp (Nat.le_of_eq hsize))
        ((byteSize_le_iff (List.prefix_append front rest) hpre).mp (Nat.le_of_eq hsize.symm))
    obtain ⟨rfl, rfl⟩ := List.append_inj hs.symm hlength
    refine ⟨List.prefix_append literal back', ?_⟩
    rintro front'' _ hs'' ⟨back'', rfl⟩
    have hsize' := hleft front'' back'' hs''.symm
    exact (byteSize_le_iff (List.prefix_append front' _) ⟨_, hs''⟩).mp hsize'

instance (literal front rest : Text) : Decidable (FirstAt literal front rest) :=
  decidable_of_iff _ firstAt_iff_find?.symm

/-- Whatever occurs has a first occurrence. -/
theorem exists_firstAt {literal s : Text} (h : literal <:+: s) :
    ∃ front rest, front ++ rest = s ∧ FirstAt literal front rest := by
  obtain ⟨front, back, rfl⟩ := h
  rw [List.append_assoc]
  obtain ⟨n, hn, _⟩ := find?_le literal front back
  obtain ⟨front', back', hs, rfl, _⟩ := find?_eq_some hn
  rw [hs] at hn ⊢
  exact ⟨front', literal ++ back', rfl, firstAt_iff_find?.mpr hn⟩

theorem FirstAt.unique {literal front rest front' rest' : Text} (h : FirstAt literal front rest)
    (h' : FirstAt literal front' rest') (hs : front ++ rest = front' ++ rest') :
    front = front' ∧ rest = rest' :=
  List.append_inj hs (Nat.le_antisymm (h.shortest front' rest' hs.symm h'.stands)
    (h'.shortest front rest hs h.stands))

end Peg.Text
