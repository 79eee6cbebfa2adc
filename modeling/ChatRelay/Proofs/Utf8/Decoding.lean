import ChatRelay.Proofs.Utf8.Decoder

/-!
What decoding means, without a decoder: a text is read character by character, and where no
character stands, the longest beginning of one is a malformed piece, or else a single byte.
Every byte string reads as exactly one text in this sense, the one that the decoder gives.
-/

namespace ChatRelay.Utf8

def BeginsCharacter (bs : List UInt8) : Prop := ∃ c, bs <+: String.utf8EncodeChar c

/-- A malformed piece in front of other bytes: no character, and not to be continued to one. It
is the beginning of a character unless it is a single byte. -/
structure Malformed (bad rest : List UInt8) : Prop where
  ne_nil : bad ≠ []
  not_character : ∀ c, bad ≠ String.utf8EncodeChar c
  begins : 1 < bad.length → BeginsCharacter bad
  maximal : ∀ b ∈ rest.head?, ¬ BeginsCharacter (bad ++ [b])

/-- The text that bytes read as, one U+FFFD standing for each malformed piece. -/
inductive Decodes : List UInt8 → List Char → Prop where
  | nil : Decodes [] []
  | character {c : Char} {rest : List UInt8} {cs : List Char} :
      Decodes rest cs → Decodes (String.utf8EncodeChar c ++ rest) (c :: cs)
  | malformed {bad rest : List UInt8} {cs : List Char} :
      Malformed bad rest → Decodes rest cs → Decodes (bad ++ rest) ('\uFFFD' :: cs)

theorem beginsCharacter_of_eq {bs : List UInt8} {c : Char} (h : bs = String.utf8EncodeChar c) :
    BeginsCharacter bs := ⟨c, h ▸ List.prefix_rfl⟩

theorem beginsCharacter_of_append {front back : List UInt8}
    (h : BeginsCharacter (front ++ back)) : BeginsCharacter front := by
  obtain ⟨c, hc⟩ := h
  exact ⟨c, (List.prefix_append front back).trans hc⟩

/-! ### The decoder on one piece -/

theorem decodeLossy_encodeChar_append (c : Char) (rest : List UInt8) :
    decodeLossy (String.utf8EncodeChar c ++ rest) = c :: decodeLossy rest := by
  simp only [decodeLossy, run_append, run_encodeChar, replace, List.map_cons, List.nil_append,
    List.cons_append, Option.getD_some]

theorem decodeLossy_of_run {bytes rest : List UInt8}
    (h : run none bytes = (none :: (run none rest).1, (run none rest).2)) :
    decodeLossy bytes = '\uFFFD' :: decodeLossy rest := by
  simp only [decodeLossy, h, replace, List.map_cons, List.cons_append, Option.getD_none]

theorem beginsCharacter_of_within {o : Open} {b : UInt8} (ho : o.Begun) (hl : o.low ≤ b)
    (hh : b ≤ o.high) : BeginsCharacter (o.held ++ [b]) := by
  by_cases hm : o.more ≤ 1
  · exact beginsCharacter_of_eq (encodeChar_of_last ho hl hh hm).symm
  · obtain ⟨c, later, -, hc⟩ := (begun_extend ho hl hh (Nat.not_le.mp hm)).exists_encodeChar
    exact ⟨c, later, hc.symm⟩

theorem start_of_not_begins {b : UInt8} (h : ¬ BeginsCharacter [b]) :
    start b = ([none], none) := by
  have hb : 0x80 ≤ b.toNat := by
    by_contra hlt
    have hv : (Char.ofNat b.toNat).toNat = b.toNat :=
      toNat_charOfNat (Or.inl (by omega))
    have he := encodeChar_one (c := Char.ofNat b.toNat) (by omega)
    rw [hv, UInt8.ofNat_toNat] at he
    exact h (beginsCharacter_of_eq he.symm)
  cases ho : open? b with
  | none => exact start_malformed hb ho
  | some o =>
    obtain ⟨c, later, -, hc⟩ := (begun_of_open? ho).exists_encodeChar
    rw [held_of_open? ho] at hc
    exact absurd ⟨c, later, hc.symm⟩ h

theorem decodeLossy_malformed_append {bad rest : List UInt8} (h : Malformed bad rest) :
    decodeLossy (bad ++ rest) = '\uFFFD' :: decodeLossy rest := by
  by_cases hb : BeginsCharacter bad
  · -- The decoder holds all of the piece, and the next byte, if any, does not fit.
    obtain ⟨c, later, hc⟩ := hb
    have hl : later ≠ [] := by
      rintro rfl
      exact h.not_character c (by rw [← hc, List.append_nil])
    obtain ⟨o, hrun, ho, hheld⟩ := run_partial hc.symm h.ne_nil hl
    cases rest with
    | nil => simp [decodeLossy, hrun, replace, run]
    | cons b rest =>
      have hout : ¬(o.low ≤ b ∧ b ≤ o.high) := fun hw =>
        h.maximal b rfl (hheld ▸ beginsCharacter_of_within ho hw.1 hw.2)
      apply decodeLossy_of_run
      rw [run_append, hrun, run_cons, step_broken hout, run_cons]
      rfl
  · have hlen : bad.length = 1 := by
      have hpos := List.length_pos_iff.mpr h.ne_nil
      by_contra hne
      exact hb (h.begins (by omega))
    obtain ⟨b, rfl⟩ := List.length_eq_one_iff.mp hlen
    apply decodeLossy_of_run
    rw [List.singleton_append, run_cons, step, start_of_not_begins hb]
    rfl

/-! ### Every byte string reads as one text -/

/-- Where a character begins but none is complete, the longest beginning is malformed. -/
theorem exists_malformed_of_begins {front later : List UInt8} (hf : front ≠ [])
    (hb : BeginsCharacter front) (hn : ∀ c, ¬ String.utf8EncodeChar c <+: front ++ later) :
    ∃ bad rest, front ++ later = bad ++ rest ∧ Malformed bad rest := by
  -- The beginning grows by one byte at a time until it no longer begins a character.
  induction later generalizing front with
  | nil =>
    refine ⟨front, [], rfl, hf, ?_, fun _ => hb, fun b hb => by cases hb⟩
    intro c hc
    exact hn c (by rw [← hc]; exact List.prefix_append _ _)
  | cons x later ih =>
    by_cases hx : BeginsCharacter (front ++ [x])
    · have happ : front ++ x :: later = (front ++ [x]) ++ later := by simp
      rw [happ] at hn ⊢
      exact ih (by simp) hx hn
    · refine ⟨front, x :: later, rfl, hf, ?_, fun _ => hb, fun b hb => Option.some.inj hb ▸ hx⟩
      intro c hc
      exact hn c (by rw [← hc]; exact List.prefix_append _ _)

theorem exists_malformed {bytes : List UInt8} (hne : bytes ≠ [])
    (hn : ∀ c, ¬ String.utf8EncodeChar c <+: bytes) :
    ∃ bad rest, bytes = bad ++ rest ∧ Malformed bad rest := by
  cases bytes with
  | nil => exact absurd rfl hne
  | cons b rest =>
    by_cases hb : BeginsCharacter [b]
    · exact @exists_malformed_of_begins [b] rest (by simp) hb hn
    · refine ⟨[b], rest, rfl, by simp, ?_, fun hlen => absurd hlen (by simp), ?_⟩
      · intro c hc
        exact hb (beginsCharacter_of_eq hc)
      · intro x _ hx
        exact hb (beginsCharacter_of_append hx)

theorem exists_decodes (bytes : List UInt8) : ∃ cs, Decodes bytes cs := by
  -- The induction is on the length: a character or a malformed piece is taken off the front.
  induction hn : bytes.length using Nat.strongRecOn generalizing bytes with
  | ind n ih =>
    by_cases hne : bytes = []
    · exact ⟨[], hne ▸ .nil⟩
    by_cases hc : ∃ c, String.utf8EncodeChar c <+: bytes
    · obtain ⟨c, rest, rfl⟩ := hc
      have hpos : 0 < (String.utf8EncodeChar c).length :=
        List.length_pos_iff.mpr String.utf8EncodeChar_ne_nil
      rw [List.length_append] at hn
      obtain ⟨cs, hcs⟩ := ih rest.length (by omega) rest rfl
      exact ⟨c :: cs, .character hcs⟩
    · obtain ⟨bad, rest, rfl, hbad⟩ := exists_malformed hne (not_exists.mp hc)
      have hpos := List.length_pos_iff.mpr hbad.ne_nil
      rw [List.length_append] at hn
      obtain ⟨cs, hcs⟩ := ih rest.length (by omega) rest rfl
      exact ⟨'\uFFFD' :: cs, .malformed hbad hcs⟩

theorem Decodes.eq_decodeLossy {bytes : List UInt8} {cs : List Char} (h : Decodes bytes cs) :
    cs = decodeLossy bytes := by
  induction h with
  | nil => rfl
  | character _ ih => rw [decodeLossy_encodeChar_append, ← ih]
  | malformed hbad _ ih => rw [decodeLossy_malformed_append hbad, ← ih]

/-- The decoder gives the one text that the bytes read as. -/
theorem decodes_iff {bytes : List UInt8} {cs : List Char} :
    Decodes bytes cs ↔ cs = decodeLossy bytes := by
  refine ⟨Decodes.eq_decodeLossy, ?_⟩
  rintro rfl
  obtain ⟨cs, hcs⟩ := exists_decodes bytes
  exact hcs.eq_decodeLossy ▸ hcs

end ChatRelay.Utf8
