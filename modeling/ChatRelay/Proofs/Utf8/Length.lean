import ChatRelay.Proofs.Utf8.Decoder

/-!
How long a decoded text is. A character takes the bytes that it was read from, and the mark for a
malformed piece takes three, so that the text is at most three times as long as its bytes; what
the decoder holds meanwhile is less than one character.
-/

namespace ChatRelay.Utf8

theorem length_encodeChar_le (c : Char) : (String.utf8EncodeChar c).length ≤ 4 := by
  rw [String.length_utf8EncodeChar]
  exact Char.utf8Size_le_four c

/-- What is held begins a character, and something of it is still to come. -/
theorem State.Begun.exists_character {s : State} (hs : s.Begun) :
    ∃ c later, later ≠ [] ∧ String.utf8EncodeChar c = s.held ++ later := by
  cases s with
  | none => exact ⟨'a', String.utf8EncodeChar 'a', String.utf8EncodeChar_ne_nil, rfl⟩
  | some o => exact (hs o rfl).exists_encodeChar

theorem State.Begun.length_held_le {s : State} (hs : s.Begun) : s.held.length ≤ 3 := by
  obtain ⟨c, later, hlater, hc⟩ := hs.exists_character
  have hlength := length_encodeChar_le c
  have hpos := List.length_pos_iff.mpr hlater
  rw [hc, List.length_append] at hlength
  omega

/-- A byte that starts afresh gives a text of three bytes at most, or is held. -/
theorem length_start (b : UInt8) :
    (encode (replace (start b).1)).length + 3 * (start b).2.held.length ≤ 3 := by
  by_cases hb : b.toNat < 0x80
  · have hv : (Char.ofNat b.toNat).toNat = b.toNat := toNat_charOfNat (Or.inl (by omega))
    have hone := encodeChar_one (c := Char.ofNat b.toNat) (by omega)
    rw [start_ascii hb]
    simp [replace, encode, hone, State.held]
  · cases ho : open? b with
    | none =>
      rw [start_malformed (Nat.not_lt.mp hb) ho]
      decide
    | some o =>
      rw [start_eq_open? (Nat.not_lt.mp hb) ho]
      simp [replace, encode, State.held, held_of_open? ho]

/-- One byte: the text grows by at most three bytes for each byte that is not held any more. -/
theorem length_step {s : State} (hs : s.Begun) (b : UInt8) :
    (encode (replace (step s b).1)).length + 3 * (step s b).2.held.length ≤
      3 * (s.held.length + 1) := by
  cases s with
  | none => exact length_start b
  | some o =>
    have hpos := List.length_pos_iff.mpr (hs o rfl).held_ne_nil
    by_cases h : o.low ≤ b ∧ b ≤ o.high
    · by_cases hm : o.more ≤ 1
      · have hlast := encodeChar_of_last (hs o rfl) h.1 h.2 hm
        have hsize : (encode (replace (step (some o) b).1)).length = o.held.length + 1 := by
          rw [step_last h.1 h.2 hm, replace, List.map_singleton, Option.getD_some, encode,
            List.flatMap_singleton, hlast, List.length_append, List.length_singleton]
        have hheld : (step (some o) b).2.held.length = 0 := by
          rw [step_last h.1 h.2 hm]
          rfl
        rw [hsize, hheld, State.held]
        omega
      · rw [step_extend h.1 h.2 (Nat.not_le.mp hm)]
        simp [replace, encode, State.held, Open.extend]
    · -- The mark takes three bytes, and at least one byte is given up for it.
      have hstart := length_start b
      have hmark : (encode (replace (none :: (start b).1))).length =
          3 + (encode (replace (start b).1)).length := by
        simp only [replace, List.map_cons, encode_cons, List.length_append]
        rfl
      rw [step_broken h, hmark]
      simp only [State.held] at hstart ⊢
      omega

theorem length_run {s : State} (hs : s.Begun) (bytes : List UInt8) :
    (encode (replace (run s bytes).1)).length + 3 * (run s bytes).2.held.length ≤
      3 * (s.held.length + bytes.length) := by
  induction bytes generalizing s with
  | nil => exact Nat.le_of_eq (Nat.zero_add _)
  | cons b rest ih =>
    have hstep := length_step hs b
    have hrest := ih (begun_step hs b)
    rw [run_cons]
    simp only [replace, List.map_append, encode_append, List.length_append,
      List.length_cons] at hstep hrest ⊢
    omega

end ChatRelay.Utf8
