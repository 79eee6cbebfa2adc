import ChatRelay.Proofs.Utf8.Character

/-!
Runs of the decoder. Characters are read back whatever follows them, the bytes held are always
the beginning of a character, and a byte of ASCII is never swallowed: it ends an open sequence
and is read as itself.
-/

namespace ChatRelay.Utf8

/-! ### Steps -/

theorem step_last {o : Open} {b : UInt8} (hl : o.low ≤ b) (hh : b ≤ o.high) (hm : o.more ≤ 1) :
    step (some o) b = ([some (Char.ofNat (o.value * 64 + (b.toNat - 0x80)))], none) := by
  simp only [step, if_pos (And.intro hl hh), if_pos hm]

theorem step_extend {o : Open} {b : UInt8} (hl : o.low ≤ b) (hh : b ≤ o.high) (hm : 1 < o.more) :
    step (some o) b = ([], some (o.extend b)) := by
  simp only [step, if_pos (And.intro hl hh), if_neg (Nat.not_le.mpr hm), Open.extend]

theorem step_broken {o : Open} {b : UInt8} (h : ¬(o.low ≤ b ∧ b ≤ o.high)) :
    step (some o) b = (none :: (start b).1, (start b).2) := by
  simp only [step, if_neg h]

/-- Every open sequence that the decoder holds is one that can be completed. -/
def State.Begun (s : State) : Prop := ∀ o ∈ s, o.Begun

theorem begun_none : State.Begun none := by
  intro o ho
  cases ho

theorem begun_start (b : UInt8) : State.Begun (start b).2 := by
  by_cases hb : b.toNat < 0x80
  · rw [start_ascii hb]
    exact begun_none
  · cases ho : open? b with
    | none =>
      rw [start_malformed (Nat.not_lt.mp hb) ho]
      exact begun_none
    | some o =>
      rw [start_eq_open? (Nat.not_lt.mp hb) ho]
      intro o' ho'
      exact Option.some.inj ho' ▸ begun_of_open? ho

theorem begun_step {s : State} (hs : s.Begun) (b : UInt8) : State.Begun (step s b).2 := by
  cases s with
  | none => exact begun_start b
  | some o =>
    by_cases h : o.low ≤ b ∧ b ≤ o.high
    · by_cases hm : o.more ≤ 1
      · rw [step_last h.1 h.2 hm]
        exact begun_none
      · rw [step_extend h.1 h.2 (Nat.not_le.mp hm)]
        intro o' ho'
        exact Option.some.inj ho' ▸ begun_extend (hs o rfl) h.1 h.2 (Nat.not_le.mp hm)
    · rw [step_broken h]
      exact begun_start b

theorem begun_run {s : State} (hs : s.Begun) (bytes : List UInt8) :
    State.Begun (run s bytes).2 := by
  induction bytes generalizing s with
  | nil => exact hs
  | cons b rest ih => exact ih (begun_step hs b)

/-! ### Characters -/

theorem encode_append (a b : List Char) : encode (a ++ b) = encode a ++ encode b :=
  List.flatMap_append

theorem encode_cons (c : Char) (cs : List Char) :
    encode (c :: cs) = String.utf8EncodeChar c ++ encode cs :=
  List.flatMap_cons

/-- The first byte of a text is its first character or none of ASCII. -/
theorem exists_encode_cons (c : Char) (cs : List Char) :
    ∃ b rest, encode (c :: cs) = b :: rest ∧ (b.toNat = c.toNat ∨ 0x80 ≤ b.toNat) := by
  obtain ⟨b, more, hcons⟩ := List.exists_cons_of_ne_nil (String.utf8EncodeChar_ne_nil (c := c))
  have hb : b ∈ String.utf8EncodeChar c := hcons ▸ List.mem_cons_self
  exact ⟨b, more ++ encode cs, by rw [encode_cons, hcons, List.cons_append], of_mem_encodeChar hb⟩

theorem length_le_length_encode (cs : List Char) : cs.length ≤ (encode cs).length := by
  induction cs with
  | nil => exact Nat.le_refl 0
  | cons c cs ih =>
    have hc : 0 < (String.utf8EncodeChar c).length :=
      List.length_pos_iff.mpr (String.utf8EncodeChar_ne_nil)
    rw [encode_cons, List.length_cons, List.length_append]
    omega

theorem run_cons (s : State) (b : UInt8) (rest : List UInt8) :
    run s (b :: rest) =
      ((step s b).1 ++ (run (step s b).2 rest).1, (run (step s b).2 rest).2) := rfl

/-- Fitting bytes complete an open sequence and leave none behind. -/
theorem run_fits {o : Open} {bs : List UInt8} (hpos : 0 < o.more) (hf : o.Fits bs) :
    run (some o) bs = ([some (Char.ofNat (o.valueAfter bs))], none) := by
  induction bs generalizing o with
  | nil => exact absurd hf.length_eq (Nat.ne_of_lt hpos)
  | cons b bs ih =>
    have hlength : bs.length + 1 = o.more := hf.length_eq
    obtain ⟨hlow, hhigh⟩ := hf.first_within b rfl
    by_cases hm : o.more ≤ 1
    · obtain rfl : bs = [] := List.length_eq_zero_iff.mp (by omega)
      rw [run_cons, step_last hlow hhigh hm]
      rfl
    · -- Behind the second byte every continuation byte fits.
      have hfits : (o.extend b).Fits bs := by
        refine ⟨by simp only [Open.extend]; omega, fun x hx => hf.within x (.tail b hx), ?_⟩
        intro x hx
        obtain ⟨hxlow, hxhigh⟩ := hf.within x (.tail b (List.mem_of_mem_head? hx))
        exact ⟨UInt8.le_iff_toNat_le.mpr hxlow, UInt8.le_iff_toNat_le.mpr hxhigh⟩
      have hmore : 0 < (o.extend b).more := by
        simp only [Open.extend]
        omega
      rw [run_cons, step_extend hlow hhigh (by omega), ih hmore hfits, Open.valueAfter_extend]
      rfl

/-- A character is read back if its first byte opens a sequence that its other bytes fit. -/
theorem run_opened {b : UInt8} {o : Open} {bs : List UInt8} {c : Char} (hb : 0x80 ≤ b.toNat)
    (ho : open? b = some o) (hf : o.Fits bs) (hv : o.valueAfter bs = c.toNat) :
    run none (b :: bs) = ([some c], none) := by
  have hpos := (begun_of_open? ho).more_pos
  rw [run_cons, step, start_eq_open? hb ho, run_fits hpos hf, hv, Char.ofNat_toNat]
  rfl

theorem within_continuation {n : Nat} (h : n < 64) :
    0x80 ≤ (UInt8.ofNat (n + 0x80)).toNat ∧ (UInt8.ofNat (n + 0x80)).toNat ≤ 0xBF := by
  rw [toNat_byte (by omega)]
  omega

theorem run_encodeChar_two {c : Char} (h : 0x80 ≤ c.toNat) (h' : c.toNat < 0x800) :
    run none (String.utf8EncodeChar c) = ([some c], none) := by
  have h1 : (UInt8.ofNat (c.toNat / 64 + 0xC0)).toNat = c.toNat / 64 + 0xC0 :=
    toNat_byte (by omega)
  have h2 : (UInt8.ofNat (c.toNat % 64 + 0x80)).toNat = c.toNat % 64 + 0x80 :=
    toNat_byte (by omega)
  rw [encodeChar_two h h']
  apply run_opened (by omega) (open?_two (by omega) (by omega))
  · refine ⟨rfl, List.forall_mem_singleton.mpr (within_continuation (by omega)), ?_⟩
    intro x hx
    obtain rfl := Option.some.inj hx
    rw [UInt8.le_iff_toNat_le, UInt8.le_iff_toNat_le, h2]
    simp only [UInt8.reduceToNat]
    omega
  · simp only [Open.valueAfter, List.foldl_cons, List.foldl_nil, h1, h2]
    omega

theorem run_encodeChar_three {c : Char} (h : 0x800 ≤ c.toNat) (h' : c.toNat < 0x10000) :
    run none (String.utf8EncodeChar c) = ([some c], none) := by
  have hs := toNat_not_surrogate c
  have h1 : (UInt8.ofNat (c.toNat / 4096 + 0xE0)).toNat = c.toNat / 4096 + 0xE0 :=
    toNat_byte (by omega)
  have h2 : (UInt8.ofNat (c.toNat / 64 % 64 + 0x80)).toNat = c.toNat / 64 % 64 + 0x80 :=
    toNat_byte (by omega)
  have h3 : (UInt8.ofNat (c.toNat % 64 + 0x80)).toNat = c.toNat % 64 + 0x80 :=
    toNat_byte (by omega)
  rw [encodeChar_three h h']
  apply run_opened (by omega) (open?_three (by omega) (by omega))
  · refine ⟨rfl, ?_, ?_⟩
    · exact List.forall_mem_cons.mpr ⟨within_continuation (by omega),
        List.forall_mem_singleton.mpr (within_continuation (by omega))⟩
    · -- The bounds after E0 and ED leave out overlong forms and surrogates, and `c` is none.
      intro x hx
      obtain rfl := Option.some.inj hx
      simp only [UInt8.le_iff_toNat_le, h1, h2]
      constructor <;> split <;> simp only [UInt8.reduceToNat] <;> omega
  · simp only [Open.valueAfter, List.foldl_cons, List.foldl_nil, h1, h2, h3]
    omega

theorem run_encodeChar_four {c : Char} (h : 0x10000 ≤ c.toNat) :
    run none (String.utf8EncodeChar c) = ([some c], none) := by
  have hl := toNat_lt_limit c
  have h1 : (UInt8.ofNat (c.toNat / 262144 + 0xF0)).toNat = c.toNat / 262144 + 0xF0 :=
    toNat_byte (by omega)
  have h2 : (UInt8.ofNat (c.toNat / 4096 % 64 + 0x80)).toNat = c.toNat / 4096 % 64 + 0x80 :=
    toNat_byte (by omega)
  have h3 : (UInt8.ofNat (c.toNat / 64 % 64 + 0x80)).toNat = c.toNat / 64 % 64 + 0x80 :=
    toNat_byte (by omega)
  have h4 : (UInt8.ofNat (c.toNat % 64 + 0x80)).toNat = c.toNat % 64 + 0x80 :=
    toNat_byte (by omega)
  rw [encodeChar_four h]
  apply run_opened (by omega) (open?_four (by omega) (by omega))
  · refine ⟨rfl, ?_, ?_⟩
    · exact List.forall_mem_cons.mpr ⟨within_continuation (by omega),
        List.forall_mem_cons.mpr ⟨within_continuation (by omega),
          List.forall_mem_singleton.mpr (within_continuation (by omega))⟩⟩
    · -- The bounds after F0 and F4 leave out overlong forms and what is past the last code point.
      intro x hx
      obtain rfl := Option.some.inj hx
      simp only [UInt8.le_iff_toNat_le, h1, h2]
      constructor <;> split <;> simp only [UInt8.reduceToNat] <;> omega
  · simp only [Open.valueAfter, List.foldl_cons, List.foldl_nil, h1, h2, h3, h4]
    omega

theorem run_encodeChar (c : Char) : run none (String.utf8EncodeChar c) = ([some c], none) := by
  by_cases h1 : c.toNat < 0x80
  · have hb : (UInt8.ofNat c.toNat).toNat = c.toNat := toNat_byte (by omega)
    rw [encodeChar_one h1, run_cons, step, start_ascii (by omega), hb, Char.ofNat_toNat]
    rfl
  · by_cases h2 : c.toNat < 0x800
    · exact run_encodeChar_two (by omega) h2
    · by_cases h3 : c.toNat < 0x10000
      · exact run_encodeChar_three (by omega) h3
      · exact run_encodeChar_four (by omega)

/-- A text is read back, whatever bytes follow it. -/
theorem run_encode_append (cs : List Char) (rest : List UInt8) :
    run none (encode cs ++ rest) = (cs.map some ++ (run none rest).1, (run none rest).2) := by
  induction cs with
  | nil => rfl
  | cons c cs ih =>
    rw [encode_cons, List.append_assoc, run_append, run_encodeChar, ih]
    rfl

theorem run_encode (cs : List Char) : run none (encode cs) = (cs.map some, none) := by
  simpa only [List.append_nil, run] using run_encode_append cs []

theorem replace_map_some (cs : List Char) : replace (cs.map some) = cs := by
  simp only [replace, List.map_map]
  exact List.map_id'' (fun _ => rfl) cs

theorem decodeLossy_encode (cs : List Char) : decodeLossy (encode cs) = cs := by
  simp only [decodeLossy, run_encode, replace_map_some]
  exact List.append_nil cs

theorem decode?_encode (cs : List Char) : decode? (encode cs) = some cs := by
  have hm : (cs.map some).mapM id = some cs := by
    rw [List.mapM_map]
    exact (List.mapM_pure (f := id)).trans (congrArg some (List.map_id cs))
  simp only [decode?, run_encode, Option.isSome_none, Bool.false_eq_true, if_false, hm]

/-! ### What is held -/

/-- A step that gives no piece takes its byte into what is held. -/
theorem step_pieces (s : State) (b : UInt8) :
    (step s b).1 ≠ [] ∨
      (step s b).1 = [] ∧ ∃ o, (step s b).2 = some o ∧ o.held = s.held ++ [b] := by
  cases s with
  | none =>
    by_cases hb : b.toNat < 0x80
    · left
      simp [step, start_ascii hb]
    · cases ho : open? b with
      | none =>
        left
        simp [step, start_malformed (Nat.not_lt.mp hb) ho]
      | some o =>
        right
        have hheld : o.held = [b] := held_of_open? ho
        rw [step, start_eq_open? (Nat.not_lt.mp hb) ho]
        exact ⟨rfl, o, rfl, hheld⟩
  | some o =>
    by_cases h : o.low ≤ b ∧ b ≤ o.high
    · by_cases hm : o.more ≤ 1
      · left
        simp [step_last h.1 h.2 hm]
      · right
        rw [step_extend h.1 h.2 (Nat.not_le.mp hm)]
        exact ⟨rfl, _, rfl, rfl⟩
    · left
      simp [step_broken h]

/-- As long as no piece has come out, all bytes read are held. -/
theorem held_of_run_eq_nil {s : State} {bytes : List UInt8} (h : (run s bytes).1 = []) :
    (run s bytes).2.held = s.held ++ bytes := by
  induction bytes generalizing s with
  | nil => exact (List.append_nil _).symm
  | cons b rest ih =>
    rw [run_cons] at h ⊢
    obtain ⟨h1, h2⟩ := List.append_eq_nil_iff.mp h
    rcases step_pieces s b with hne | ⟨-, o, ho, hheld⟩
    · exact absurd h1 hne
    · have hs : (step s b).2.held = s.held ++ [b] := by rw [ho]; exact hheld
      rw [ih h2, hs, List.append_assoc, List.singleton_append]

theorem run_ne_nil_of_eq_none {s : State} {bytes : List UInt8} (h : (run s bytes).2 = none)
    (hne : s.held ++ bytes ≠ []) : (run s bytes).1 ≠ [] := by
  intro hp
  have hheld := held_of_run_eq_nil hp
  rw [h] at hheld
  exact hne hheld.symm

/-- Before a character is complete, its bytes are held and nothing comes out. -/
theorem run_partial {c : Char} {front later : List UInt8}
    (hc : String.utf8EncodeChar c = front ++ later) (hf : front ≠ []) (hl : later ≠ []) :
    ∃ o, run none front = ([], some o) ∧ o.Begun ∧ o.held = front := by
  have hrun := run_encodeChar c
  rw [hc, run_append] at hrun
  obtain ⟨hpieces, hlast⟩ := Prod.mk.inj hrun
  have hlater := run_ne_nil_of_eq_none hlast (by simp [hl])
  -- One piece comes out in all, and the later bytes give it.
  have hfront : (run none front).1 = [] := by
    rcases List.append_eq_singleton_iff.mp hpieces with ⟨h, -⟩ | ⟨-, h⟩
    · exact h
    · exact absurd h hlater
  cases hs : (run none front).2 with
  | none => exact absurd hfront (run_ne_nil_of_eq_none hs (by simpa [State.held] using hf))
  | some o =>
    have hheld := held_of_run_eq_nil hfront
    rw [hs] at hheld
    refine ⟨o, Prod.ext hfront hs, ?_, by simpa [State.held] using hheld⟩
    exact begun_run begun_none front o (by rw [hs]; rfl)

/-! ### Bytes of ASCII -/

def State.broken (s : State) : List Piece := if s.isSome then [none] else []

theorem step_ascii {s : State} (hs : s.Begun) {b : UInt8} (hb : b.toNat < 0x80) :
    step s b = (s.broken ++ [some (Char.ofNat b.toNat)], none) := by
  cases s with
  | none => exact start_ascii hb
  | some o =>
    -- Continuation bytes are not ASCII, so that the open sequence is broken.
    have hout : ¬(o.low ≤ b ∧ b ≤ o.high) := fun hw => by
      have hlow := UInt8.le_iff_toNat_le.mp hw.1
      have hge := (hs o rfl).low_ge
      omega
    rw [step_broken hout, start_ascii hb]
    rfl

theorem decodeLossy_eq_replace (bytes : List UInt8) :
    decodeLossy bytes = replace ((run none bytes).1 ++ (run none bytes).2.broken) := by
  simp only [decodeLossy, replace, List.map_append, State.broken]
  split <;> rfl

/-- A byte of ASCII ends the text before it, and decoding starts afresh behind it. -/
theorem run_ascii (piece rest : List UInt8) {b : UInt8} (hb : b.toNat < 0x80) :
    replace (run none (piece ++ b :: rest)).1 =
        decodeLossy piece ++ Char.ofNat b.toNat :: replace (run none rest).1 ∧
      (run none (piece ++ b :: rest)).2 = (run none rest).2 := by
  have hs := step_ascii (begun_run begun_none piece) hb
  rw [run_append, run_cons, hs, decodeLossy_eq_replace]
  simp only [replace, List.map_append, List.map_cons, List.append_assoc, List.cons_append,
    List.nil_append, Option.getD_some, and_self]

theorem decodeLossy_append_ascii (piece rest : List UInt8) {b : UInt8} (hb : b.toNat < 0x80) :
    decodeLossy (piece ++ b :: rest) =
      decodeLossy piece ++ Char.ofNat b.toNat :: decodeLossy rest := by
  obtain ⟨htext, htail⟩ := run_ascii piece rest hb
  simp only [decodeLossy, htext, htail, List.append_assoc, List.cons_append]

theorem byte_of_ascii_mem_step {s : State} (hs : s.Begun) {b : UInt8} {c : Char}
    (hc : c.toNat < 0x80) (h : some c ∈ (step s b).1) : b = UInt8.ofNat c.toNat := by
  by_cases hb : b.toNat < 0x80
  · rw [step_ascii hs hb] at h
    rcases List.mem_append.mp h with h | h
    · unfold State.broken at h
      split at h <;> simp at h
    · have hcb : c = Char.ofNat b.toNat := by simpa using h
      rw [hcb, toNat_charOfNat (Or.inl (by omega)), UInt8.ofNat_toNat]
  · have hstart : some c ∉ (start b).1 := by
      cases ho : open? b with
      | none => simp [start_malformed (Nat.not_lt.mp hb) ho]
      | some o => simp [start_eq_open? (Nat.not_lt.mp hb) ho]
    cases s with
    | none => exact absurd h hstart
    | some o =>
      by_cases hw : o.low ≤ b ∧ b ≤ o.high
      · by_cases hm : o.more ≤ 1
        · -- A completed sequence has two bytes at least, a character of ASCII has one.
          have hlast := encodeChar_of_last (hs o rfl) hw.1 hw.2 hm
          rw [step_last hw.1 hw.2 hm] at h
          have hcv : c = Char.ofNat (o.value * 64 + (b.toNat - 0x80)) := by simpa using h
          rw [← hcv, encodeChar_one hc] at hlast
          have hlen := congrArg List.length hlast
          have hheld := List.length_pos_iff.mpr (hs o rfl).held_ne_nil
          simp only [List.length_append, List.length_singleton] at hlen
          omega
        · rw [step_extend hw.1 hw.2 (Nat.not_le.mp hm)] at h
          cases h
      · rw [step_broken hw] at h
        rcases List.mem_cons.mp h with h | h
        · cases h
        · exact absurd h hstart

theorem byte_mem_of_ascii_mem_run {s : State} (hs : s.Begun) {bytes : List UInt8} {c : Char}
    (hc : c.toNat < 0x80) (h : some c ∈ (run s bytes).1) : UInt8.ofNat c.toNat ∈ bytes := by
  induction bytes generalizing s with
  | nil => cases h
  | cons b rest ih =>
    rw [run_cons] at h
    rcases List.mem_append.mp h with h | h
    · exact byte_of_ascii_mem_step hs hc h ▸ List.mem_cons_self
    · exact List.mem_cons_of_mem b (ih (begun_step hs b) h)

/-- Characters of ASCII in a decoded text come from their own bytes. -/
theorem byte_mem_of_ascii_mem_replace {s : State} (hs : s.Begun) {bytes : List UInt8} {c : Char}
    (hc : c.toNat < 0x80) (h : c ∈ replace (run s bytes).1) : UInt8.ofNat c.toNat ∈ bytes := by
  obtain ⟨piece, hp, hpc⟩ := List.mem_map.mp h
  cases piece with
  | none =>
    obtain rfl : '\uFFFD' = c := hpc
    exact absurd hc (by decide)
  | some d =>
    obtain rfl : d = c := hpc
    exact byte_mem_of_ascii_mem_run hs hc hp

end ChatRelay.Utf8
