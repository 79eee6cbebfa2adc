import Mathlib.Data.List.Basic
import ChatRelay.Text.Utf8

/-!
The bytes of one character and the decoder's way through them. An open sequence is one that
every choice of fitting bytes completes to a character; this is what each step of the decoder
keeps, and all facts about what the decoder holds follow from it.
-/

namespace ChatRelay.Utf8

/-! ### Bytes of a character -/

theorem toNat_charOfNat {n : Nat} (h : n.isValidChar) : (Char.ofNat n).toNat = n := by
  unfold Char.ofNat
  rw [dif_pos h]
  rfl

theorem encodeChar_one {c : Char} (h : c.toNat < 0x80) :
    String.utf8EncodeChar c = [UInt8.ofNat c.toNat] := by
  have hv : c.val.toNat = c.toNat := rfl
  unfold String.utf8EncodeChar
  rw [hv, if_pos (by omega)]

theorem encodeChar_two {c : Char} (h : 0x80 ≤ c.toNat) (h' : c.toNat < 0x800) :
    String.utf8EncodeChar c =
      [UInt8.ofNat (c.toNat / 64 + 0xC0), UInt8.ofNat (c.toNat % 64 + 0x80)] := by
  have hv : c.val.toNat = c.toNat := rfl
  have hd : c.toNat / 64 % 0x20 = c.toNat / 64 := by omega
  unfold String.utf8EncodeChar
  rw [hv, if_neg (by omega), if_pos (by omega), hd]

theorem encodeChar_three {c : Char} (h : 0x800 ≤ c.toNat) (h' : c.toNat < 0x10000) :
    String.utf8EncodeChar c =
      [UInt8.ofNat (c.toNat / 4096 + 0xE0), UInt8.ofNat (c.toNat / 64 % 64 + 0x80),
        UInt8.ofNat (c.toNat % 64 + 0x80)] := by
  have hv : c.val.toNat = c.toNat := rfl
  have hd : c.toNat / 4096 % 0x10 = c.toNat / 4096 := by omega
  unfold String.utf8EncodeChar
  rw [hv, if_neg (by omega), if_neg (by omega), if_pos (by omega), hd]

theorem toNat_lt_limit (c : Char) : c.toNat < 0x110000 := by
  have hv := c.valid
  simp only [UInt32.isValidChar, Nat.isValidChar] at hv
  have : c.val.toNat = c.toNat := rfl
  omega

theorem toNat_not_surrogate (c : Char) : c.toNat < 0xD800 ∨ 0xDFFF < c.toNat := by
  have hv := c.valid
  simp only [UInt32.isValidChar, Nat.isValidChar] at hv
  have : c.val.toNat = c.toNat := rfl
  omega

theorem encodeChar_four {c : Char} (h : 0x10000 ≤ c.toNat) :
    String.utf8EncodeChar c =
      [UInt8.ofNat (c.toNat / 262144 + 0xF0), UInt8.ofNat (c.toNat / 4096 % 64 + 0x80),
        UInt8.ofNat (c.toNat / 64 % 64 + 0x80), UInt8.ofNat (c.toNat % 64 + 0x80)] := by
  have hv : c.val.toNat = c.toNat := rfl
  have hl := toNat_lt_limit c
  have hd : c.toNat / 262144 % 0x08 = c.toNat / 262144 := by omega
  unfold String.utf8EncodeChar
  rw [hv, if_neg (by omega), if_neg (by omega), if_neg (by omega), hd]

/-- A byte of a character is the character itself or none of ASCII. -/
theorem of_mem_encodeChar {c : Char} {b : UInt8} (h : b ∈ String.utf8EncodeChar c) :
    b.toNat = c.toNat ∨ 0x80 ≤ b.toNat := by
  have hl := toNat_lt_limit c
  -- No byte of a longer encoding is below 0x80: first bytes are not below C0, the others not
  -- below 80, and neither sum overflows.
  have hbyte {n m : Nat} (hn : n < 256) (hm : m ≤ n) : m ≤ (UInt8.ofNat n).toNat := by
    rw [UInt8.toNat_ofNat']
    omega
  rcases Nat.lt_or_ge c.toNat 0x80 with h1 | h1
  · rw [encodeChar_one h1] at h
    rw [List.mem_singleton.mp h, UInt8.toNat_ofNat']
    exact .inl (by omega)
  · right
    rcases Nat.lt_or_ge c.toNat 0x800 with h2 | h2
    · rw [encodeChar_two h1 h2] at h
      simp only [List.mem_cons, List.not_mem_nil, or_false] at h
      rcases h with rfl | rfl <;> exact hbyte (by omega) (by omega)
    rcases Nat.lt_or_ge c.toNat 0x10000 with h3 | h3
    · rw [encodeChar_three h2 h3] at h
      simp only [List.mem_cons, List.not_mem_nil, or_false] at h
      rcases h with rfl | rfl | rfl <;> exact hbyte (by omega) (by omega)
    · rw [encodeChar_four h3] at h
      simp only [List.mem_cons, List.not_mem_nil, or_false] at h
      rcases h with rfl | rfl | rfl | rfl <;> exact hbyte (by omega) (by omega)

/-! ### First bytes -/

theorem ofNat_eq_of_toNat {n : Nat} {b : UInt8} (h : n = b.toNat) : UInt8.ofNat n = b := by
  rw [h, UInt8.ofNat_toNat]

theorem toNat_byte {n : Nat} (h : n < 256) : (UInt8.ofNat n).toNat = n := by
  rw [UInt8.toNat_ofNat']
  omega

theorem start_ascii {b : UInt8} (h : b.toNat < 0x80) :
    start b = ([some (Char.ofNat b.toNat)], none) := by
  have hb : b < 0x80 := UInt8.lt_iff_toNat_lt.mpr h
  simp only [start, if_pos hb]

theorem start_eq_open? {b : UInt8} {o : Open} (h : 0x80 ≤ b.toNat) (ho : open? b = some o) :
    start b = ([], some o) := by
  have hb : ¬ b < 0x80 := UInt8.not_lt.mpr (UInt8.le_iff_toNat_le.mpr h)
  simp only [start, if_neg hb, ho]

theorem start_malformed {b : UInt8} (h : 0x80 ≤ b.toNat) (ho : open? b = none) :
    start b = ([none], none) := by
  have hb : ¬ b < 0x80 := UInt8.not_lt.mpr (UInt8.le_iff_toNat_le.mpr h)
  simp only [start, if_neg hb, ho]

theorem open?_eq (b : UInt8) : open? b =
    if b.toNat < 0xC2 then none
    else if b.toNat < 0xE0 then some ⟨[b], 1, 0x80, 0xBF, b.toNat - 0xC0⟩
    else if b.toNat < 0xF0 then
      some ⟨[b], 2, if b.toNat = 0xE0 then 0xA0 else 0x80, if b.toNat = 0xED then 0x9F else 0xBF,
        b.toNat - 0xE0⟩
    else if b.toNat < 0xF5 then
      some ⟨[b], 3, if b.toNat = 0xF0 then 0x90 else 0x80, if b.toNat = 0xF4 then 0x8F else 0xBF,
        b.toNat - 0xF0⟩
    else none := by
  simp only [open?, UInt8.lt_iff_toNat_lt, ← UInt8.toNat_inj, UInt8.reduceToNat]

theorem open?_two {b : UInt8} (h : 0xC2 ≤ b.toNat) (h' : b.toNat < 0xE0) :
    open? b = some ⟨[b], 1, 0x80, 0xBF, b.toNat - 0xC0⟩ := by
  rw [open?_eq, if_neg (by omega), if_pos h']

theorem open?_three {b : UInt8} (h : 0xE0 ≤ b.toNat) (h' : b.toNat < 0xF0) :
    open? b = some ⟨[b], 2, if b.toNat = 0xE0 then 0xA0 else 0x80,
      if b.toNat = 0xED then 0x9F else 0xBF, b.toNat - 0xE0⟩ := by
  rw [open?_eq, if_neg (by omega), if_neg (by omega), if_pos h']

theorem open?_four {b : UInt8} (h : 0xF0 ≤ b.toNat) (h' : b.toNat < 0xF5) :
    open? b = some ⟨[b], 3, if b.toNat = 0xF0 then 0x90 else 0x80,
      if b.toNat = 0xF4 then 0x8F else 0xBF, b.toNat - 0xF0⟩ := by
  rw [open?_eq, if_neg (by omega), if_neg (by omega), if_neg (by omega), if_pos h']

/-- The bytes that open a sequence are those from C2 to F4, and they open one of three kinds. -/
theorem open?_cases {b : UInt8} {o : Open} (h : open? b = some o) :
    (0xC2 ≤ b.toNat ∧ b.toNat < 0xE0 ∧ o = ⟨[b], 1, 0x80, 0xBF, b.toNat - 0xC0⟩) ∨
      (0xE0 ≤ b.toNat ∧ b.toNat < 0xF0 ∧ o = ⟨[b], 2, if b.toNat = 0xE0 then 0xA0 else 0x80,
        if b.toNat = 0xED then 0x9F else 0xBF, b.toNat - 0xE0⟩) ∨
      (0xF0 ≤ b.toNat ∧ b.toNat < 0xF5 ∧ o = ⟨[b], 3, if b.toNat = 0xF0 then 0x90 else 0x80,
        if b.toNat = 0xF4 then 0x8F else 0xBF, b.toNat - 0xF0⟩) := by
  have hlow : 0xC2 ≤ b.toNat := by
    by_contra hlt
    rw [open?_eq, if_pos (by omega)] at h
    cases h
  by_cases h2 : b.toNat < 0xE0
  · rw [open?_two hlow h2] at h
    exact .inl ⟨hlow, h2, (Option.some.inj h).symm⟩
  by_cases h3 : b.toNat < 0xF0
  · rw [open?_three (by omega) h3] at h
    exact .inr (.inl ⟨by omega, h3, (Option.some.inj h).symm⟩)
  have h4 : b.toNat < 0xF5 := by
    by_contra hge
    rw [open?_eq, if_neg (by omega), if_neg h2, if_neg h3, if_neg hge] at h
    cases h
  rw [open?_four (by omega) h4] at h
  exact .inr (.inr ⟨by omega, h4, (Option.some.inj h).symm⟩)

/-! ### Open sequences -/

/-- The code point so far once more bytes have been read. -/
def Open.valueAfter (o : Open) (bs : List UInt8) : Nat :=
  bs.foldl (fun value b => value * 64 + (b.toNat - 0x80)) o.value

/-- Bytes that an open sequence still takes, as many as it lacks. -/
structure Open.Fits (o : Open) (bs : List UInt8) : Prop where
  length_eq : bs.length = o.more
  within : ∀ b ∈ bs, 0x80 ≤ b.toNat ∧ b.toNat ≤ 0xBF
  first_within : ∀ b ∈ bs.head?, o.low ≤ b ∧ b ≤ o.high

theorem Open.Fits.first {o : Open} {b : UInt8} {bs : List UInt8} (h : o.Fits (b :: bs)) :
    o.low.toNat ≤ b.toNat ∧ b.toNat ≤ o.high.toNat :=
  (h.first_within b rfl).imp UInt8.le_iff_toNat_le.mp UInt8.le_iff_toNat_le.mp

/-- A sequence that every choice of fitting bytes completes to a character. -/
structure Open.Begun (o : Open) : Prop where
  held_ne_nil : o.held ≠ []
  more_pos : 0 < o.more
  low_ge : 0x80 ≤ o.low.toNat
  high_le : o.high.toNat ≤ 0xBF
  low_le_high : o.low.toNat ≤ o.high.toNat
  completes : ∀ bs, o.Fits bs →
    String.utf8EncodeChar (Char.ofNat (o.valueAfter bs)) = o.held ++ bs

theorem begun_two {b : UInt8} (h : 0xC2 ≤ b.toNat) (h' : b.toNat < 0xE0) :
    Open.Begun ⟨[b], 1, 0x80, 0xBF, b.toNat - 0xC0⟩ := by
  refine ⟨by simp, by simp, by simp, by simp, by simp, ?_⟩
  intro bs hf
  obtain ⟨x, rfl⟩ := List.length_eq_one_iff.mp hf.length_eq
  have hx := hf.within x (by simp)
  have hn : Open.valueAfter ⟨[b], 1, 0x80, 0xBF, b.toNat - 0xC0⟩ [x] =
      (b.toNat - 0xC0) * 64 + (x.toNat - 0x80) := rfl
  have hv := toNat_charOfNat (n := (b.toNat - 0xC0) * 64 + (x.toNat - 0x80)) (Or.inl (by omega))
  rw [hn, encodeChar_two (by omega) (by omega), hv,
    ofNat_eq_of_toNat (b := b) (by omega), ofNat_eq_of_toNat (b := x) (by omega)]
  rfl

theorem begun_three {b : UInt8} (h : 0xE0 ≤ b.toNat) (h' : b.toNat < 0xF0) :
    Open.Begun ⟨[b], 2, if b.toNat = 0xE0 then 0xA0 else 0x80,
      if b.toNat = 0xED then 0x9F else 0xBF, b.toNat - 0xE0⟩ := by
  refine ⟨by simp, by simp, by dsimp only; split <;> decide, by dsimp only; split <;> decide,
    ?_, ?_⟩
  · dsimp only
    split
    · rw [if_neg (by omega)]
      decide
    · split <;> decide
  intro bs hf
  obtain ⟨x, y, rfl⟩ := List.length_eq_two.mp hf.length_eq
  have hx := hf.within x (by simp)
  have hy := hf.within y (by simp)
  -- After E0 the second byte keeps the value past the two-byte forms, after ED short of the
  -- surrogates.
  have hlow : b.toNat = 0xE0 → 0xA0 ≤ x.toNat := fun he => by
    simpa [if_pos he] using hf.first.1
  have hhigh : b.toNat = 0xED → x.toNat ≤ 0x9F := fun he => by
    simpa [if_pos he] using hf.first.2
  have hn : Open.valueAfter ⟨[b], 2, if b.toNat = 0xE0 then 0xA0 else 0x80,
      if b.toNat = 0xED then 0x9F else 0xBF, b.toNat - 0xE0⟩ [x, y] =
      ((b.toNat - 0xE0) * 64 + (x.toNat - 0x80)) * 64 + (y.toNat - 0x80) := rfl
  have hv := toNat_charOfNat
    (n := ((b.toNat - 0xE0) * 64 + (x.toNat - 0x80)) * 64 + (y.toNat - 0x80))
    (by unfold Nat.isValidChar; omega)
  rw [hn, encodeChar_three (by omega) (by omega), hv, ofNat_eq_of_toNat (b := b) (by omega),
    ofNat_eq_of_toNat (b := x) (by omega), ofNat_eq_of_toNat (b := y) (by omega)]
  rfl

theorem begun_four {b : UInt8} (h : 0xF0 ≤ b.toNat) (h' : b.toNat < 0xF5) :
    Open.Begun ⟨[b], 3, if b.toNat = 0xF0 then 0x90 else 0x80,
      if b.toNat = 0xF4 then 0x8F else 0xBF, b.toNat - 0xF0⟩ := by
  refine ⟨by simp, by simp, by dsimp only; split <;> decide, by dsimp only; split <;> decide,
    ?_, ?_⟩
  · dsimp only
    split
    · rw [if_neg (by omega)]
      decide
    · split <;> decide
  intro bs hf
  obtain ⟨x, y, z, rfl⟩ := List.length_eq_three.mp hf.length_eq
  have hx := hf.within x (by simp)
  have hy := hf.within y (by simp)
  have hz := hf.within z (by simp)
  -- After F0 the second byte keeps the value past the three-byte forms, after F4 short of the
  -- first value that is no code point.
  have hlow : b.toNat = 0xF0 → 0x90 ≤ x.toNat := fun he => by
    simpa [if_pos he] using hf.first.1
  have hhigh : b.toNat = 0xF4 → x.toNat ≤ 0x8F := fun he => by
    simpa [if_pos he] using hf.first.2
  have hn : Open.valueAfter ⟨[b], 3, if b.toNat = 0xF0 then 0x90 else 0x80,
      if b.toNat = 0xF4 then 0x8F else 0xBF, b.toNat - 0xF0⟩ [x, y, z] =
      (((b.toNat - 0xF0) * 64 + (x.toNat - 0x80)) * 64 + (y.toNat - 0x80)) * 64 +
        (z.toNat - 0x80) := rfl
  have hv := toNat_charOfNat
    (n := (((b.toNat - 0xF0) * 64 + (x.toNat - 0x80)) * 64 + (y.toNat - 0x80)) * 64 +
      (z.toNat - 0x80)) (by unfold Nat.isValidChar; omega)
  rw [hn, encodeChar_four (by omega), hv, ofNat_eq_of_toNat (b := b) (by omega),
    ofNat_eq_of_toNat (b := x) (by omega), ofNat_eq_of_toNat (b := y) (by omega),
    ofNat_eq_of_toNat (b := z) (by omega)]
  rfl

theorem begun_of_open? {b : UInt8} {o : Open} (h : open? b = some o) : o.Begun := by
  rcases open?_cases h with ⟨hlow, hhigh, rfl⟩ | ⟨hlow, hhigh, rfl⟩ | ⟨hlow, hhigh, rfl⟩
  · exact begun_two hlow hhigh
  · exact begun_three hlow hhigh
  · exact begun_four hlow hhigh

theorem held_of_open? {b : UInt8} {o : Open} (h : open? b = some o) : o.held = [b] := by
  rcases open?_cases h with ⟨-, -, rfl⟩ | ⟨-, -, rfl⟩ | ⟨-, -, rfl⟩ <;> rfl

/-- An open sequence after one more byte that does not complete it. -/
def Open.extend (o : Open) (b : UInt8) : Open :=
  ⟨o.held ++ [b], o.more - 1, 0x80, 0xBF, o.value * 64 + (b.toNat - 0x80)⟩

theorem Open.valueAfter_extend (o : Open) (b : UInt8) (bs : List UInt8) :
    (o.extend b).valueAfter bs = o.valueAfter (b :: bs) := by
  simp only [valueAfter, extend, List.foldl_cons]

theorem begun_extend {o : Open} {b : UInt8} (ho : o.Begun) (hl : o.low ≤ b) (hh : b ≤ o.high)
    (hm : 1 < o.more) : (o.extend b).Begun := by
  refine ⟨by simp [Open.extend], by simp only [Open.extend]; omega, by simp [Open.extend],
    by simp [Open.extend], by simp [Open.extend], ?_⟩
  -- What fits the longer sequence fits the shorter one with the byte in front of it.
  intro bs hf
  have hlow := UInt8.le_iff_toNat_le.mp hl
  have hhigh := UInt8.le_iff_toNat_le.mp hh
  have hb : 0x80 ≤ b.toNat ∧ b.toNat ≤ 0xBF :=
    ⟨Nat.le_trans ho.low_ge hlow, Nat.le_trans hhigh ho.high_le⟩
  have hlen : bs.length = o.more - 1 := hf.length_eq
  have hfits : o.Fits (b :: bs) :=
    ⟨by rw [List.length_cons, hlen]; omega, List.forall_mem_cons.mpr ⟨hb, hf.within⟩,
      fun x hx => Option.some.inj hx ▸ ⟨hl, hh⟩⟩
  rw [o.valueAfter_extend, ho.completes _ hfits, Open.extend, List.append_assoc,
    List.singleton_append]

theorem encodeChar_of_last {o : Open} {b : UInt8} (ho : o.Begun) (hl : o.low ≤ b)
    (hh : b ≤ o.high) (hm : o.more ≤ 1) :
    String.utf8EncodeChar (Char.ofNat (o.value * 64 + (b.toNat - 0x80))) = o.held ++ [b] := by
  have hlow := UInt8.le_iff_toNat_le.mp hl
  have hhigh := UInt8.le_iff_toNat_le.mp hh
  have hpos := ho.more_pos
  apply ho.completes [b]
  refine ⟨by simp only [List.length_singleton]; omega, ?_,
    fun x hx => Option.some.inj hx ▸ ⟨hl, hh⟩⟩
  intro x hx
  obtain rfl := List.mem_singleton.mp hx
  exact ⟨Nat.le_trans ho.low_ge hlow, Nat.le_trans hhigh ho.high_le⟩

theorem Open.Begun.exists_encodeChar {o : Open} (ho : o.Begun) :
    ∃ c later, later ≠ [] ∧ String.utf8EncodeChar c = o.held ++ later := by
  have hpos := ho.more_pos
  have hlow := ho.low_ge
  have hhigh := ho.high_le
  have hle := ho.low_le_high
  -- The lowest byte that fits, and then the lowest continuation bytes.
  refine ⟨_, o.low :: List.replicate (o.more - 1) 0x80, by simp, ho.completes _ ⟨?_, ?_, ?_⟩⟩
  · simp only [List.length_cons, List.length_replicate]
    omega
  · intro b hb
    rcases List.mem_cons.mp hb with rfl | hb
    · omega
    · rw [List.eq_of_mem_replicate hb]
      decide
  · intro b hb
    obtain rfl := Option.some.inj hb
    exact ⟨UInt8.le_refl _, UInt8.le_iff_toNat_le.mpr hle⟩

end ChatRelay.Utf8
