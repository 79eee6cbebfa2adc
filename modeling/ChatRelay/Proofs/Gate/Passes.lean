import ChatRelay.Proofs.Gate.Traversal

/-!
How exact the guard against hidden dot pairs is. Decoding leaves a text as it is just where
nothing is left to decode, and so the guard gives up a text just where the last of its passes has
still something to decode, or one of them shows a dot pair.
-/

namespace ChatRelay.Url

open Utf8 (Outline outline)

/-- The digits that escapes are read with. -/
def hexDigits : List Char := "0123456789ABCDEFabcdef".toList

/-- That a text holds an escape: a percent sign with two digits behind it. -/
def HasEscape (cs : List Char) : Prop :=
  ∃ h ∈ hexDigits, ∃ l ∈ hexDigits, ['%', h, l] <:+: cs

/-! ### Escapes and their bytes -/

theorem exists_hexValue? {c : Char} (h : c ∈ hexDigits) :
    ∃ x, hexValue? (UInt8.ofNat c.toNat) = some x := by
  have hall : hexDigits.all (fun c => (hexValue? (UInt8.ofNat c.toNat)).isSome) = true := by
    decide
  exact Option.isSome_iff_exists.mp (List.all_eq_true.mp hall c h)

theorem exists_hexDigit {b x : UInt8} (h : hexValue? b = some x) :
    ∃ c ∈ hexDigits, b = UInt8.ofNat c.toNat := by
  have hall : ∀ n < 256, (hexValue? (UInt8.ofNat n)).isSome = true →
      Char.ofNat n ∈ hexDigits ∧ UInt8.ofNat (Char.ofNat n).toNat = UInt8.ofNat n := by
    decide +kernel
  have hbyte : UInt8.ofNat b.toNat = b := UInt8.ofNat_toNat
  obtain ⟨hmem, hvalue⟩ := hall b.toNat b.toNat_lt (by rw [hbyte, h]; rfl)
  exact ⟨_, hmem, by rw [hvalue, hbyte]⟩

section Escape

variable {h l : Char} (hh : h ∈ hexDigits) (hl : l ∈ hexDigits)
include hh hl

theorem ascii_escape : ∀ c ∈ ['%', h, l], c.toNat < 0x80 := by
  have hall : hexDigits.all (fun c => decide (c.toNat < 0x80)) = true := by decide
  have hdigit {c : Char} (hc : c ∈ hexDigits) : c.toNat < 0x80 :=
    of_decide_eq_true (List.all_eq_true.mp hall c hc)
  simp only [List.forall_mem_cons]
  exact ⟨by decide, hdigit hh, hdigit hl, nofun⟩

theorem encode_escape :
    Utf8.encode ['%', h, l] = [0x25, UInt8.ofNat h.toNat, UInt8.ofNat l.toNat] := by
  have hascii := ascii_escape hh hl
  simp only [List.forall_mem_cons] at hascii
  obtain ⟨-, hhigh, hlow, -⟩ := hascii
  simp only [Utf8.encode, List.flatMap_cons, List.flatMap_nil, Utf8.encodeChar_one hhigh,
    Utf8.encodeChar_one hlow]
  rfl

end Escape

/-! ### Nothing to decode -/

theorem percentDecode_eq_self {bytes : List UInt8}
    (h : ∀ rest, rest <:+ bytes → ¬ BeginsEscape rest) : percentDecode bytes = bytes := by
  induction bytes using escape_induction with
  | nil => rfl
  | escape hh hl ih => exact absurd ⟨_, _, _, _, _, rfl, hh, hl⟩ (h _ List.suffix_rfl)
  | plain hn ih =>
    rw [percentDecode_cons hn, ih fun rest hrest => h rest (hrest.trans (List.suffix_cons _ _))]

/-- An escape in the bytes of a text is one in the text. -/
theorem hasEscape_of_beginsEscape {cs : List Char} {rest : List UInt8}
    (hrest : rest <:+ Utf8.encode cs) (hb : BeginsEscape rest) : HasEscape cs := by
  obtain ⟨b, d, x, y, later, rfl, hx, hy⟩ := hb
  obtain ⟨h, hh, rfl⟩ := exists_hexDigit hx
  obtain ⟨l, hl, rfl⟩ := exists_hexDigit hy
  refine ⟨h, hh, l, hl, Utf8.infix_of_encode (ascii_escape hh hl) ?_⟩
  rw [encode_escape hh hl]
  exact List.IsInfix.trans ⟨[], later, rfl⟩ hrest.isInfix

/-! ### Something to decode -/

theorem length_mark_le (o : Outline) : (Outline.mark o).length ≤ o.length + 1 := by
  rcases Outline.mark_cases o with h | ⟨_, _, h⟩
  · exact Nat.le_of_eq (congrArg List.length h)
  · rw [h]
    omega

theorem length_push_le (b : UInt8) (o : Outline) : (Outline.push b o).length ≤ o.length + 1 := by
  by_cases hb : b < 0x80
  · exact Nat.le_of_eq (congrArg List.length (Outline.push_ascii hb o))
  · rw [Outline.push_other hb]
    exact length_mark_le o

theorem length_decodeOutline_le (o : Outline) : (decodeOutline o).length ≤ o.length := by
  fun_induction decodeOutline o with
  | case1 h l rest x y _ _ ih =>
    have hpush := length_push_le (x * 16 + y) (decodeOutline rest)
    simp only [List.length_cons]
    omega
  | case2 _ _ _ _ ih => exact Nat.succ_le_succ ih
  | case3 _ _ _ _ _ ih => exact Nat.succ_le_succ ih
  | case4 _ _ _ ih => exact Nat.succ_le_succ ih
  | case5 rest ih => exact Nat.le_trans (length_mark_le _) (Nat.succ_le_succ ih)
  | case6 => exact Nat.le_refl _

/-- An escape leaves one byte, or a mark, of three. -/
theorem length_decodeOutline_lt {h l x y : UInt8} (hh : hexValue? h = some x)
    (hl : hexValue? l = some y) {o : Outline} (ho : [some 0x25, some h, some l] <:+: o) :
    (decodeOutline o).length < o.length := by
  -- Where no escape is decoded in front, it stands in what is left.
  fun_induction decodeOutline o with
  | case1 h' l' rest x' y' _ _ _ =>
    have hpush := length_push_le (x' * 16 + y') (decodeOutline rest)
    have hle := length_decodeOutline_le rest
    simp only [List.length_cons]
    omega
  | case2 h' l' rest hno ih =>
    rcases List.infix_cons_iff.mp ho with hfront | hlater
    · simp only [List.cons_prefix_cons, Option.some.injEq] at hfront
      obtain ⟨-, rfl, rfl, -⟩ := hfront
      exact absurd hl (hno x y hh)
    · exact Nat.succ_lt_succ (ih hlater)
  | case3 b h' l' rest hb ih =>
    rcases List.infix_cons_iff.mp ho with hfront | hlater
    · exact absurd (Option.some.inj (List.cons_prefix_cons.mp hfront).1).symm hb
    · exact Nat.succ_lt_succ (ih hlater)
  | case4 b rest hno ih =>
    rcases List.infix_cons_iff.mp ho with hfront | hlater
    · obtain ⟨later, hlater⟩ := (List.cons_prefix_cons.mp hfront).2
      exact absurd hlater.symm (hno h l later)
    · exact Nat.succ_lt_succ (ih hlater)
  | case5 rest ih =>
    rcases List.infix_cons_iff.mp ho with hfront | hlater
    · exact nomatch (List.cons_prefix_cons.mp hfront).1
    · exact Nat.lt_of_le_of_lt (length_mark_le _) (Nat.succ_lt_succ (ih hlater))
  | case6 => exact absurd (List.infix_nil.mp ho) (List.cons_ne_nil _ _)

end ChatRelay.Url

namespace ChatRelay.Gate

open Url (HasEscape)

/-! ### Passes -/

/-- A pass changes nothing where there is nothing to decode. What stands for a malformed piece may
be as long as the escapes that the piece was written with, but its outline is shorter. -/
theorem decodePass_eq_self_iff {cs : List Char} : decodePass cs = cs ↔ ¬ HasEscape cs := by
  constructor
  · rintro hrest ⟨h, hh, l, hl, hescape⟩
    obtain ⟨x, hx⟩ := Url.exists_hexValue? hh
    obtain ⟨y, hy⟩ := Url.exists_hexValue? hl
    have houtline := (Utf8.infix_outline_iff (Url.ascii_escape hh hl)).mpr hescape
    rw [Url.encode_escape hh hl] at houtline
    have hshorter := Url.length_decodeOutline_lt hx hy houtline
    rw [← outline_decodePass, hrest] at hshorter
    exact Nat.lt_irrefl _ hshorter
  · intro hno
    have hplain : Url.percentDecode (Utf8.encode cs) = Utf8.encode cs :=
      Url.percentDecode_eq_self fun rest hrest hb => hno (Url.hasEscape_of_beginsEscape hrest hb)
    rw [decodePass, hplain, Utf8.decodeLossy_encode]

/-- Nothing is hidden within some passes if none of the texts that they look at shows a dot pair
and the last one has nothing left to decode. -/
theorem hidesTraversalWithin_eq_false_iff {passes : Nat} {cs : List Char} :
    hidesTraversalWithin (passes + 1) cs = false ↔
      ¬ HasEscape (decodePass^[passes] cs) ∧
        ∀ k ≤ passes, ¬ ['.', '.'] <:+: decodePass^[k] cs := by
  induction passes generalizing cs with
  | zero =>
    rw [Function.iterate_zero_apply, ← decodePass_eq_self_iff]
    simp [hidesTraversalWithin, ← hasDotPair_iff, and_comm]
  | succ passes ih =>
    rw [hidesTraversalWithin, Function.iterate_succ_apply]
    by_cases hpair : hasDotPair cs = true
    · rw [if_pos hpair]
      exact iff_of_false Bool.noConfusion fun h => h.2 0 (Nat.zero_le _) (hasDotPair_iff.mp hpair)
    rw [if_neg hpair]
    rw [hasDotPair_iff] at hpair
    by_cases hrest : decodePass cs = cs
    · -- A text that rests is the one that all passes look at.
      have hall (k : Nat) : decodePass^[k] cs = cs := Function.iterate_fixed hrest k
      rw [if_pos hrest, hrest, hall]
      exact iff_of_true rfl ⟨decodePass_eq_self_iff.mp hrest, fun k _ => (hall k).symm ▸ hpair⟩
    rw [if_neg hrest, ih]
    refine and_congr_right fun _ => ⟨fun h k hk => ?_, fun h k hk => h (k + 1) (by omega)⟩
    cases k with
    | zero => exact hpair
    | succ k => exact h k (by omega)

/-- The guard lets a text through if decoding it three times leaves nothing to decode and neither
the text nor one of its decodings shows a dot pair; all further decodings are then the last one. -/
theorem hidesTraversal_eq_false_iff (cs : List Char) :
    (hidesTraversal cs = false ↔
      ¬ HasEscape (decodePass^[3] cs) ∧ ∀ k ≤ 3, ¬ ['.', '.'] <:+: decodePass^[k] cs) ∧
    (hidesTraversal cs = false → ∀ n, 3 ≤ n →
      decodePass^[n] cs = decodePass^[3] cs ∧ ¬ ['.', '.'] <:+: decodePass^[n] cs) := by
  have hiff : hidesTraversal cs = false ↔
      ¬ HasEscape (decodePass^[3] cs) ∧ ∀ k ≤ 3, ¬ ['.', '.'] <:+: decodePass^[k] cs := by
    rw [hidesTraversal, passLimit, hidesTraversalWithin_eq_false_iff]
  refine ⟨hiff, fun h n hn => ?_⟩
  obtain ⟨hno, hpairs⟩ := hiff.mp h
  have hlast : decodePass^[n] cs = decodePass^[3] cs := by
    rw [← Nat.sub_add_cancel hn, Function.iterate_add_apply,
      Function.iterate_fixed (decodePass_eq_self_iff.mpr hno)]
  rw [hlast]
  exact ⟨rfl, hpairs 3 (Nat.le_refl 3)⟩

/-- A path with a percent sign encoded three times over, and a byte that is no text and is written
as long as its escape. -/
theorem hidesTraversal_deepPercent :
    hidesTraversal "/%252525/%ff".toList = false ∧
      decodePass^[3] "/%252525/%ff".toList = "/%/�".toList ∧
      decodePass^[8] "/%252525/%ff".toList = "/%/�".toList ∧
      ¬ ['.', '.'] <:+: decodePass^[8] "/%252525/%ff".toList := by
  have hpasses : hidesTraversal "/%252525/%ff".toList = false := by decide +kernel
  have hthird : decodePass^[3] "/%252525/%ff".toList = "/%/�".toList := by decide +kernel
  obtain ⟨hlast, hpair⟩ :=
    (hidesTraversal_eq_false_iff "/%252525/%ff".toList).2 hpasses 8 (by decide)
  exact ⟨hpasses, hthird, hlast.trans hthird, hpair⟩

/-- One level of encoding more is too deep to tell. -/
example : hidesTraversal "/%25252525".toList = true := by decide +kernel

end ChatRelay.Gate
