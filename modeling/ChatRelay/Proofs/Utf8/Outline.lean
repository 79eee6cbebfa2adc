import ChatRelay.Proofs.Utf8.Decoding

/-!
The outline of a byte string: its bytes of ASCII, and one mark for each run of other bytes.
Decoding to a text and writing the text as bytes again may replace what is malformed, but it
leaves the outline as it is.
-/

namespace ChatRelay.Utf8

abbrev Outline := List (Option UInt8)

namespace Outline

/-- A mark in front; two marks never stand side by side. -/
def mark (o : Outline) : Outline := if o.head? = some none then o else none :: o

def push (b : UInt8) (o : Outline) : Outline := if b < 0x80 then some b :: o else mark o

theorem push_ascii {b : UInt8} (hb : b < 0x80) (o : Outline) : push b o = some b :: o :=
  if_pos hb

theorem push_other {b : UInt8} (hb : ¬ b < 0x80) (o : Outline) : push b o = mark o :=
  if_neg hb

theorem mark_none_cons (o : Outline) : mark (none :: o) = none :: o := if_pos rfl

theorem mark_cases (o : Outline) : mark o = none :: o ∨ ∃ o', o = none :: o' ∧ mark o = o := by
  cases o with
  | nil => exact .inl rfl
  | cons first o =>
    cases first with
    | none => exact .inr ⟨o, rfl, mark_none_cons o⟩
    | some b => exact .inl rfl

theorem mark_mark (o : Outline) : mark (mark o) = mark o := by
  rcases mark_cases o with h | ⟨o', rfl, h⟩
  · rw [h, mark_none_cons]
  · rw [h, h]

theorem mark_ne_some_cons (b : UInt8) (o o' : Outline) : mark o ≠ some b :: o' := by
  rcases mark_cases o with h | ⟨rest, rfl, h⟩
  · rw [h]
    exact fun h => nomatch h
  · rw [h]
    exact fun h => nomatch h

theorem push_eq_some_cons {b c : UInt8} {o o' : Outline} (h : push b o = some c :: o') :
    b = c ∧ b < 0x80 ∧ o = o' := by
  by_cases hb : b < 0x80
  · rw [push_ascii hb] at h
    cases h
    exact ⟨rfl, hb, rfl⟩
  · rw [push_other hb] at h
    exact absurd h (mark_ne_some_cons c o o')

theorem suffix_push (b : UInt8) (o : Outline) : o <:+ push b o := by
  by_cases hb : b < 0x80
  · rw [push_ascii hb]
    exact List.suffix_cons (some b) o
  · rw [push_other hb]
    rcases mark_cases o with h | ⟨_, _, h⟩
    · rw [h]
      exact List.suffix_cons none o
    · exact ⟨[], h.symm⟩

/-- A run of bytes outside ASCII is one mark, however long it is. -/
theorem foldr_push_run {run : List UInt8} (hne : run ≠ []) (hrun : ∀ b ∈ run, 0x80 ≤ b.toNat)
    (o : Outline) : run.foldr push o = mark o := by
  induction run with
  | nil => exact absurd rfl hne
  | cons b run ih =>
    obtain ⟨hb, hrest⟩ := List.forall_mem_cons.mp hrun
    have hother : ¬ b < 0x80 := UInt8.not_lt.mpr (UInt8.le_iff_toNat_le.mpr hb)
    rw [List.foldr_cons, push_other hother]
    cases run with
    | nil => rfl
    | cons c run => rw [ih (List.cons_ne_nil c run) hrest, mark_mark]

end Outline

def outline (bytes : List UInt8) : Outline := bytes.foldr Outline.push []

theorem outline_cons (b : UInt8) (bytes : List UInt8) :
    outline (b :: bytes) = Outline.push b (outline bytes) := rfl

theorem outline_append (front back : List UInt8) :
    outline (front ++ back) = front.foldr Outline.push (outline back) := List.foldr_append

/-! ### Texts -/

theorem outline_encode_ascii {c : Char} (hc : c.toNat < 0x80) (cs : List Char) :
    outline (encode (c :: cs)) = some (UInt8.ofNat c.toNat) :: outline (encode cs) := by
  have hb : UInt8.ofNat c.toNat < 0x80 := by
    rw [UInt8.lt_iff_toNat_lt, toNat_byte (by omega)]
    exact hc
  rw [encode_cons, encodeChar_one hc, List.singleton_append, outline_cons, Outline.push_ascii hb]

theorem not_ascii_of_mem_encodeChar {c : Char} (hc : ¬ c.toNat < 0x80) {b : UInt8}
    (hb : b ∈ String.utf8EncodeChar c) : 0x80 ≤ b.toNat := by
  rcases of_mem_encodeChar hb with h | h
  · omega
  · exact h

theorem outline_encode_other {c : Char} (hc : ¬ c.toNat < 0x80) (cs : List Char) :
    outline (encode (c :: cs)) = Outline.mark (outline (encode cs)) := by
  rw [encode_cons, outline_append]
  exact Outline.foldr_push_run String.utf8EncodeChar_ne_nil
    (fun b hb => not_ascii_of_mem_encodeChar hc hb) _

/-! ### Parts -/

theorem outline_append_ascii {part : List UInt8} (h : ∀ b ∈ part, b < 0x80)
    (rest : List UInt8) : outline (part ++ rest) = part.map some ++ outline rest := by
  induction part with
  | nil => rfl
  | cons b part ih =>
    obtain ⟨hb, hpart⟩ := List.forall_mem_cons.mp h
    rw [List.cons_append, outline_cons, Outline.push_ascii hb, ih hpart]
    rfl

/-- What is ASCII in a byte string is in its outline. -/
theorem infix_outline_of_isInfix {part bytes : List UInt8} (h : ∀ b ∈ part, b < 0x80)
    (hm : part <:+: bytes) : part.map some <:+: outline bytes := by
  obtain ⟨front, back, rfl⟩ := hm
  rw [List.append_assoc]
  induction front with
  | nil =>
    rw [List.nil_append, outline_append_ascii h]
    exact ⟨[], outline back, rfl⟩
  | cons b front ih => exact ih.trans (Outline.suffix_push b _).isInfix

theorem prefix_of_outline {part cs : List Char} (h : ∀ c ∈ part, c.toNat < 0x80)
    (hm : (encode part).map some <+: outline (encode cs)) : part <+: cs := by
  induction part generalizing cs with
  | nil => exact List.nil_prefix
  | cons p part ih =>
    obtain ⟨hp, hpart⟩ := List.forall_mem_cons.mp h
    rw [encode_cons, encodeChar_one hp, List.singleton_append, List.map_cons] at hm
    cases cs with
    | nil => cases List.prefix_nil.mp hm
    | cons c cs =>
      by_cases hc : c.toNat < 0x80
      · rw [outline_encode_ascii hc] at hm
        obtain ⟨hbyte, hrest⟩ := List.cons_prefix_cons.mp hm
        have hsame : p.toNat = c.toNat := by
          rw [← toNat_byte (by omega : p.toNat < 256), ← toNat_byte (by omega : c.toNat < 256),
            Option.some.inj hbyte]
        exact List.cons_prefix_cons.mpr ⟨Char.toNat_inj.mp hsame, ih hpart hrest⟩
      · rw [outline_encode_other hc] at hm
        obtain ⟨rest, hrest⟩ := hm
        exact absurd hrest.symm (Outline.mark_ne_some_cons _ _ _)

/-- What is ASCII in the outline of a text is in the text. -/
theorem infix_of_outline {part cs : List Char} (h : ∀ c ∈ part, c.toNat < 0x80)
    (hm : (encode part).map some <:+: outline (encode cs)) : part <:+: cs := by
  induction cs with
  | nil =>
    have hnil : (encode part).map some = [] := List.infix_nil.mp hm
    exact (prefix_of_outline h (hnil ▸ List.nil_prefix)).isInfix
  | cons c cs ih =>
    -- It stands in front, or else in the outline of what is left.
    have hcases : (encode part).map some <+: outline (encode (c :: cs)) ∨
        (encode part).map some <:+: outline (encode cs) := by
      by_cases hc : c.toNat < 0x80
      · rw [outline_encode_ascii hc] at hm ⊢
        exact List.infix_cons_iff.mp hm
      · rw [outline_encode_other hc] at hm ⊢
        rcases Outline.mark_cases (outline (encode cs)) with hmark | ⟨_, _, hmark⟩
        · rw [hmark] at hm ⊢
          exact List.infix_cons_iff.mp hm
        · exact .inr (hmark ▸ hm)
    rcases hcases with hfront | hlater
    · exact (prefix_of_outline h hfront).isInfix
    · exact (ih hlater).trans (List.suffix_cons c cs).isInfix

theorem ascii_encode {part : List Char} (h : ∀ c ∈ part, c.toNat < 0x80) :
    ∀ b ∈ encode part, b < 0x80 := by
  intro b hb
  obtain ⟨c, hc, hb⟩ := List.mem_flatMap.mp hb
  have hlow := h c hc
  rw [encodeChar_one hlow, List.mem_singleton] at hb
  rw [hb, UInt8.lt_iff_toNat_lt, toNat_byte (by omega)]
  exact hlow

theorem infix_outline_iff {part cs : List Char} (h : ∀ c ∈ part, c.toNat < 0x80) :
    (encode part).map some <:+: outline (encode cs) ↔ part <:+: cs := by
  refine ⟨infix_of_outline h, ?_⟩
  rintro ⟨front, back, rfl⟩
  rw [encode_append, encode_append]
  exact infix_outline_of_isInfix (ascii_encode h) ⟨_, _, rfl⟩

/-- ASCII in the bytes of a text is in the text: it is no part of another character. -/
theorem infix_of_encode {part cs : List Char} (h : ∀ c ∈ part, c.toNat < 0x80)
    (hm : encode part <:+: encode cs) : part <:+: cs :=
  infix_of_outline h (infix_outline_of_isInfix (ascii_encode h) hm)

/-! ### Malformed pieces -/

/-- The bytes of a malformed piece are outside ASCII: a byte of ASCII is a character by itself,
and in no longer character. -/
theorem not_ascii_of_malformed {bad rest : List UInt8} (h : Malformed bad rest) :
    ∀ b ∈ bad, 0x80 ≤ b.toNat := by
  intro b hb
  by_contra hlt
  have hascii : String.utf8EncodeChar (Char.ofNat b.toNat) = [b] := by
    have hv : (Char.ofNat b.toNat).toNat = b.toNat := toNat_charOfNat (.inl (by omega))
    rw [encodeChar_one (by omega), hv, UInt8.ofNat_toNat]
  by_cases hlen : 1 < bad.length
  · obtain ⟨c, hc⟩ := h.begins hlen
    have hvalue : b.toNat = c.toNat := by
      rcases of_mem_encodeChar (hc.subset hb) with h | h
      · exact h
      · omega
    have hle := hc.length_le
    rw [encodeChar_one (by omega), List.length_singleton] at hle
    omega
  · have hpos := List.length_pos_iff.mpr h.ne_nil
    obtain ⟨x, rfl⟩ := List.length_eq_one_iff.mp (by omega : bad.length = 1)
    rw [List.mem_singleton.mp hb] at hascii
    exact h.not_character _ hascii.symm

theorem outline_malformed_append {bad rest : List UInt8} (h : Malformed bad rest) :
    outline (bad ++ rest) = Outline.mark (outline rest) := by
  rw [outline_append]
  exact Outline.foldr_push_run h.ne_nil (not_ascii_of_malformed h) _

/-- What is malformed is replaced by a character outside ASCII, and nothing else changes. -/
theorem outline_encode_decodeLossy (bytes : List UInt8) :
    outline (encode (decodeLossy bytes)) = outline bytes := by
  obtain ⟨cs, hcs⟩ := exists_decodes bytes
  rw [← hcs.eq_decodeLossy]
  induction hcs with
  | nil => rfl
  | character _ ih => rw [encode_cons, outline_append, outline_append, ih]
  | malformed hbad _ ih =>
    rw [outline_malformed_append hbad, outline_encode_other (by decide), ih]

end ChatRelay.Utf8
