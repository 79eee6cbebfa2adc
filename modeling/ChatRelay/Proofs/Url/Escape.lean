import ChatRelay.Proofs.Url.Host
import ChatRelay.Proofs.Utf8.Outline
import Mathlib.Logic.Function.Iterate

/-!
Percent decoding and outlines. A percent sign and two digits are bytes of ASCII, and so the
outline of decoded bytes is settled by the outline of the bytes; decoding again and again comes
to rest as soon as the outline does.
-/

namespace ChatRelay.Url

open Utf8 (Outline outline)

/-! ### Decoding, one byte or one escape at a time -/

def BeginsEscape (bytes : List UInt8) : Prop :=
  ∃ h l x y rest, bytes = 0x25 :: h :: l :: rest ∧ hexValue? h = some x ∧ hexValue? l = some y

theorem percentDecode_cons {b : UInt8} {rest : List UInt8} (hn : ¬ BeginsEscape (b :: rest)) :
    percentDecode (b :: rest) = b :: percentDecode rest := by
  match rest with
  | [] => rfl
  | [_] => rfl
  | h :: l :: rest =>
    apply percentDecode_plain
    rintro rfl x y hh hl
    exact hn ⟨h, l, x, y, rest, rfl, hh, hl⟩

theorem percentDecode_cons_of_ne {b : UInt8} (hb : b ≠ 0x25) (rest : List UInt8) :
    percentDecode (b :: rest) = b :: percentDecode rest := by
  apply percentDecode_cons
  rintro ⟨h, l, x, y, rest, hbytes, -⟩
  exact hb (List.cons.inj hbytes).1

/-- Bytes without a percent sign stand for themselves, whatever follows them. -/
theorem percentDecode_append {front : List UInt8} (hf : 0x25 ∉ front) (back : List UInt8) :
    percentDecode (front ++ back) = front ++ percentDecode back := by
  induction front with
  | nil => rfl
  | cons b front ih =>
    rw [List.mem_cons, not_or] at hf
    rw [List.cons_append, percentDecode_cons_of_ne (Ne.symm hf.1), ih hf.2, List.cons_append]

theorem iterate_percentDecode_append {front : List UInt8} (hf : 0x25 ∉ front)
    (back : List UInt8) (n : Nat) :
    percentDecode^[n] (front ++ back) = front ++ percentDecode^[n] back := by
  have hcomm : Function.Semiconj (front ++ ·) percentDecode percentDecode := fun back =>
    (percentDecode_append hf back).symm
  exact (Function.Semiconj.iterate_right hcomm n back).symm

/-- Bytes are taken off the front by the escape or by the byte. -/
theorem escape_induction {motive : List UInt8 → Prop} (nil : motive [])
    (escape : ∀ {h l x y : UInt8} {rest : List UInt8}, hexValue? h = some x →
      hexValue? l = some y → motive rest → motive (0x25 :: h :: l :: rest))
    (plain : ∀ {b : UInt8} {rest : List UInt8}, ¬ BeginsEscape (b :: rest) → motive rest →
      motive (b :: rest)) (bytes : List UInt8) : motive bytes := by
  induction hn : bytes.length using Nat.strongRecOn generalizing bytes with
  | ind n ih =>
    cases bytes with
    | nil => exact nil
    | cons b rest =>
      rw [List.length_cons] at hn
      by_cases hb : BeginsEscape (b :: rest)
      · obtain ⟨h, l, x, y, later, hbytes, hh, hl⟩ := hb
        obtain ⟨rfl, rfl⟩ := List.cons.inj hbytes
        simp only [List.length_cons] at hn
        exact escape hh hl (ih later.length (by omega) later rfl)
      · exact plain hb (ih rest.length (by omega) rest rfl)

/-! ### Decoding of outlines -/

def decodeOutline : Outline → Outline
  | some b :: some h :: some l :: rest =>
    if b = 0x25 then
      match hexValue? h, hexValue? l with
      | some x, some y => Outline.push (x * 16 + y) (decodeOutline rest)
      | _, _ => some b :: decodeOutline (some h :: some l :: rest)
    else some b :: decodeOutline (some h :: some l :: rest)
  | some b :: rest => some b :: decodeOutline rest
  | none :: rest => Outline.mark (decodeOutline rest)
  | [] => []

theorem ascii_of_hexValue? {b x : UInt8} (h : hexValue? b = some x) : b < 0x80 := by
  simp only [hexValue?, Bool.and_eq_true, decide_eq_true_eq, UInt8.le_iff_toNat_le] at h
  rw [UInt8.lt_iff_toNat_lt]
  simp only [UInt8.reduceToNat] at h ⊢
  split at h
  · omega
  · split at h
    · omega
    · split at h
      · omega
      · cases h

theorem decodeOutline_escape {h l x y : UInt8} (hh : hexValue? h = some x)
    (hl : hexValue? l = some y) (o : Outline) :
    decodeOutline (some 0x25 :: some h :: some l :: o) =
      Outline.push (x * 16 + y) (decodeOutline o) := by
  rw [decodeOutline, if_pos rfl]
  simp only [hh, hl]

theorem decodeOutline_cons {b : UInt8} {o : Outline}
    (hn : ∀ h l rest, b = 0x25 → o = some h :: some l :: rest →
      ∀ x y, hexValue? h = some x → hexValue? l = some y → False) :
    decodeOutline (some b :: o) = some b :: decodeOutline o := by
  match o with
  | [] => rfl
  | none :: _ => rfl
  | [some _] => rfl
  | some _ :: none :: _ => rfl
  | some h :: some l :: rest =>
    rw [decodeOutline]
    split
    · rename_i hb
      split
      · rename_i x y hh hl
        exact absurd (hn h l rest hb rfl x y hh hl) id
      · rfl
    · rfl

theorem decodeOutline_mark (o : Outline) :
    decodeOutline (Outline.mark o) = Outline.mark (decodeOutline o) := by
  rcases Outline.mark_cases o with h | ⟨rest, rfl, h⟩
  · rw [h, decodeOutline]
  · rw [h, decodeOutline, Outline.mark_mark]

theorem exists_of_outline_eq {bytes : List UInt8} {b : UInt8} {o : Outline}
    (h : outline bytes = some b :: o) : ∃ rest, bytes = b :: rest ∧ outline rest = o := by
  cases bytes with
  | nil => cases h
  | cons c rest =>
    rw [Utf8.outline_cons] at h
    obtain ⟨rfl, -, ho⟩ := Outline.push_eq_some_cons h
    exact ⟨rest, rfl, ho⟩

/-- An escape is all ASCII, so that the outline of what is decoded depends on the outline alone. -/
theorem outline_percentDecode (bytes : List UInt8) :
    outline (percentDecode bytes) = decodeOutline (outline bytes) := by
  induction bytes using escape_induction with
  | nil => rfl
  | @escape h l x y rest hh hl ih =>
    have hp : (0x25 : UInt8) < 0x80 := by decide
    simp only [percentDecode_escape hh hl, Utf8.outline_cons, ih, Outline.push_ascii hp,
      Outline.push_ascii (ascii_of_hexValue? hh), Outline.push_ascii (ascii_of_hexValue? hl),
      decodeOutline_escape hh hl]
  | @plain b rest hn ih =>
    rw [percentDecode_cons hn, Utf8.outline_cons, Utf8.outline_cons, ih]
    by_cases hb : b < 0x80
    · rw [Outline.push_ascii hb, Outline.push_ascii hb, decodeOutline_cons]
      rintro h l later rfl ho x y hh hl
      -- An escape that shows in the outline is one of the bytes.
      obtain ⟨digits, rfl, hdigits⟩ := exists_of_outline_eq ho
      obtain ⟨rest, rfl, -⟩ := exists_of_outline_eq hdigits
      exact hn ⟨h, l, x, y, rest, rfl, hh, hl⟩
    · rw [Outline.push_other hb, Outline.push_other hb, decodeOutline_mark]

theorem outline_iterate_percentDecode (n : Nat) (bytes : List UInt8) :
    outline (percentDecode^[n] bytes) = decodeOutline^[n] (outline bytes) :=
  Function.Semiconj.iterate_right outline_percentDecode n bytes

end ChatRelay.Url
