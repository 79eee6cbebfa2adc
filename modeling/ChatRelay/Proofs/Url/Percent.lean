import ChatRelay.Proofs.Utf8.Character
import ChatRelay.Url.Percent

/-!
Percent encoding is done once: escapes are written with characters that no set encodes, and so
nothing in an encoded text is left to encode.
-/

namespace ChatRelay.Url

/-- A class without the characters that escapes are written with. -/
structure Stable (set : EncodeSet) : Prop where
  percent : set '%' = false
  digit : ∀ n < 16, set (upperHex n) = false

theorem stable_pathSet : Stable pathSet := ⟨by decide, by decide⟩

theorem stable_userSet : Stable userSet := ⟨by decide, by decide⟩

theorem stable_specialQuerySet : Stable specialQuerySet := ⟨by decide, by decide⟩

theorem forall_percentByte {set : EncodeSet} (hs : Stable set) (b : UInt8) :
    ∀ c ∈ percentByte b, set c = false := by
  have hb := b.toNat_lt
  intro c hc
  simp only [percentByte, List.mem_cons, List.not_mem_nil, or_false] at hc
  rcases hc with rfl | rfl | rfl
  · exact hs.percent
  · exact hs.digit _ (by omega)
  · exact hs.digit _ (by omega)

/-- What holds of the characters that are kept, and of escapes, holds of an encoded text. -/
theorem forall_percentEncode {set p : EncodeSet} (hp : Stable p) {cs : List Char}
    (h : ∀ c ∈ cs, set c = false → p c = false) : ∀ c ∈ percentEncode set cs, p c = false := by
  intro c hc
  obtain ⟨d, hd, hc⟩ := List.mem_flatMap.mp hc
  by_cases hset : set d = true
  · rw [if_pos hset] at hc
    obtain ⟨b, -, hc⟩ := List.mem_flatMap.mp hc
    exact forall_percentByte hp b c hc
  · rw [if_neg hset] at hc
    rw [List.mem_singleton.mp hc]
    exact h d hd (Bool.eq_false_iff.mpr hset)

theorem kept_percentEncode {set : EncodeSet} (hs : Stable set) (cs : List Char) :
    ∀ c ∈ percentEncode set cs, set c = false :=
  forall_percentEncode hs fun _ _ h => h

theorem percentEncode_eq_self {set : EncodeSet} {cs : List Char}
    (h : ∀ c ∈ cs, set c = false) : percentEncode set cs = cs := by
  induction cs with
  | nil => rfl
  | cons c cs ih =>
    obtain ⟨hc, hcs⟩ := List.forall_mem_cons.mp h
    have hkept := ih hcs
    simp only [percentEncode] at hkept ⊢
    rw [List.flatMap_cons, hkept, hc, if_neg Bool.false_ne_true, List.singleton_append]

theorem length_le_length_percentEncode (set : EncodeSet) (cs : List Char) :
    cs.length ≤ (percentEncode set cs).length := by
  induction cs with
  | nil => exact Nat.zero_le _
  | cons c cs ih =>
    have hone : 1 ≤ (if set c then (String.utf8EncodeChar c).flatMap percentByte
        else [c]).length := by
      split
      · obtain ⟨b, bytes, hcons⟩ :=
          List.exists_cons_of_ne_nil (String.utf8EncodeChar_ne_nil (c := c))
        rw [hcons, List.flatMap_cons, List.length_append, percentByte]
        simp only [List.length_cons]
        omega
      · exact Nat.le_refl 1
    rw [percentEncode] at ih ⊢
    rw [List.flatMap_cons, List.length_append, List.length_cons]
    omega

end ChatRelay.Url
