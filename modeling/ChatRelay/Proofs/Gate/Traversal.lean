import ChatRelay.Proofs.Gate.Allowlist
import ChatRelay.Proofs.Url.Escape

/-!
Decoding does not lead out of what is allowed. The gate looks for dot pairs in a few decodings
of the path as text; the backend may decode the bytes as often as it likes. Both have the same
outlines, and the gate lets nothing through whose outline still changes.
-/

namespace ChatRelay.Gate

open Utf8 (outline)

def dotPair : List UInt8 := [0x2E, 0x2E]

/-! ### Dot pairs in outlines -/

theorem hasDotPair_iff {cs : List Char} : hasDotPair cs = true ↔ ['.', '.'] <:+: cs := by
  induction cs with
  | nil => decide
  | cons a cs ih =>
    cases cs with
    | nil =>
      refine iff_of_false Bool.false_ne_true fun h => ?_
      have hlength := h.length_le
      simp at hlength
    | cons b cs =>
      rw [List.infix_cons_iff, ← ih, hasDotPair, Bool.or_eq_true, List.cons_prefix_cons,
        List.cons_prefix_cons]
      simp only [Bool.and_eq_true, beq_iff_eq, List.nil_prefix, and_true, @eq_comm _ '.']

theorem infix_outline_of_dotPair {bytes : List UInt8} (h : dotPair <:+: bytes) :
    dotPair.map some <:+: outline bytes :=
  Utf8.infix_outline_of_isInfix (by decide +kernel) h

/-- A dot pair in the outline of a text is one in the text. -/
theorem hasDotPair_of_outline {cs : List Char}
    (h : dotPair.map some <:+: outline (Utf8.encode cs)) : hasDotPair cs = true := by
  have hascii : ∀ c ∈ ['.', '.'], c.toNat < 0x80 :=
    List.forall_mem_cons.mpr ⟨by decide, List.forall_mem_singleton.mpr (by decide)⟩
  exact hasDotPair_iff.mpr (Utf8.infix_of_outline hascii h)

/-! ### All decodings of a text that shows nothing -/

theorem outline_decodePass (cs : List Char) :
    outline (Utf8.encode (decodePass cs)) = Url.decodeOutline (outline (Utf8.encode cs)) := by
  rw [decodePass, Utf8.outline_encode_decodeLossy, Url.outline_percentDecode]

theorem not_infix_iterate_of_hidesTraversalWithin {passes : Nat} {cs : List Char}
    (h : hidesTraversalWithin passes cs = false) (n : Nat) :
    ¬ dotPair.map some <:+: Url.decodeOutline^[n] (outline (Utf8.encode cs)) := by
  -- The induction is on the passes; a text that rests after a pass has an outline that rests.
  induction passes generalizing cs n with
  | zero => cases h
  | succ passes ih =>
    rw [hidesTraversalWithin] at h
    split at h
    · cases h
    · rename_i hpair
      have hnone : ¬ dotPair.map some <:+: outline (Utf8.encode cs) := fun hinfix =>
        hpair (hasDotPair_of_outline hinfix)
      split at h
      · rename_i hrest
        have hfixed := outline_decodePass cs
        rw [hrest] at hfixed
        rwa [Function.iterate_fixed hfixed.symm]
      · cases n with
        | zero => exact hnone
        | succ n =>
          rw [Function.iterate_succ_apply, ← outline_decodePass]
          exact ih h n

theorem not_dotPair_of_hidesTraversal {cs : List Char} (h : hidesTraversal cs = false) (n : Nat) :
    ¬ dotPair <:+: Url.percentDecode^[n] (Utf8.encode cs) := by
  intro hinfix
  have houtline := infix_outline_of_dotPair hinfix
  rw [Url.outline_iterate_percentDecode] at houtline
  exact not_infix_iterate_of_hidesTraversalWithin h n houtline

/-! ### Entries -/

theorem Allowlist.permits_eq_true_iff {a : Allowlist} {backendPath : List Char} :
    a.permits backendPath = true ↔
      ∃ entry ∈ a.entries, backendPath = entry ∨ entry ++ ['/'] <+: backendPath := by
  have hrest {rest : List Char} :
      (rest.isEmpty || rest.head? = some '/') = true ↔ rest = [] ∨ ['/'] <+: rest := by
    cases rest with
    | nil => simp
    | cons c rest => simp [List.cons_prefix_cons, eq_comm]
  rw [permits, List.any_eq_true]
  refine exists_congr fun entry => and_congr_right fun _ => ?_
  cases hsplit : entry.isPrefixOf? backendPath with
  | none =>
    have hno (rest : List Char) : backendPath ≠ entry ++ rest := by
      intro h
      rw [eq_comm, ← List.isPrefixOf?_eq_some_iff_append_eq, hsplit] at h
      cases h
    simp only [Bool.false_eq_true, false_iff, not_or]
    refine ⟨fun h => hno [] (by rw [h, List.append_nil]), ?_⟩
    rintro ⟨more, hmore⟩
    exact hno ('/' :: more) (by rw [← hmore, List.append_assoc, List.singleton_append])
  | some rest =>
    obtain rfl := List.isPrefixOf?_eq_some_iff_append_eq.mp hsplit
    simp only [hrest, List.append_right_eq_self, List.prefix_append_right_inj]

theorem percent_not_mem_encode {cs : List Char} (h : '%' ∉ cs) : 0x25 ∉ Utf8.encode cs := by
  intro hm
  obtain ⟨c, hc, hb⟩ := List.mem_flatMap.mp hm
  rcases Utf8.of_mem_encodeChar hb with hvalue | hhigh
  · have hpercent : '%' = c := Char.toNat_inj.mp hvalue
    exact h (hpercent ▸ hc)
  · exact absurd hhigh (by decide)

/-- Neither an entry without percent signs nor the slash behind it is changed by decoding. -/
theorem iterate_percentDecode_entry {entry backendPath : List Char} (plain : '%' ∉ entry)
    (h : backendPath = entry ∨ entry ++ ['/'] <+: backendPath) (n : Nat) :
    Url.percentDecode^[n] (Utf8.encode backendPath) = Utf8.encode entry ∨
      Utf8.encode (entry ++ ['/']) <+: Url.percentDecode^[n] (Utf8.encode backendPath) := by
  rcases h with rfl | ⟨later, rfl⟩
  · left
    have hnil : Url.percentDecode^[n] [] = [] := Function.iterate_fixed rfl n
    have hkept := Url.iterate_percentDecode_append (percent_not_mem_encode plain) [] n
    rwa [hnil, List.append_nil] at hkept
  · right
    have hslash : '%' ∉ entry ++ ['/'] := by simp [plain]
    rw [Utf8.encode_append (entry ++ ['/']),
      Url.iterate_percentDecode_append (percent_not_mem_encode hslash)]
    exact List.prefix_append _ _

/-- However often the path that is let through is decoded, it shows no dot pair, and it stays at
or under an entry, unless entries are themselves written with percent signs. -/
theorem Allowlist.decodings_allowed {a : Allowlist} (plain : ∀ entry ∈ a.entries, '%' ∉ entry)
    {path : List Char} {t : Target} (h : a.resolve path = .ok t) (n : Nat) :
    ¬ dotPair <:+: Url.percentDecode^[n] (Utf8.encode t.backendPath) ∧
      ∃ entry ∈ a.entries,
        Url.percentDecode^[n] (Utf8.encode t.backendPath) = Utf8.encode entry ∨
          Utf8.encode (entry ++ ['/']) <+: Url.percentDecode^[n] (Utf8.encode t.backendPath) := by
  obtain ⟨-, url, rest, -, -, htraversal, hpermits, rfl⟩ := resolve_eq_ok_iff.mp h
  obtain ⟨entry, hentry, hcase⟩ := permits_eq_true_iff.mp hpermits
  exact ⟨not_dotPair_of_hidesTraversal htraversal n, entry, hentry,
    iterate_percentDecode_entry (plain entry hentry) hcase n⟩

/-- A path with a slash encoded twice, a byte that is no text, and a dot encoded once. -/
def nestedTarget : Target :=
  ⟨"/api/chat/%252f%ff%2e".toList, "/chat/%252f%ff%2e".toList, none⟩

theorem decodings_nestedTarget :
    (∀ entry ∈ ["/call".toList, "/chat".toList], '%' ∉ entry) ∧
      Allowlist.resolve ⟨"/api".toList, ["/call".toList, "/chat".toList]⟩
        "/api/chat/%252f%ff%2e".toList = .ok nestedTarget ∧
      Url.percentDecode^[2] (Utf8.encode nestedTarget.backendPath) =
        Utf8.encode "/chat//".toList ++ [0xFF, 0x2E] ∧
      ¬ dotPair <:+: Url.percentDecode^[2] (Utf8.encode nestedTarget.backendPath) ∧
      ∃ entry ∈ ["/call".toList, "/chat".toList],
        Url.percentDecode^[2] (Utf8.encode nestedTarget.backendPath) = Utf8.encode entry ∨
          Utf8.encode (entry ++ ['/']) <+:
            Url.percentDecode^[2] (Utf8.encode nestedTarget.backendPath) := by
  have hplain : ∀ entry ∈ ["/call".toList, "/chat".toList], '%' ∉ entry := by decide
  have ht : Allowlist.resolve ⟨"/api".toList, ["/call".toList, "/chat".toList]⟩
      "/api/chat/%252f%ff%2e".toList = .ok nestedTarget := by decide +kernel
  exact ⟨hplain, ht, by decide +kernel, Allowlist.decodings_allowed hplain ht 2⟩

end ChatRelay.Gate
