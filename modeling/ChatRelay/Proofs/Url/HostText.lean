import ChatRelay.Proofs.Text.Split
import ChatRelay.Proofs.Url.Authority

/-!
The characters of hosts as they are written. Whatever name or address a text is read as, the
host is written with nothing that ends an authority, and with no blanks and no controls.
-/

namespace ChatRelay.Url

/-- What cannot stand in an authority: controls and blanks, and what ends it. -/
def barred : EncodeSet := fun c => c.toNat ≤ 0x20 || endsAuthority .special c

theorem barred_eq_false_iff {c : Char} :
    barred c = false ↔ 0x20 < c.toNat ∧ endsAuthority .special c = false := by
  rw [barred, Bool.or_eq_false_iff, decide_eq_false_iff_not, Nat.not_le]

theorem barred_of_all {cs : List Char} (h : cs.all (!barred ·) = true) :
    ∀ c ∈ cs, barred c = false := by
  simpa using h

theorem unbroken_of_barred {cs : List Char} (h : ∀ c ∈ cs, barred c = false) : Unbroken cs :=
  fun c hc => (barred_eq_false_iff.mp (h c hc)).2

/-! ### Numbers -/

theorem exists_digitChar_of_mem_toDigits {b n : Nat} (hb : 1 < b) {c : Char}
    (h : c ∈ Nat.toDigits b n) : ∃ d < b, c = d.digitChar := by
  induction n using Nat.strongRecOn with
  | ind n ih =>
    rw [Nat.toDigits_eq_if hb] at h
    split at h
    · rename_i hn
      exact ⟨n, hn, List.mem_singleton.mp h⟩
    · rename_i hn
      rcases List.mem_append.mp h with h | h
      · exact ih (n / b) (Nat.div_lt_self (by omega) hb) h
      · exact ⟨n % b, Nat.mod_lt n (by omega), List.mem_singleton.mp h⟩

theorem barred_toDigits {b n : Nat} (hb : 1 < b) (hb' : b ≤ 16) :
    ∀ c ∈ Nat.toDigits b n, barred c = false := by
  have hdigit : ∀ d < 16, barred (Nat.digitChar d) = false := by decide
  intro c hc
  obtain ⟨d, hd, rfl⟩ := exists_digitChar_of_mem_toDigits hb hc
  exact hdigit d (by omega)

theorem barred_intercalate {sep : Char} (hsep : barred sep = false) {texts : List (List Char)}
    (h : ∀ text ∈ texts, ∀ c ∈ text, barred c = false) :
    ∀ c ∈ [sep].intercalate texts, barred c = false := by
  intro c hc
  rcases Text.of_mem_intercalate hc with hc | ⟨text, htext, hc⟩
  · rw [List.mem_singleton.mp hc]
    exact hsep
  · exact h text htext c hc

theorem barred_ipv4 (address : Nat) : ∀ c ∈ Ipv4.write address, barred c = false := by
  apply barred_intercalate (by decide)
  intro text htext
  obtain ⟨shift, -, rfl⟩ := List.mem_map.mp htext
  exact barred_toDigits (by omega) (by omega)

theorem barred_writePieces (pieces : List Nat) :
    ∀ c ∈ Ipv6.writePieces pieces, barred c = false := by
  apply barred_intercalate (by decide)
  intro text htext
  obtain ⟨piece, -, rfl⟩ := List.mem_map.mp htext
  exact barred_toDigits (by omega) (by omega)

theorem barred_ipv6 (pieces : List Nat) : ∀ c ∈ Ipv6.write pieces, barred c = false := by
  have hclose : ∀ c ∈ [']'], barred c = false := barred_of_all rfl
  have hgap : ∀ c ∈ [':', ':'], barred c = false := barred_of_all rfl
  simp only [Ipv6.write]
  split
  · exact List.forall_mem_cons.mpr ⟨by decide, List.forall_mem_append.mpr
      ⟨barred_writePieces _, hclose⟩⟩
  · refine List.forall_mem_cons.mpr ⟨by decide, List.forall_mem_append.mpr ⟨?_, hclose⟩⟩
    exact List.forall_mem_append.mpr ⟨List.forall_mem_append.mpr ⟨barred_writePieces _, hgap⟩,
      barred_writePieces _⟩

/-! ### Labels -/

namespace Punycode

theorem threshold_bounds (position bias : Nat) :
    1 ≤ threshold position bias ∧ threshold position bias ≤ 26 := by
  unfold threshold
  split
  · omega
  · split <;> omega

theorem exists_digit_of_mem_digits {fuel bias position q : Nat} {c : Char}
    (h : c ∈ digits fuel bias position q) : ∃ n < 36, c = digit n := by
  induction fuel generalizing position q with
  | zero => cases h
  | succ fuel ih =>
    obtain ⟨hlow, hhigh⟩ := threshold_bounds position bias
    simp only [digits] at h
    split at h
    · exact ⟨q, by omega, List.mem_singleton.mp h⟩
    · rcases List.mem_cons.mp h with rfl | h
      · refine ⟨_, ?_, rfl⟩
        -- The remainder is less than what the threshold leaves of the base.
        have hmod := Nat.mod_lt (q - threshold position bias)
          (by omega : 0 < 36 - threshold position bias)
        omega
      · exact ih h

def Writing.AllDigits (w : Writing) : Prop := ∀ c ∈ w.output, ∃ n < 36, c = digit n

theorem Writing.allDigits_pass {w : Writing} (hw : w.AllDigits) (basic next n : Nat) :
    (w.pass basic next n).AllDigits := by
  rw [Writing.pass]
  split
  · exact hw
  · split
    · intro c hc
      exact (List.mem_append.mp hc).elim (hw c) exists_digit_of_mem_digits
    · exact hw

/-- Code points are written as the ASCII ones among them, a hyphen, and digits. -/
theorem of_mem_encode {ns : List Nat} {c : Char} (h : c ∈ encode ns) :
    (∃ n ∈ ns, n < 0x80 ∧ c = Char.ofNat n) ∨ c = '-' ∨ ∃ n < 36, c = digit n := by
  simp only [encode, List.mem_append] at h
  rcases h with (h | h) | h
  · obtain ⟨n, hn, rfl⟩ := List.mem_map.mp h
    obtain ⟨hmem, hlow⟩ := List.mem_filter.mp hn
    exact .inl ⟨n, hmem, of_decide_eq_true hlow, rfl⟩
  · split at h
    · cases h
    · exact .inr (.inl (List.mem_singleton.mp h))
  · right
    right
    refine List.foldlRecOn (motive := fun s : Writing × Nat => s.1.AllDigits) _ _ ?_ ?_ c h
    · exact fun c hc => nomatch hc
    · intro s hs next _
      exact List.foldlRecOn (motive := Writing.AllDigits) ns _ hs
        fun w hw n _ => w.allDigits_pass hw _ next n

end Punycode

/-! ### Names -/

theorem barred_ascii : ∀ n < 0x80, DomainName.isForbidden n = false →
    barred (Char.ofNat n) = false := by decide

theorem barred_label {ns ns' : List Nat} {text : List Char}
    (hns : ∀ n ∈ ns, DomainName.isForbidden n = false)
    (h : DomainName.label? ns = some (ns', text)) : ∀ c ∈ text, barred c = false := by
  have hascii (hlow : ∀ n ∈ ns, n < 0x80) : ∀ c ∈ ns.map Char.ofNat, barred c = false := by
    intro c hc
    obtain ⟨n, hn, rfl⟩ := List.mem_map.mp hc
    exact barred_ascii n (hlow n hn) (hns n hn)
  unfold DomainName.label? at h
  split at h
  · -- A label that is written in Punycode already is ASCII and stays as it is.
    split at h
    · cases h
    · rename_i hlow
      obtain ⟨decoded, -, h⟩ := Option.bind_eq_some_iff.mp h
      split at h
      · cases h
      · cases h
        exact hascii (by simpa using hlow)
  · split at h
    · cases h
    · split at h
      · rename_i hlow
        cases h
        exact hascii (by simpa using hlow)
      · cases h
        have hmark : ∀ c ∈ ['x', 'n', '-', '-'], barred c = false := barred_of_all rfl
        have hdigit : ∀ n < 36, barred (Punycode.digit n) = false := by decide
        refine List.forall_mem_append.mpr ⟨hmark, fun c hc => ?_⟩
        rcases Punycode.of_mem_encode hc with ⟨n, hn, hlow, rfl⟩ | rfl | ⟨n, hn, rfl⟩
        · exact barred_ascii n hlow (hns n hn)
        · decide
        · exact hdigit n hn

theorem barred_toAscii? {bytes : List UInt8} {name : List Char}
    (h : DomainName.toAscii? bytes = some name) : ∀ c ∈ name, barred c = false := by
  obtain ⟨cs, -, h⟩ := Option.bind_eq_some_iff.mp h
  obtain ⟨ns, -, h⟩ := Option.bind_eq_some_iff.mp h
  dsimp only at h
  split at h
  · cases h
  · rename_i hforbidden
    obtain ⟨labels, hlabels, h⟩ := Option.bind_eq_some_iff.mp h
    split at h
    · cases h
    · cases h
      apply barred_intercalate (by decide)
      intro text htext
      obtain ⟨⟨kept, text⟩, hlabel, rfl⟩ := List.mem_map.mp htext
      obtain ⟨piece, hpiece, hread⟩ := exists_of_mem_mapM hlabels hlabel
      rw [List.splitOn_eq_splitOnP] at hpiece
      refine barred_label (fun n hn => ?_) hread
      have hmem := (Text.of_mem_splitOnP piece hpiece n hn).2
      exact Bool.eq_false_iff.mpr fun hn => hforbidden (List.any_eq_true.mpr ⟨n, hmem, hn⟩)

/-- A host that is read has a text, and nothing in it is barred. -/
theorem Host.write_of_parse {cs : List Char} {host : Host} (h : Host.parse cs = .ok host) :
    host.write ≠ [] ∧ ∀ c ∈ host.write, barred c = false := by
  have hipv6 {pieces : List Nat} : (Host.ipv6 pieces).write ≠ [] ∧
      ∀ c ∈ (Host.ipv6 pieces).write, barred c = false :=
    ⟨List.cons_ne_nil _ _, barred_ipv6 pieces⟩
  rw [Host.parse] at h
  cases hbrackets : Host.bracketed? cs with
  | some result =>
    -- Between brackets there is an IPv6 address or nothing.
    rw [hbrackets] at h
    obtain rfl : result = .ok host := h
    unfold Host.bracketed? at hbrackets
    split at hbrackets
    · have hresult := Option.some.inj hbrackets
      split at hresult
      · split at hresult
        · cases hresult
          exact hipv6
        · cases hresult
      · cases hresult
    · cases hbrackets
  | none =>
    rw [hbrackets] at h
    dsimp only [Option.getD_none] at h
    split at h
    · cases h
    · rename_i name hname
      split at h
      · cases h
      · rename_i hne
        split at h
        · split at h
          · rename_i address _
            cases h
            refine ⟨?_, barred_ipv4 address⟩
            simp [Host.write, Ipv4.write, List.intercalate_cons_cons]
          · cases h
        · cases h
          exact ⟨fun h => hne (by rw [Host.write] at h; rw [h]; rfl), barred_toAscii? hname⟩

end ChatRelay.Url
