import ChatRelay.Proofs.Success
import ChatRelay.Proofs.Utf8.Decoder
import ChatRelay.Url.Host

/-!
A control character or a space in the name of a host is never lost: decoding, mapping and
composition all leave it where it is, and so the name has no ASCII form. A host with such a
character behind it is therefore no host.
-/

namespace ChatRelay.Unicode

theorem domainStatus_plain {n : Nat} (h : n < firstMapped) : domainStatus n = .kept := by
  rw [domainStatus, if_pos h]

theorem takeApart_plain (layers : Nat) {n : Nat} (h : n < firstBase) :
    takeApart layers n = [n] := by
  have hn : n < firstComposed := Nat.lt_of_lt_of_le h (by decide)
  cases layers with
  | zero => rfl
  | succ layers => simp only [takeApart, parts?, if_pos hn]

theorem mem_insertMark {m n : Nat} {marks : List Nat} :
    m ∈ insertMark n marks ↔ m = n ∨ m ∈ marks := by
  induction marks with
  | nil => simp [insertMark]
  | cons k marks ih =>
    rw [insertMark]
    split
    · rw [List.mem_cons, ih, List.mem_cons, or_left_comm]
    · rw [List.mem_cons]

/-- Marks are moved before other marks, but none is lost of what is done or to do. -/
theorem mem_foldl_reorder {m : Nat} {done rest : List Nat} (h : m ∈ done ∨ m ∈ rest) :
    m ∈ rest.foldl (fun done n =>
      if combiningClass n = 0 then n :: done else insertMark n done) done := by
  induction rest generalizing done with
  | nil => exact h.resolve_right List.not_mem_nil
  | cons n rest ih =>
    apply ih
    dsimp only
    rw [List.mem_cons] at h
    split
    · rw [List.mem_cons]
      tauto
    · rw [mem_insertMark]
      tauto

theorem mem_reorder {m : Nat} {ns : List Nat} (h : m ∈ ns) : m ∈ reorder ns :=
  List.mem_reverse.mpr (mem_foldl_reorder (.inr h))

theorem Composing.mem_all {s : Composing} {m : Nat} :
    m ∈ s.all ↔ m ∈ s.before ∨ s.starter = some m ∨ m ∈ s.after := by
  simp only [Composing.all, List.mem_append, Option.mem_toList, List.mem_reverse, or_assoc]

theorem compose?_bounds {a b whole : Nat} (h : compose? a b = some whole) :
    firstBase ≤ a ∧ firstBase ≤ b := by
  have hmark : firstBase < firstMark := by decide
  by_cases hp : a < firstBase ∨ b < firstMark
  · rw [compose?, if_pos hp] at h
    cases h
  · omega

/-- Characters before the first that is composed with a mark are neither lost nor joined. -/
theorem Composing.mem_step {s : Composing} {m n : Nat} (hm : m < firstBase)
    (h : m ∈ s.all ∨ m = n) : m ∈ (s.step n).all := by
  obtain ⟨before, starter, after⟩ := s
  cases starter with
  | none =>
    simp only [Composing.step]
    split
    · simpa [Composing.mem_all, eq_comm] using h
    · simp only [Composing.mem_all, List.mem_append, List.mem_singleton] at h ⊢
      tauto
  | some starter =>
    simp only [Composing.step]
    split
    · rename_i whole hwhole
      -- Neither of two characters that join is one of those in question.
      have hbounds := compose?_bounds (Option.ite_none_left_eq_some.mp hwhole).2
      simp only [Composing.mem_all, Option.some.injEq] at h ⊢
      rcases h with (h | h | h) | h
      · exact .inl h
      · omega
      · exact .inr (.inr h)
      · omega
    · split
      · simpa [Composing.mem_all, eq_comm] using h
      · simp only [Composing.mem_all, List.mem_cons] at h ⊢
        tauto

theorem Composing.mem_foldl_step {s : Composing} {m : Nat} {rest : List Nat} (hm : m < firstBase)
    (h : m ∈ s.all ∨ m ∈ rest) : m ∈ (rest.foldl Composing.step s).all := by
  -- The induction is on the characters to come; what has been composed so far is any state.
  induction rest generalizing s with
  | nil => exact h.resolve_right List.not_mem_nil
  | cons n rest ih =>
    apply ih
    rw [List.mem_cons] at h
    rcases h with h | rfl | h
    · exact .inl (Composing.mem_step hm (.inl h))
    · exact .inl (Composing.mem_step hm (.inr rfl))
    · exact .inr h

theorem mem_composed {m : Nat} {ns : List Nat} (hm : m < firstBase) (h : m ∈ ns) :
    m ∈ composed ns := by
  have hapart : m ∈ ns.flatMap (takeApart 4) :=
    List.mem_flatMap.mpr ⟨m, h, by rw [takeApart_plain 4 hm]; exact List.mem_singleton_self m⟩
  exact Composing.mem_foldl_step hm (.inr (mem_reorder hapart))

end ChatRelay.Unicode

namespace ChatRelay.Url

/-! ### Decoding -/

theorem percentDecode_escape {h l x y : UInt8} (hh : hexValue? h = some x)
    (hl : hexValue? l = some y) (rest : List UInt8) :
    percentDecode (0x25 :: h :: l :: rest) = (x * 16 + y) :: percentDecode rest := by
  rw [percentDecode, if_pos rfl]
  simp only [hh, hl]

theorem percentDecode_plain {b h l : UInt8}
    (hn : b = 0x25 → ∀ x y, hexValue? h = some x → hexValue? l = some y → False)
    (rest : List UInt8) :
    percentDecode (b :: h :: l :: rest) = b :: percentDecode (h :: l :: rest) := by
  rw [percentDecode]
  split
  · rename_i hb
    split
    · rename_i x y hh hl
      exact absurd (hn hb x y hh hl) id
    · rfl
  · rfl

/-- Two texts with a byte between them that is no digit of an escape are decoded apart. -/
theorem percentDecode_append_cons {b : UInt8} (hb : hexValue? b = none)
    (front back : List UInt8) :
    percentDecode (front ++ b :: back) = percentDecode front ++ percentDecode (b :: back) := by
  have hfirst (a : UInt8) : percentDecode (a :: b :: back) = a :: percentDecode (b :: back) := by
    cases back with
    | nil => rfl
    | cons c back =>
      apply percentDecode_plain
      intro _ x y hx
      cases hb.symm.trans hx
  -- The byte can only matter to the two bytes before it, which are read at the end.
  induction front using percentDecode.induct with
  | case1 h l rest x y hl hh ih =>
    simp only [List.cons_append, percentDecode_escape hh hl, ih]
  | case2 h l rest hn ih =>
    simp only [List.cons_append] at ih ⊢
    rw [percentDecode_plain (fun _ => hn), percentDecode_plain (fun _ => hn), ih, List.cons_append]
  | case3 first h l rest hne ih =>
    have hn : first = 0x25 → ∀ x y, hexValue? h = some x → hexValue? l = some y → False :=
      fun h => absurd h hne
    simp only [List.cons_append] at ih ⊢
    rw [percentDecode_plain hn, percentDecode_plain hn, ih, List.cons_append]
  | case4 front hshort =>
    -- At most two bytes are left, which with the one behind them are no escape.
    match front with
    | [] => rfl
    | [first] => exact hfirst first
    | [first, second] =>
      have hn : first = 0x25 → ∀ x y, hexValue? second = some x → hexValue? b = some y → False := by
        intro _ x y _ hy
        cases hb.symm.trans hy
      exact (percentDecode_plain hn back).trans (congrArg (first :: ·) (hfirst second))
    | first :: second :: third :: rest => exact absurd rfl (hshort first second third rest)

theorem char_mem_of_decode? {bytes : List UInt8} {b : UInt8} (hb : b.toNat < 0x80)
    {cs : List Char} (h : Utf8.decode? (bytes ++ [b]) = some cs) : Char.ofNat b.toNat ∈ cs := by
  have hstep := Utf8.step_ascii (Utf8.begun_run Utf8.begun_none bytes) hb
  have hpiece : some (Char.ofNat b.toNat) ∈ (Utf8.run none (bytes ++ [b])).1 := by
    rw [Utf8.run_append, Utf8.run_cons, hstep]
    simp only [Utf8.run, List.append_nil, List.mem_append, List.mem_singleton, or_true]
  simp only [Utf8.decode?] at h
  split at h
  · cases h
  · obtain ⟨c, hc, hid⟩ := exists_mem_of_mapM h hpiece
    rwa [Option.some.inj hid]

/-! ### Names -/

theorem mem_mapped? {n : Nat} {ns ms : List Nat} (hn : n < Unicode.firstMapped) (h : n ∈ ns)
    (hm : DomainName.mapped? ns = some ms) : n ∈ ms := by
  obtain ⟨parts, hparts, hflat⟩ := Option.bind_eq_some_iff.mp hm
  obtain ⟨part, hpart, hkept⟩ := exists_mem_of_mapM hparts h
  rw [Unicode.domainStatus_plain hn] at hkept
  rw [← Option.some.inj hflat, List.mem_flatten]
  exact ⟨part, hpart, Option.some.inj hkept ▸ List.mem_singleton_self n⟩

theorem toAscii?_append_last {b : UInt8} (hb : b.toNat ≤ 0x20) (bytes : List UInt8) :
    DomainName.toAscii? (bytes ++ [b]) = none := by
  rw [Option.eq_none_iff_forall_not_mem]
  intro name hname
  obtain ⟨cs, hcs, hname⟩ := Option.bind_eq_some_iff.mp hname
  obtain ⟨ns, hns, hname⟩ := Option.bind_eq_some_iff.mp hname
  -- The character comes through decoding, mapping and composition, and is then forbidden.
  have hc : Char.ofNat b.toNat ∈ cs := char_mem_of_decode? (by omega) hcs
  have hn : (Char.ofNat b.toNat).toNat ≤ 0x20 := by
    rwa [Utf8.toNat_charOfNat (by simp only [Nat.isValidChar]; omega)]
  have hmapped : (Char.ofNat b.toNat).toNat ∈ ns := by
    apply mem_mapped? ?_ (List.mem_map_of_mem hc) hns
    exact Nat.lt_of_le_of_lt hn (by decide)
  have hcomposed := Unicode.mem_composed (Nat.lt_of_le_of_lt hn (by decide)) hmapped
  have hforbidden : (Unicode.composed ns).any DomainName.isForbidden = true := by
    refine List.any_eq_true.mpr ⟨_, hcomposed, ?_⟩
    rw [DomainName.isForbidden, decide_eq_true hn]
    rfl
  simp only [hforbidden, if_true] at hname
  cases hname

theorem hexValue?_low : ∀ n ≤ 0x20, hexValue? (UInt8.ofNat n) = none := by decide

theorem bracketed?_append_last {c : Char} (hc : c.toNat ≤ 0x20) (cs : List Char) :
    Host.bracketed? (cs ++ [c]) = none ∨
      Host.bracketed? (cs ++ [c]) = some (.error .invalidIpv6) := by
  have hne (d : Char) (hd : 0x20 < d.toNat) : c ≠ d := by
    rintro rfl
    omega
  -- An opening bracket asks for a closing one at the end, where this character stands.
  match cs with
  | [] =>
    left
    simp [Host.bracketed?, hne '[' (by decide)]
  | d :: ds =>
    rw [List.cons_append]
    by_cases hd : d = '['
    · right
      simp [hd, Host.bracketed?, hne ']' (by decide)]
    · left
      simp [Host.bracketed?, hd]

/-- A host with a control character or a space behind it is none. -/
theorem Host.parse_append_last {c : Char} (hc : c.toNat ≤ 0x20) (cs : List Char) :
    ∃ fault, Host.parse (cs ++ [c]) = .error fault := by
  have hbytes : Utf8.encode (cs ++ [c]) = Utf8.encode cs ++ [UInt8.ofNat c.toNat] := by
    rw [Utf8.encode, List.flatMap_append, List.flatMap_singleton, Utf8.encodeChar_one (by omega)]
    rfl
  have hb : (UInt8.ofNat c.toNat).toNat = c.toNat := Utf8.toNat_byte (by omega)
  have hhex : hexValue? (UInt8.ofNat c.toNat) = none := hexValue?_low c.toNat hc
  have hascii : DomainName.toAscii? (percentDecode (Utf8.encode (cs ++ [c]))) = none := by
    rw [hbytes, percentDecode_append_cons hhex]
    exact toAscii?_append_last (by omega) _
  rcases bracketed?_append_last hc cs with h | h
  · exact ⟨.invalidDomain, by rw [Host.parse, h, hascii]; rfl⟩
  · exact ⟨.invalidIpv6, by rw [Host.parse, h]; rfl⟩

end ChatRelay.Url
