import ChatRelay.Proofs.Url.HostText
import ChatRelay.Proofs.Url.Standard

/-!
The text of a special URL, read again. An authority that has been read is written without blanks
and without what ends an authority, so that in the text of a URL it ends where its path begins.
-/

namespace ChatRelay.Url

/-! ### Authorities as they are written -/

theorem barred_of_userSet {c : Char} (h : userSet c = false) : barred c = false := by
  have hpath : pathSet c = false ∧ c ≠ '/' ∧ c ≠ '\\' := by
    simp only [userSet, Bool.or_eq_false_iff, beq_eq_false_iff_ne] at h
    tauto
  obtain ⟨hlow, hhash, hmark⟩ := of_pathSet hpath.1
  refine barred_eq_false_iff.mpr ⟨hlow, ?_⟩
  simp [endsAuthority, isSlash, hpath.2.1, hpath.2.2, hhash, hmark]

/-- What is read as an authority is a host and a port, behind a user that is encoded. -/
theorem exists_readHostPort {scheme cs rest : List Char} {a : Authority}
    (hs : kindOf scheme = .special) (h : readAuthority scheme cs = .ok (a, rest)) :
    ∃ username password text, text <:+ cs ∧ (∀ c ∈ username, barred c = false) ∧
      (∀ word ∈ password, ∀ c ∈ word, barred c = false) ∧
      readHostPort scheme username password text = .ok (a, rest) := by
  have hname : ∀ c ∈ ([] : List Char), barred c = false := List.forall_mem_nil _
  have hnone : ∀ word ∈ (none : Option (List Char)), ∀ c ∈ word, barred c = false :=
    fun _ h => nomatch h
  have hencoded (word : List Char) : ∀ c ∈ percentEncode userSet word, barred c = false :=
    fun c hc => barred_of_userSet (kept_percentEncode stable_userSet word c hc)
  obtain ⟨whole, tail, rfl, hw, ht⟩ := exists_authority cs
  simp only [readAuthority, hs, span_authority hw ht] at h
  rcases exists_last '@' whole with hat | ⟨user, after, rfl, hat⟩
  · rw [splitLast_of_not_mem hat] at h
    exact ⟨[], none, _, List.suffix_rfl, hname, hnone, h⟩
  · have hsuffix : after ++ tail <:+ user ++ '@' :: after ++ tail :=
      ⟨user ++ ['@'], by simp⟩
    rw [splitLast_last hat] at h
    cases user with
    | nil =>
      dsimp only at h
      split at h
      · cases h
      · exact ⟨[], none, _, hsuffix, hname, hnone, h⟩
    | cons c user =>
      refine ⟨_, _, _, hsuffix, ?_, ?_, h⟩
      · rw [credentials]
        split <;> exact hencoded _
      · rw [credentials]
        split
        · exact hnone
        · exact hnone
        · intro word hword
          rw [← Option.mem_some_iff.mp hword]
          exact hencoded _

theorem readHostPort_eq_ok {scheme username text rest : List Char} {password : Option (List Char)}
    {a : Authority} (hs : kindOf scheme = .special)
    (h : readHostPort scheme username password text = .ok (a, rest)) :
    ∃ host port, Host.parse (splitHost .special false text).1 = .ok host ∧
      readPort scheme (some host) (splitHost .special false text).2 = .ok (port, rest) ∧
      a = ⟨username, password, some host, port⟩ := by
  rw [readHostPort_special hs] at h
  split at h
  · cases h
  · obtain ⟨host, hhost, h⟩ := exists_of_bind_eq_ok h
    obtain ⟨⟨port, last⟩, hport, h⟩ := exists_of_bind_eq_ok h
    cases h
    exact ⟨host, port, hhost, hport, rfl⟩

theorem barred_at {user : List Char} (h : ∀ c ∈ user, barred c = false) :
    ∀ c ∈ (if user.isEmpty then [] else user ++ ['@']), barred c = false := by
  split
  · exact List.forall_mem_nil _
  · exact List.forall_mem_append.mpr ⟨h, List.forall_mem_singleton.mpr (by decide)⟩

theorem barred_write {username : List Char} {password : Option (List Char)} {host : Host}
    {port : Option Nat} (hu : ∀ c ∈ username, barred c = false)
    (hp : ∀ word ∈ password, ∀ c ∈ word, barred c = false)
    (hh : ∀ c ∈ host.write, barred c = false) :
    ∀ c ∈ (⟨username, password, some host, port⟩ : Authority).write, barred c = false := by
  refine List.forall_mem_append.mpr ⟨List.forall_mem_append.mpr ⟨barred_at ?_, hh⟩, ?_⟩
  · cases password with
    | none => exact List.forall_mem_append.mpr ⟨hu, List.forall_mem_nil _⟩
    | some word =>
      exact List.forall_mem_append.mpr ⟨hu, List.forall_mem_cons.mpr ⟨by decide, hp word rfl⟩⟩
  · cases port with
    | none => exact List.forall_mem_nil _
    | some port =>
      exact List.forall_mem_cons.mpr ⟨by decide, barred_toDigits (by omega) (by omega)⟩

/-- An authority that has been read has a text, and nothing in it is barred. -/
theorem write_of_readAuthority {scheme cs rest : List Char} {a : Authority}
    (hs : kindOf scheme = .special) (h : readAuthority scheme cs = .ok (a, rest)) :
    a.write ≠ [] ∧ ∀ c ∈ a.write, barred c = false := by
  obtain ⟨username, password, text, -, hu, hp, hread⟩ := exists_readHostPort hs h
  obtain ⟨host, port, hhost, -, rfl⟩ := readHostPort_eq_ok hs hread
  obtain ⟨hne, hbarred⟩ := Host.write_of_parse hhost
  refine ⟨fun hnil => hne ?_, barred_write hu hp hbarred⟩
  simp only [Authority.write, List.append_eq_nil_iff] at hnil
  exact hnil.1.2

/-- An authority is read to its end if nothing ends it. -/
theorem rest_of_readAuthority {scheme whole rest : List Char} {a : Authority}
    (hs : kindOf scheme = .special) (hw : Unbroken whole)
    (h : readAuthority scheme whole = .ok (a, rest)) : rest = [] := by
  obtain ⟨username, password, text, hsuffix, -, -, hread⟩ := exists_readHostPort hs h
  obtain ⟨host, port, -, hport, -⟩ := readHostPort_eq_ok hs hread
  have htext : Unbroken text := fun c hc => hw c (hsuffix.subset hc)
  rcases splitHost_rest htext false with ⟨-, hnone⟩ | ⟨digits, hcolon, hdigits⟩
  · rw [hnone] at hport
    cases hport
    rfl
  · -- Behind the digits of a port stands nothing, or else what would end the authority.
    rw [hcolon, readPort, if_neg (by simp)] at hport
    obtain ⟨front, back, rfl, hfront, hback⟩ := exists_span Char.isDigit digits
    simp only [splitPort, span_append hfront hback] at hport
    split at hport
    · cases hport
    · split at hport
      · cases hport
      · rename_i hend
        cases hport
        cases rest with
        | nil => rfl
        | cons c rest =>
          have hc : endsAuthority .special c = false := hdigits c (by simp)
          simp [hc] at hend

theorem readAuthority_of_append {scheme whole tail rest : List Char} {a : Authority}
    (hs : kindOf scheme = .special) (hw : Unbroken whole) (ht : Terminated tail)
    (h : readAuthority scheme (whole ++ tail) = .ok (a, rest)) :
    readAuthority scheme whole = .ok (a, []) := by
  rw [readAuthority_append hs hw ht] at h
  cases halone : readAuthority scheme whole with
  | error fault =>
    rw [halone] at h
    cases h
  | ok p =>
    obtain ⟨a', last⟩ := p
    rw [halone] at h
    obtain ⟨rfl, -⟩ := Prod.mk.inj (Except.ok.inj h)
    rw [rest_of_readAuthority hs hw halone]

/-- What is left when an authority has been read is all that stood behind it. -/
theorem exists_unbroken_of_readAuthority {scheme cs rest : List Char} {a : Authority}
    (hs : kindOf scheme = .special) (h : readAuthority scheme cs = .ok (a, rest)) :
    ∃ whole, cs = whole ++ rest ∧ Unbroken whole := by
  obtain ⟨whole, tail, rfl, hw, ht⟩ := exists_authority cs
  have halone := readAuthority_of_append hs hw ht h
  rw [readAuthority_append hs hw ht, halone] at h
  obtain ⟨-, hrest⟩ := Prod.mk.inj (Except.ok.inj h)
  exact ⟨whole, by rw [← hrest]; rfl, hw⟩

theorem suffix_of_readAuthority {scheme cs rest : List Char} {a : Authority}
    (hs : kindOf scheme = .special) (h : readAuthority scheme cs = .ok (a, rest)) :
    rest <:+ cs := by
  obtain ⟨whole, rfl, -⟩ := exists_unbroken_of_readAuthority hs h
  exact List.suffix_append whole rest

/-! ### Whole URLs as they are written -/

/-- Trimming stops at the last character of the authority, which is no slash. -/
theorem trimSlashes_write {u : Url} {a : Authority} {parts : List (List Char)}
    (ha : u.authority = some a) (hpath : u.path = .segments parts) (hq : u.query = none)
    (hf : u.fragment = none) (hne : a.write ≠ []) (hbarred : ∀ c ∈ a.write, barred c = false) :
    Gate.trimSlashes u.write = u.scheme ++ ':' :: '/' :: '/' ::
      (a.write ++ Gate.trimSlashes (writeSegments parts)) := by
  obtain ⟨body, last, hlast⟩ := (List.eq_nil_or_concat a.write).resolve_left hne
  have hslash : last ≠ '/' := by
    rintro rfl
    exact absurd (hbarred '/' (by simp [hlast])) (by decide)
  have hwrite : u.write =
      (u.scheme ++ ':' :: '/' :: '/' :: body) ++ last :: writeSegments parts := by
    simp [write, writeAuthority, pathText, Path.write, ha, hpath, hq, hf, writePart, hlast]
  rw [hwrite, trimSlashes_append_cons hslash, hlast]
  simp

theorem clean_eq_self {cs : List Char} (h : ∀ c ∈ cs, 0x20 < c.toNat) : clean cs = cs := by
  have hfront : cs.dropWhile isEdge = cs := by
    cases cs with
    | nil => rfl
    | cons c cs =>
      have hc : isEdge c = false := decide_eq_false (Nat.not_le.mpr (h c List.mem_cons_self))
      exact List.dropWhile_cons_of_neg (by rw [hc]; decide)
  rw [clean, hfront, dropEnd_filter_eq_self h]

theorem splitScheme?_special {scheme : List Char} (hs : kindOf scheme = .special)
    (rest : List Char) : splitScheme? (scheme ++ ':' :: rest) = some (scheme, rest) := by
  have hmem : scheme ∈ defaultPorts.map Prod.fst := by
    have hport : (defaultPort? scheme).isSome = true := by
      unfold kindOf at hs
      split at hs
      · cases hs
      · split at hs
        · assumption
        · cases hs
    obtain ⟨port, hport⟩ := Option.isSome_iff_exists.mp hport
    rw [defaultPort?] at hport
    obtain ⟨front, back, hports, -⟩ := List.lookup_eq_some_iff.mp hport
    rw [hports]
    simp
  have hname : ∀ name ∈ defaultPorts.map Prod.fst, name.map lower = name ∧
      name.head?.any Char.isAlpha = true ∧ name.all isSchemeChar = true := by decide
  obtain ⟨hlower, halpha, hchars⟩ := hname scheme hmem
  exact splitScheme?_eq_some_iff.mpr ⟨scheme, rfl, hlower.symm, halpha, List.all_eq_true.mp hchars⟩

theorem exists_readAuthority_of_parse {cs : List Char} {u : Url} (h : parse cs = .ok u)
    (hs : kindOf u.scheme = .special) :
    ∃ a text rest, u.authority = some a ∧ readAuthority u.scheme text = .ok (a, rest) := by
  unfold parse at h
  split at h
  · obtain ⟨-, hread⟩ := afterSlashes_of_special h hs
    obtain ⟨a, rest, ha, hscheme, hauthority⟩ := exists_readAuthority hread
    exact ⟨a, _, rest, hauthority, hscheme ▸ ha⟩
  · cases h

theorem exists_host?_of_parse {cs : List Char} {u : Url} (h : parse cs = .ok u)
    (hs : kindOf u.scheme = .special) : ∃ host, u.host? = some host := by
  obtain ⟨a, text, rest, ha, hread⟩ := exists_readAuthority_of_parse h hs
  obtain ⟨username, password, text, -, -, -, hread⟩ := exists_readHostPort hs hread
  obtain ⟨host, port, -, -, rfl⟩ := readHostPort_eq_ok hs hread
  exact ⟨host, by rw [host?, ha, Option.bind_some]⟩

/-- A special URL from its scheme, an authority, and a text that begins a path. -/
theorem parse_special {scheme whole tail : List Char} (hs : kindOf scheme = .special)
    (hne : whole ≠ []) (hw : ∀ c ∈ whole, barred c = false) (ht : ∀ c ∈ tail, 0x20 < c.toNat) :
    parse (scheme ++ ':' :: '/' :: '/' :: (whole ++ tail)) = afterSlashes scheme (whole ++ tail) := by
  have hscheme : ∀ c ∈ scheme, 0x20 < c.toNat := by
    have hsplit := splitScheme?_special hs []
    obtain ⟨name, hname, -, -, hchars⟩ := splitScheme?_eq_some_iff.mp hsplit
    intro c hc
    have hc : isSchemeChar c = true := hchars c ((List.append_inj_left' hname rfl) ▸ hc)
    by_contra hlow
    have hnone : ∀ n ≤ 0x20, isSchemeChar (Char.ofNat n) = false := by decide
    rw [← Char.ofNat_toNat c, hnone c.toNat (by omega)] at hc
    cases hc
  have hclean : clean (scheme ++ ':' :: '/' :: '/' :: (whole ++ tail)) =
      scheme ++ ':' :: '/' :: '/' :: (whole ++ tail) := by
    apply clean_eq_self
    intro c hc
    simp only [List.mem_append, List.mem_cons] at hc
    rcases hc with hc | rfl | rfl | rfl | hc | hc
    · exact hscheme c hc
    · decide
    · decide
    · decide
    · exact (barred_eq_false_iff.mp (hw c hc)).1
    · exact ht c hc
  have hopen : ('/' :: '/' :: (whole ++ tail)).dropWhile (isSlash .special) = whole ++ tail := by
    obtain ⟨c, whole, rfl⟩ := List.exists_cons_of_ne_nil hne
    have hend := (barred_eq_false_iff.mp (hw c List.mem_cons_self)).2
    have hc : isSlash .special c = false := by
      simp only [endsAuthority, Bool.or_eq_false_iff] at hend
      exact hend.1.1
    have hslash : isSlash .special '/' = true := by decide
    rw [List.dropWhile_cons_of_pos hslash, List.dropWhile_cons_of_pos hslash, List.cons_append,
      List.dropWhile_cons_of_neg (by rw [hc]; decide)]
  rw [parse, hclean, splitScheme?_special hs]
  simp only [afterScheme, hs, hopen]

end ChatRelay.Url
