import ChatRelay.Proofs.Url.Continuation

/-!
A special URL without the slashes at the end of its text is still one, of the same place. And what
is put behind a text is never lost for the fragment of its URL: the fragment grows by it, or there
is none in either.
-/

namespace ChatRelay.Url

/-! ### Without the slashes at the end -/

/-- Without its slashes at the end a text may end with blanks, which are then dropped as well. -/
theorem exists_clean_trimSlashes (cs : List Char) : ∃ edges slashes, Edges edges ∧
    (∀ c ∈ slashes, c = '/') ∧ clean cs = clean (Gate.trimSlashes cs) ++ edges ++ slashes := by
  obtain ⟨slashes, hcs, hslashes⟩ := exists_trimmed cs
  by_cases hnone : slashes = []
  · rw [hnone, List.append_nil] at hcs
    refine ⟨[], [], List.forall_mem_nil _, List.forall_mem_nil _, ?_⟩
    rw [← hcs, List.append_nil, List.append_nil]
  · obtain ⟨edges, he, hedges⟩ := exists_edges (Gate.trimSlashes cs)
    refine ⟨edges, slashes, he, hslashes, ?_⟩
    rw [← hedges, ← clean_append_slashes hnone hslashes, ← hcs]

/-- An authority is read before blanks and slashes as it is without them; blanks that would be
part of it leave none. -/
theorem exists_afterSlashes_of_append {scheme cs edges slashes : List Char} {u : Url}
    (hs : kindOf scheme = .special) (he : Edges edges) (hslashes : ∀ c ∈ slashes, c = '/')
    (h : afterSlashes scheme (cs ++ edges ++ slashes) = .ok u) :
    ∃ u', afterSlashes scheme cs = .ok u' ∧ u'.authority = u.authority := by
  obtain ⟨a, rest, hread, -, hauthority⟩ := exists_readAuthority h
  obtain ⟨whole, tail, rfl, hw, ht⟩ := exists_authority cs
  have halone : readAuthority scheme whole = .ok (a, []) := by
    by_cases htail : tail = []
    · have hunbroken : Unbroken (whole ++ edges) := fun c hc =>
        (List.mem_append.mp hc).elim (hw c) (unbroken_of_edges he c)
      rw [htail, List.append_nil] at hread
      have hwhole := readAuthority_of_append hs hunbroken (terminated_of_slashes hslashes) hread
      by_cases hedges : edges = []
      · rwa [hedges, List.append_nil] at hwhole
      · obtain ⟨fault, hfault⟩ := readAuthority_append_edges hs hw he hedges
        cases hfault.symm.trans hwhole
    · rw [List.append_assoc, List.append_assoc] at hread
      exact readAuthority_of_append hs hw (terminated_append htail ht _) hread
  exact ⟨_, afterSlashes_append hs hw halone ht, hauthority.symm⟩

/-- Blanks and slashes alone are no authority. -/
theorem afterSlashes_blank {scheme edges slashes : List Char} (hs : kindOf scheme = .special)
    (he : Edges edges) (hslashes : ∀ c ∈ slashes, c = '/') (u : Url) :
    afterSlashes scheme ((edges ++ slashes).dropWhile (isSlash .special)) ≠ .ok u := by
  intro h
  have hslash : isSlash .special '/' = true := by decide
  cases edges with
  | nil =>
    have hnone : slashes.dropWhile (isSlash .special) = [] := by
      rw [List.dropWhile_eq_nil_iff]
      exact fun c hc => hslashes c hc ▸ hslash
    rw [List.nil_append, hnone, afterSlashes_nil hs] at h
    cases h
  | cons c edges =>
    have hc : ¬ isSlash .special c = true := by
      have hend := unbroken_of_edges he c List.mem_cons_self
      simp only [endsAuthority, Bool.or_eq_false_iff] at hend
      rw [hend.1.1]
      decide
    rw [List.cons_append, List.dropWhile_cons_of_neg hc] at h
    have hread : afterSlashes scheme ([] ++ c :: edges ++ slashes) = .ok u := h
    obtain ⟨u', hu', -⟩ := exists_afterSlashes_of_append hs he hslashes hread
    rw [afterSlashes_nil hs] at hu'
    cases hu'

/-- A special URL is one without the slashes at the end of its text too, and is of the same
place. -/
theorem parse_trimSlashes {cs : List Char} {base : Url} (h : parse cs = .ok base)
    (hs : kindOf base.scheme = .special) : ∃ base', parse (Gate.trimSlashes cs) = .ok base' ∧
      base'.scheme = base.scheme ∧ base'.authority = base.authority := by
  obtain ⟨edges, slashes, he, hslashes, hclean⟩ := exists_clean_trimSlashes cs
  have hcolon : ':' ∉ edges ++ slashes := by
    rw [List.mem_append, not_or]
    exact ⟨fun hm => absurd (he ':' hm) (by decide), fun hm => absurd (hslashes ':' hm) (by decide)⟩
  rw [List.append_assoc] at hclean
  obtain ⟨start, hstart, hread⟩ := exists_start hclean hcolon h hs
  have hopen : start.dropWhile (isSlash .special) ≠ [] := by
    intro hopen
    rw [List.dropWhile_append, hopen, List.isEmpty_nil, if_pos rfl] at hread
    exact afterSlashes_blank hs he hslashes base hread
  rw [List.dropWhile_append, if_neg (by simpa using hopen), ← List.append_assoc] at hread
  obtain ⟨base', hbase', hauthority⟩ := exists_afterSlashes_of_append hs he hslashes hread
  obtain ⟨_, _, -, hscheme, -⟩ := exists_readAuthority hbase'
  refine ⟨base', ?_, hscheme, hauthority⟩
  rw [parse, hstart]
  simp only [afterScheme, hs]
  exact hbase'

/-! ### Fragments -/

theorem cutFragment_of_not_mem {cs : List Char} (h : '#' ∉ cs) : (cutFragment cs).2 = none := by
  rw [cutFragment, Text.splitOnce_of_not_mem h]

theorem cutFragment_append_cons {front : List Char} (h : '#' ∉ front) (after : List Char) :
    (cutFragment (front ++ '#' :: after)).2 = some (percentEncode fragmentSet after) := by
  rw [cutFragment, Text.splitOnce_append_cons h]

/-- Only what stands behind the first hash sign counts. -/
theorem cutFragment_append {front : List Char} (h : '#' ∉ front) (cs : List Char) :
    (cutFragment (front ++ cs)).2 = (cutFragment cs).2 := by
  by_cases hhash : '#' ∈ cs
  · obtain ⟨before, after, rfl, hbefore⟩ := List.eq_append_cons_of_mem hhash
    have hfront : '#' ∉ front ++ before := by
      rw [List.mem_append, not_or]
      exact ⟨h, hbefore⟩
    rw [← List.append_assoc, cutFragment_append_cons hfront, cutFragment_append_cons hbefore]
  · rw [cutFragment_of_not_mem hhash, cutFragment_of_not_mem]
    rw [List.mem_append, not_or]
    exact ⟨h, hhash⟩

theorem fragment_afterSlashes {scheme cs : List Char} {u : Url} (hs : kindOf scheme = .special)
    (h : afterSlashes scheme cs = .ok u) : u.fragment = (cutFragment cs).2 := by
  obtain ⟨⟨a, rest⟩, hread, hbuilt⟩ := exists_of_bind_eq_ok h
  obtain ⟨whole, rfl, hw⟩ := exists_unbroken_of_readAuthority hs hread
  cases hbuilt
  exact (cutFragment_append (fun hm => absurd (hw '#' hm) (by decide)) rest).symm

/-- The fragment of a special URL is what stands behind the first hash sign of its text. -/
theorem fragment_of_parse {cs : List Char} {u : Url} (h : parse cs = .ok u)
    (hs : kindOf u.scheme = .special) : u.fragment = (cutFragment (clean cs)).2 := by
  obtain ⟨start, hstart, hread⟩ :=
    exists_start (List.append_nil (clean cs)).symm List.not_mem_nil h hs
  obtain ⟨name, hclean, -, -, hname⟩ := splitScheme?_eq_some_iff.mp hstart
  rw [List.append_nil] at hread
  -- Neither the scheme nor the slashes behind it hold a hash sign.
  have hfront : '#' ∉ name ++ ':' :: start.takeWhile (isSlash .special) := by
    rw [List.mem_append, List.mem_cons, not_or, not_or]
    exact ⟨fun hm => absurd (hname '#' hm) (by decide), by decide,
      fun hm => absurd (List.mem_takeWhile_imp hm) (by decide)⟩
  rw [fragment_afterSlashes hs hread, ← cutFragment_append hfront, List.append_assoc,
    List.cons_append, List.takeWhile_append_dropWhile, ← hclean]

theorem cutFragment_grows {more : List Char} (hne : more ≠ []) (hmore : '#' ∉ more)
    (cs : List Char) :
    ((cutFragment (cs ++ more)).2 = (cutFragment cs).2 ↔ (cutFragment cs).2 = none) ∧
      ((cutFragment (cs ++ more)).2 = none ↔ (cutFragment cs).2 = none) := by
  by_cases hhash : '#' ∈ cs
  · obtain ⟨before, after, rfl, hbefore⟩ := List.eq_append_cons_of_mem hhash
    rw [List.append_assoc, List.cons_append, cutFragment_append_cons hbefore,
      cutFragment_append_cons hbefore]
    -- Escaping makes nothing shorter, so that what has been put behind is still there.
    have hlonger : percentEncode fragmentSet (after ++ more) ≠ percentEncode fragmentSet after := by
      intro heq
      have hlength := length_le_length_percentEncode fragmentSet more
      have hmost := List.length_pos_iff.mpr hne
      rw [percentEncode, List.flatMap_append] at heq
      have hsame := congrArg List.length heq
      rw [List.length_append, ← percentEncode, ← percentEncode] at hsame
      omega
    simp [hlonger]
  · have hwhole : '#' ∉ cs ++ more := by
      rw [List.mem_append, not_or]
      exact ⟨hhash, hmore⟩
    rw [cutFragment_of_not_mem hhash, cutFragment_of_not_mem hwhole]
    exact ⟨Iff.rfl, Iff.rfl⟩

/-- A path behind the text of a special URL makes its fragment longer, or there is none. -/
theorem fragment_append_iff {cs path : List Char} {base u : Url} (hbase : parse cs = .ok base)
    (hs : kindOf base.scheme = .special) (hpath : ∀ c ∈ '/' :: path, 0x20 < c.toNat ∧ c ≠ '#')
    (hu : parse (cs ++ '/' :: path) = .ok u) (hs' : kindOf u.scheme = .special) :
    (u.fragment = base.fragment ↔ base.fragment = none) ∧
      (u.fragment = none ↔ base.fragment = none) := by
  obtain ⟨edges, he, hedges⟩ := exists_edges cs
  have hclean : clean (cs ++ '/' :: path) = clean cs ++ (edges ++ '/' :: path) := by
    rw [clean_slash, dropEnd_filter_eq_self fun c hc => (hpath c (List.mem_cons_of_mem _ hc)).1,
      hedges, List.append_assoc]
  have hmore : '#' ∉ edges ++ '/' :: path := by
    rw [List.mem_append, not_or]
    exact ⟨fun hm => absurd (he '#' hm) (by decide), fun hm => (hpath '#' hm).2 rfl⟩
  rw [fragment_of_parse hbase hs, fragment_of_parse hu hs', hclean]
  exact cutFragment_grows (List.append_ne_nil_of_right_ne_nil _ (List.cons_ne_nil _ _)) hmore _

end ChatRelay.Url
