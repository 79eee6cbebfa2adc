import ChatRelay.Gate.Allowlist
import ChatRelay.Proofs.Text.Trim
import ChatRelay.Proofs.Url.Authority

/-!
What becomes of a URL when the slashes at its end are dropped and a path is put behind it. The
blanks that it may end with then stand inside the text; either they end up in the authority,
which is refused, or the authority is the one that it was.
-/

namespace ChatRelay.Url

/-! ### Clean texts -/

theorem clean_slash (front back : List Char) : clean (front ++ '/' :: back) =
    (front.dropWhile isEdge).filter (!isUnseen ·) ++
      '/' :: (Text.dropEnd isEdge back).filter (!isUnseen ·) := by
  have hslash : isEdge '/' = false := by decide
  have hseen : (!isUnseen '/') = true := by decide
  rw [clean, Text.dropWhile_append_cons hslash, Text.dropEnd_append_cons hslash,
    List.filter_append, List.filter_cons_of_pos (p := fun c => !isUnseen c) hseen]

/-- Characters that are seen are all kept. -/
theorem filter_eq_self_of_visible {cs : List Char} (h : ∀ c ∈ cs, 0x20 < c.toNat) :
    cs.filter (!isUnseen ·) = cs := by
  rw [List.filter_eq_self]
  intro c hc
  have hlow := h c hc
  simp only [isUnseen, Bool.not_eq_true', Bool.or_eq_false_iff, beq_eq_false_iff_ne]
  refine ⟨⟨?_, ?_⟩, ?_⟩ <;> rintro rfl <;> exact absurd hlow (by decide)

theorem dropEnd_filter_eq_self {cs : List Char} (h : ∀ c ∈ cs, 0x20 < c.toNat) :
    (Text.dropEnd isEdge cs).filter (!isUnseen ·) = cs := by
  have hedge : ∀ c ∈ cs, isEdge c = false := fun c hc =>
    decide_eq_false (Nat.not_le.mpr (h c hc))
  rw [Text.dropEnd_of_forall hedge, filter_eq_self_of_visible h]

theorem exists_trimmed (cs : List Char) :
    ∃ slashes, cs = Gate.trimSlashes cs ++ slashes ∧ ∀ c ∈ slashes, c = '/' := by
  obtain ⟨slashes, hcs, hslashes⟩ := Text.exists_dropEnd (· == '/') cs
  exact ⟨slashes, hcs, fun c hc => beq_iff_eq.mp (hslashes c hc)⟩

theorem trimSlashes_trimSlashes (cs : List Char) :
    Gate.trimSlashes (Gate.trimSlashes cs) = Gate.trimSlashes cs :=
  Text.dropEnd_dropEnd _ cs

/-- The blanks that a text ends with are kept if something stands behind them. -/
theorem exists_edges (cs : List Char) : ∃ edges, Edges edges ∧
    (cs.dropWhile isEdge).filter (!isUnseen ·) = clean cs ++ edges := by
  obtain ⟨blanks, hblanks, hedges⟩ := Text.exists_dropEnd isEdge (cs.dropWhile isEdge)
  refine ⟨blanks.filter (!isUnseen ·), fun c hc => ?_, ?_⟩
  · exact of_decide_eq_true (hedges c (List.mem_filter.mp hc).1)
  · rw [clean, ← List.filter_append, ← hblanks]

theorem clean_append_slashes {slashes : List Char} (hne : slashes ≠ [])
    (hslashes : ∀ c ∈ slashes, c = '/') (cs : List Char) :
    clean (cs ++ slashes) = (cs.dropWhile isEdge).filter (!isUnseen ·) ++ slashes := by
  obtain ⟨c, more, rfl⟩ := List.exists_cons_of_ne_nil hne
  obtain ⟨rfl, hmore⟩ := List.forall_mem_cons.mp hslashes
  have hlow : ∀ d ∈ more, 0x20 < d.toNat := by
    intro d hd
    rw [hmore d hd]
    decide
  rw [clean_slash, dropEnd_filter_eq_self hlow]

/-- A text and its extensions by paths share all but the slashes at the end of the one and the
blanks before the paths of the others. -/
theorem exists_clean_extension (cs : List Char) : ∃ front slashes edges,
    clean cs = front ++ slashes ∧ (∀ c ∈ slashes, c = '/') ∧ Edges edges ∧
      ∀ path, clean (Gate.trimSlashes cs ++ '/' :: path) =
        front ++ edges ++ '/' :: (Text.dropEnd isEdge path).filter (!isUnseen ·) := by
  obtain ⟨slashes, hcs, hslashes⟩ := exists_trimmed cs
  by_cases hnone : slashes = []
  · -- Nothing was dropped, so that blanks may stand before the path.
    rw [hnone, List.append_nil] at hcs
    obtain ⟨edges, he, hedges⟩ := exists_edges cs
    refine ⟨clean cs, [], edges, (List.append_nil _).symm, List.forall_mem_nil _, he, ?_⟩
    intro path
    rw [clean_slash, ← hcs, hedges]
  · refine ⟨((Gate.trimSlashes cs).dropWhile isEdge).filter (!isUnseen ·), slashes, [], ?_,
      hslashes, List.forall_mem_nil _, ?_⟩
    · conv_lhs => rw [hcs, clean_append_slashes hnone hslashes]
    · intro path
      rw [clean_slash, List.append_nil]

/-! ### Schemes -/

theorem splitScheme?_eq_some_iff {cs scheme rest : List Char} :
    splitScheme? cs = some (scheme, rest) ↔ ∃ name, cs = name ++ ':' :: rest ∧
      scheme = name.map lower ∧ name.head?.any Char.isAlpha = true ∧
      ∀ c ∈ name, isSchemeChar c = true := by
  have hcolon : isSchemeChar ':' = false := by decide
  constructor
  · intro h
    obtain ⟨front, back, rfl, hfront, hback⟩ := exists_span isSchemeChar cs
    rw [splitScheme?, span_append hfront hback] at h
    split at h
    · rename_i halpha
      split at h
      · rename_i name later hspan
        cases hspan
        cases h
        refine ⟨front, rfl, rfl, ?_, hfront⟩
        cases front with
        | nil =>
          -- A colon comes first then, and it is no letter.
          cases halpha
        | cons c front => exact halpha
      · cases h
    · cases h
  · rintro ⟨name, rfl, rfl, halpha, hname⟩
    have hspan : (name ++ ':' :: rest).span isSchemeChar = (name, ':' :: rest) := by
      apply span_append hname
      intro c hc
      rw [List.head?_cons, Option.mem_some_iff] at hc
      rw [← hc, hcolon]
    have hhead : (name ++ ':' :: rest).head?.any Char.isAlpha = true := by
      cases name with
      | nil => exact absurd halpha (by decide)
      | cons c name => exact halpha
    simp only [splitScheme?, if_pos hhead, hspan]

theorem splitScheme?_append {cs scheme rest : List Char}
    (h : splitScheme? cs = some (scheme, rest)) (more : List Char) :
    splitScheme? (cs ++ more) = some (scheme, rest ++ more) := by
  obtain ⟨name, rfl, hname⟩ := splitScheme?_eq_some_iff.mp h
  exact splitScheme?_eq_some_iff.mpr ⟨name, by rw [List.append_assoc, List.cons_append], hname⟩

/-- Where no colon stands behind a text, the scheme is the one of the text alone. -/
theorem splitScheme?_of_append {cs back scheme rest : List Char} (hcolon : ':' ∉ back)
    (h : splitScheme? (cs ++ back) = some (scheme, rest)) :
    ∃ front, splitScheme? cs = some (scheme, front) ∧ rest = front ++ back := by
  obtain ⟨name, hcs, hname⟩ := splitScheme?_eq_some_iff.mp h
  rcases List.append_eq_append_iff.mp hcs with ⟨middle, -, hmiddle⟩ | ⟨middle, hmiddle, hrest⟩
  · exact absurd (hmiddle ▸ by simp) hcolon
  · cases middle with
    | nil =>
      rw [List.nil_append] at hrest
      exact absurd (hrest ▸ List.mem_cons_self) hcolon
    | cons c middle =>
      obtain ⟨hc, hrest⟩ := List.cons.inj hrest
      rw [← hc] at hmiddle
      exact ⟨middle, splitScheme?_eq_some_iff.mpr ⟨name, hmiddle, hname⟩, hrest⟩

/-! ### Authorities -/

theorem terminated_of_slashes {slashes : List Char} (hs : ∀ c ∈ slashes, c = '/') :
    Terminated slashes := by
  intro c hc
  rw [hs c (List.mem_of_mem_head? hc)]
  decide

theorem terminated_append {cs : List Char} (hne : cs ≠ []) (ht : Terminated cs)
    (more : List Char) : Terminated (cs ++ more) := by
  cases cs with
  | nil => exact absurd rfl hne
  | cons c cs => exact ht

theorem authority_eq {scheme whole tail tail' : List Char} {a a' : Authority}
    {rest rest' : List Char} (hs : kindOf scheme = .special) (hw : Unbroken whole)
    (ht : Terminated tail) (ht' : Terminated tail')
    (h : readAuthority scheme (whole ++ tail) = .ok (a, rest))
    (h' : readAuthority scheme (whole ++ tail') = .ok (a', rest')) : a = a' := by
  rw [readAuthority_append hs hw ht] at h
  rw [readAuthority_append hs hw ht'] at h'
  cases hread : readAuthority scheme whole with
  | error fault =>
    rw [hread] at h
    cases h
  | ok p =>
    rw [hread] at h h'
    cases h
    cases h'
    rfl

/-- An authority is the same before the slashes at its end and before a path, or blanks have come
to stand in it and it is none. -/
theorem authority_extension {scheme cs slashes edges later : List Char} {a a' : Authority}
    {rest rest' : List Char} (hs : kindOf scheme = .special) (hslashes : ∀ c ∈ slashes, c = '/')
    (he : Edges edges)
    (h : readAuthority scheme (cs ++ slashes) = .ok (a, rest))
    (h' : readAuthority scheme (cs ++ edges ++ '/' :: later) = .ok (a', rest')) : a = a' := by
  have hpath : Terminated ('/' :: later) := terminated_cons (by decide) later
  obtain ⟨whole, tail, rfl, hw, ht⟩ := exists_authority cs
  -- If something has ended the authority already, no slash or blank behind it matters.
  by_cases htail : tail = []
  · rw [htail, List.append_nil] at h h'
    by_cases hedges : edges = []
    · rw [hedges, List.append_nil] at h'
      exact authority_eq hs hw (terminated_of_slashes hslashes) hpath h h'
    · have hunbroken : Unbroken (whole ++ edges) := fun c hc =>
        (List.mem_append.mp hc).elim (hw c) (unbroken_of_edges he c)
      obtain ⟨fault, hfault⟩ := readAuthority_append_edges hs hw he hedges
      rw [readAuthority_append hs hunbroken hpath, hfault] at h'
      cases h'
  · rw [List.append_assoc] at h
    rw [List.append_assoc, List.append_assoc] at h'
    exact authority_eq hs hw (terminated_append htail ht _) (terminated_append htail ht _) h h'

/-! ### Whole URLs -/

theorem exists_readAuthority {scheme cs : List Char} {u : Url}
    (h : afterSlashes scheme cs = .ok u) : ∃ a rest, readAuthority scheme cs = .ok (a, rest) ∧
      u.scheme = scheme ∧ u.authority = some a := by
  unfold afterSlashes at h
  cases hread : readAuthority scheme cs with
  | error fault =>
    rw [hread] at h
    cases h
  | ok p =>
    rw [hread] at h
    cases h
    exact ⟨p.1, p.2, rfl, rfl, rfl⟩

theorem afterSlashes_nil {scheme : List Char} (hs : kindOf scheme = .special) :
    afterSlashes scheme [] = .error .emptyHost := by
  have hempty : readAuthority scheme [] = .error .emptyHost := by
    have h := readHostPort_special hs [] none []
    simp only [readAuthority, hs]
    exact h
  rw [afterSlashes, hempty]
  rfl

theorem scheme_readFile {cs : List Char} {u : Url} (h : readFile cs = .ok u) :
    u.scheme = "file".toList := by
  obtain ⟨_, _, _, _, rfl⟩ := exists_of_readFile h
  rfl

theorem scheme_readGeneral {scheme cs : List Char} {u : Url} (h : readGeneral scheme cs = .ok u) :
    u.scheme = scheme := by
  unfold readGeneral at h
  split at h
  · obtain ⟨_, _, _, hscheme, _⟩ := exists_readAuthority h
    exact hscheme
  · cases h
    rfl
  · cases h
    rfl

theorem afterSlashes_of_special {scheme cs : List Char} {u : Url}
    (h : afterScheme scheme cs = .ok u) (hs : kindOf u.scheme = .special) :
    kindOf scheme = .special ∧
      afterSlashes scheme (cs.dropWhile (isSlash .special)) = .ok u := by
  -- The other two kinds of reading leave a scheme that is not special.
  unfold afterScheme at h
  split at h
  · rw [scheme_readFile h] at hs
    exact absurd hs (by decide)
  · rename_i hkind
    exact ⟨hkind, h⟩
  · rename_i hkind
    rw [scheme_readGeneral h, hkind] at hs
    cases hs

/-- What stands behind the scheme of a special URL, if the end of its text holds no colon. -/
theorem exists_start {cs front back : List Char} {base : Url} (hclean : clean cs = front ++ back)
    (hcolon : ':' ∉ back) (hbase : parse cs = .ok base) (hs : kindOf base.scheme = .special) :
    ∃ start, splitScheme? front = some (base.scheme, start) ∧
      afterSlashes base.scheme ((start ++ back).dropWhile (isSlash .special)) = .ok base := by
  rw [parse, hclean] at hbase
  cases hsplit : splitScheme? (front ++ back) with
  | none =>
    rw [hsplit] at hbase
    cases hbase
  | some p =>
    obtain ⟨scheme, rest⟩ := p
    obtain ⟨start, hstart, rfl⟩ := splitScheme?_of_append hcolon hsplit
    rw [hsplit] at hbase
    obtain ⟨-, hread⟩ := afterSlashes_of_special hbase hs
    obtain ⟨_, _, -, hscheme, -⟩ := exists_readAuthority hread
    rw [hscheme]
    exact ⟨start, hstart, hread⟩

/-- The text of a special URL behind its scheme and the slashes there, without the slashes at the
end: whatever path is put in their stead is read behind it. -/
theorem exists_body {cs : List Char} {base : Url} (hbase : parse cs = .ok base)
    (hs : kindOf base.scheme = .special) : ∃ body slashes edges,
      (∀ c ∈ slashes, c = '/') ∧ Edges edges ∧
      afterSlashes base.scheme (body ++ slashes) = .ok base ∧
      ∀ path, parse (Gate.trimSlashes cs ++ '/' :: path) = afterSlashes base.scheme
        (body ++ edges ++ '/' :: (Text.dropEnd isEdge path).filter (!isUnseen ·)) := by
  obtain ⟨front, slashes, edges, hclean, hslashes, he, hclean'⟩ := exists_clean_extension cs
  -- All the texts have the scheme of what they share.
  have hcolon : ':' ∉ slashes := fun hm => absurd (hslashes ':' hm) (by decide)
  obtain ⟨start, hstart, hread⟩ := exists_start hclean hcolon hbase hs
  have hopen : start.dropWhile (isSlash .special) ≠ [] := by
    -- Slashes alone are no authority.
    intro hopen
    have hall : (start ++ slashes).dropWhile (isSlash .special) = [] := by
      rw [List.dropWhile_append, hopen, List.isEmpty_nil, if_pos rfl, List.dropWhile_eq_nil_iff]
      intro c hc
      rw [hslashes c hc]
      decide
    rw [hall, afterSlashes_nil hs] at hread
    cases hread
  -- So the slashes before the authority are the same in all of them.
  have hkept (more : List Char) : (start ++ more).dropWhile (isSlash .special) =
      start.dropWhile (isSlash .special) ++ more := by
    rw [List.dropWhile_append, if_neg (by simpa using hopen)]
  rw [hkept] at hread
  refine ⟨_, slashes, edges, hslashes, he, hread, ?_⟩
  intro path
  rw [parse, hclean', splitScheme?_append (splitScheme?_append hstart edges)]
  simp only [afterScheme, hs]
  rw [List.append_assoc, hkept, ← List.append_assoc]

/-- A special URL and what it becomes with a path behind it have the same scheme and the same
authority. -/
theorem parse_extension {cs path : List Char} {base u : Url} (hbase : parse cs = .ok base)
    (hs : kindOf base.scheme = .special)
    (hu : parse (Gate.trimSlashes cs ++ '/' :: path) = .ok u) :
    u.scheme = base.scheme ∧ u.authority = base.authority := by
  obtain ⟨body, slashes, edges, hslashes, he, hread, hpath⟩ := exists_body hbase hs
  rw [hpath] at hu
  obtain ⟨a, _, ha, -, hauthority⟩ := exists_readAuthority hread
  obtain ⟨a', _, ha', hscheme', hauthority'⟩ := exists_readAuthority hu
  have hsame := authority_extension hs hslashes he ha ha'
  exact ⟨hscheme', by rw [hauthority, hauthority', hsame]⟩

end ChatRelay.Url
