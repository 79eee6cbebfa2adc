import ChatRelay.Proofs.Url.Continuation
import ChatRelay.Proofs.Url.Origin

/-!
A query behind a text without one. Nothing that is read before the query depends on it, neither a
scheme nor an authority nor a path, so that only the query of what is read is another.
-/

namespace ChatRelay.Url

/-- A text in which neither a query nor a fragment begins. -/
structure Bare (cs : List Char) : Prop where
  noQuery : '?' ∉ cs
  noFragment : '#' ∉ cs

theorem Bare.of_suffix {cs front back : List Char} (h : Bare cs) (hcs : cs = front ++ back) :
    Bare back := by
  rw [hcs] at h
  exact ⟨fun hm => h.noQuery (List.mem_append_right _ hm),
    fun hm => h.noFragment (List.mem_append_right _ hm)⟩

/-- A URL with another query, encoded as reading does it for a kind of scheme. -/
def asking (kind : Kind) (query : Option (List Char)) (u : Url) : Url :=
  { u with query := query.map (readQuery kind) }

section Query

variable {query : Option (List Char)} {cs : List Char}

theorem head_writePart : ∀ c ∈ (writePart '?' query).head?, c = '?' := by
  intro c hc
  cases query with
  | none => cases hc
  | some text => exact (Option.some.inj hc).symm

theorem terminated_append_writePart (query : Option (List Char)) (h : Terminated cs) :
    Terminated (cs ++ writePart '?' query) := by
  cases cs with
  | nil =>
    intro c hc
    rw [head_writePart c hc]
    decide
  | cons c cs => exact h

theorem cutTail_append_writePart {kind : Kind} (bare : Bare cs)
    (hash : '#' ∉ writePart '?' query) :
    cutTail kind (cs ++ writePart '?' query) = (cs, query.map (readQuery kind), none) := by
  cases query with
  | none =>
    rw [writePart, List.append_nil, cutTail_plain bare.noFragment bare.noQuery]
    rfl
  | some text =>
    have hhash : '#' ∉ cs ++ '?' :: text := by
      rw [List.mem_append, not_or]
      exact ⟨bare.noFragment, hash⟩
    rw [writePart, cutTail_query bare.noQuery hhash]
    rfl

/-- What stops at a question mark stops before the query. -/
theorem span_append_writePart {p : Char → Bool} (hp : p '?' = false) (cs : List Char)
    (query : Option (List Char)) :
    (cs ++ writePart '?' query).takeWhile p = cs.takeWhile p ∧
      (cs ++ writePart '?' query).dropWhile p = cs.dropWhile p ++ writePart '?' query := by
  induction cs with
  | nil =>
    cases query with
    | none => exact ⟨rfl, rfl⟩
    | some text =>
      have hmark : ¬ p '?' = true := by
        rw [hp]
        decide
      exact ⟨List.takeWhile_cons_of_neg hmark, List.dropWhile_cons_of_neg hmark⟩
  | cons c cs ih =>
    rw [List.cons_append]
    by_cases hc : p c = true
    · rw [List.takeWhile_cons_of_pos hc, List.takeWhile_cons_of_pos hc, ih.1,
        List.dropWhile_cons_of_pos hc, List.dropWhile_cons_of_pos hc, ih.2]
      exact ⟨rfl, rfl⟩
    · rw [List.takeWhile_cons_of_neg hc, List.takeWhile_cons_of_neg hc,
        List.dropWhile_cons_of_neg hc, List.dropWhile_cons_of_neg hc]
      exact ⟨rfl, rfl⟩

theorem splitScheme?_append_writePart (cs : List Char) (query : Option (List Char)) :
    splitScheme? (cs ++ writePart '?' query) =
      (splitScheme? cs).map fun (scheme, rest) => (scheme, rest ++ writePart '?' query) := by
  have hhead : (cs ++ writePart '?' query).head?.any Char.isAlpha =
      cs.head?.any Char.isAlpha := by
    cases cs with
    | nil => cases query <;> rfl
    | cons c cs => rfl
  obtain ⟨htake, hdrop⟩ := span_append_writePart (p := isSchemeChar) rfl cs query
  unfold splitScheme?
  rw [hhead, List.span_eq_takeWhile_dropWhile, List.span_eq_takeWhile_dropWhile, htake, hdrop]
  split
  · -- A scheme ends with a colon, which stands before the query or not at all.
    cases cs.dropWhile isSchemeChar with
    | nil => cases query <;> rfl
    | cons c rest =>
      by_cases hc : c = ':'
      · rw [hc]
        rfl
      · simp [hc]
  · rfl

/-- The authority ends before the query, if nothing else has ended it. -/
theorem afterSlashes_append_writePart {scheme : List Char} (hs : kindOf scheme = .special)
    (bare : Bare cs) (hash : '#' ∉ writePart '?' query) :
    afterSlashes scheme (cs ++ writePart '?' query) =
      (afterSlashes scheme cs).map (asking .special query) := by
  obtain ⟨whole, tail, hcs, hw, ht⟩ := exists_authority cs
  have hbare := bare.of_suffix hcs
  have ht' := terminated_append_writePart query ht
  -- Where the authority ends there is a slash, or else nothing or the query.
  rw [hcs, List.append_assoc]
  cases hread : readAuthority scheme whole with
  | error fault =>
    rw [afterSlashes, afterSlashes, readAuthority_append hs hw ht, readAuthority_append hs hw ht',
      hread]
    rfl
  | ok p =>
    obtain ⟨a, rest⟩ := p
    obtain rfl := rest_of_readAuthority hs hw hread
    rw [afterSlashes_append hs hw hread ht, afterSlashes_append hs hw hread ht',
      cutTail_append_writePart hbare hash, cutTail_plain hbare.noFragment hbare.noQuery]
    rfl

/-- A reference relative to a special URL that has no query itself. -/
theorem relative_append_writePart {base : Url} (hs : kindOf base.scheme = .special)
    (hquery : base.query = none) (bare : Bare cs) (hash : '#' ∉ writePart '?' query) :
    relative base (cs ++ writePart '?' query) =
      (relative base cs).map (asking .special query) := by
  have hcut : cutTail .special (cs ++ writePart '?' query) = _ := cutTail_append_writePart bare hash
  have hplain : cutTail .special cs = _ := cutTail_plain bare.noFragment bare.noQuery
  obtain ⟨-, hdrop⟩ := span_append_writePart (p := isSlash .special) rfl cs query
  match cs with
  | [] =>
    simp only [relative, hcut, hplain, hquery]
    cases query <;> rfl
  | c :: after =>
    by_cases hc : isSlash .special c = true
    · by_cases hsecond : after.head?.any (isSlash .special) = true
      · -- Two slashes begin an authority, which the query does not belong to.
        simp only [relative, hcut, hplain, if_pos hc, if_pos hsecond]
        by_cases hslashes : ∃ authority, c :: after = '/' :: '/' :: authority
        · obtain ⟨authority, hauthority⟩ := hslashes
          have hcs : c :: after = ['/', '/'] ++ authority := hauthority
          have hbare : Bare authority := bare.of_suffix hcs
          rw [hauthority]
          exact afterSlashes_append_writePart hs hbare hash
        · have hbare : Bare ((c :: after).dropWhile (isSlash .special)) :=
            bare.of_suffix List.takeWhile_append_dropWhile.symm
          have hother (authority : List Char) :
              c :: after ++ writePart '?' query ≠ '/' :: '/' :: authority := by
            intro hauthority
            cases after with
            | nil => cases hsecond
            | cons d rest =>
              obtain ⟨rfl, hrest⟩ := List.cons.inj hauthority
              obtain ⟨rfl, -⟩ := List.cons.inj hrest
              exact hslashes ⟨rest, rfl⟩
          have hbegins := afterSlashes_append_writePart hs hbare hash
          rw [← hdrop] at hbegins
          split
          · rename_i authority hauthority
            exact absurd hauthority (hother authority)
          · split
            · rename_i authority hauthority
              exact absurd ⟨authority, hauthority⟩ hslashes
            · exact hbegins
      · simp only [relative, hcut, hplain, if_pos hc, if_neg hsecond]
        rfl
    · simp only [relative, hcut, hplain, if_neg hc]
      rfl

theorem readGeneral_of_head?_ne {scheme : List Char} (h : cs.head? ≠ some '/') :
    readGeneral scheme cs = .ok ⟨scheme, none,
      .text (percentEncode controlSet (cutTail .general cs).1), (cutTail .general cs).2.1,
      (cutTail .general cs).2.2⟩ := by
  unfold readGeneral
  split
  · exact absurd rfl h
  · exact absurd rfl h
  · rfl

/-- The path of a URL that is not special may be text, which ends before the query. -/
theorem readGeneral_append_writePart {scheme : List Char} (hopen : cs.head? ≠ some '/')
    (bare : Bare cs) (hash : '#' ∉ writePart '?' query) :
    readGeneral scheme (cs ++ writePart '?' query) =
      (readGeneral scheme cs).map (asking .general query) := by
  have hopen' : (cs ++ writePart '?' query).head? ≠ some '/' := by
    cases cs with
    | nil =>
      intro hslash
      exact absurd (head_writePart '/' hslash) (by decide)
    | cons c cs => exact hopen
  rw [readGeneral_of_head?_ne hopen, readGeneral_of_head?_ne hopen',
    cutTail_append_writePart bare hash, cutTail_plain bare.noFragment bare.noQuery]
  rfl

end Query

end ChatRelay.Url
