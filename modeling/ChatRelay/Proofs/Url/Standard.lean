import ChatRelay.Proofs.Success
import ChatRelay.Proofs.Url.Extension
import ChatRelay.Proofs.Url.Path

/-!
Special URLs in standard form. Reading leaves every special URL with settled segments and an
encoded query; and path and query of this kind are read back from their text unchanged, behind
whatever authority.
-/

namespace ChatRelay.Url

/-- A path with settled segments and a query in which nothing is left to encode. -/
structure Standard (u : Url) : Prop where
  path : ∃ parts, u.path = .segments parts ∧ parts ≠ [] ∧ ∀ s ∈ parts, Settled s
  query : ∀ query ∈ u.query, ∀ c ∈ query, specialQuerySet c = false

/-! ### What reading leaves -/

theorem settled_readSegments_nil (cs : List Char) :
    ∀ s ∈ readSegments .special [] cs, Settled s :=
  settled_readSegments (List.forall_mem_nil Settled) cs

theorem settled_readPath (cs : List Char) :
    ∃ parts, readPath .special cs = .segments parts ∧ parts ≠ [] ∧ ∀ s ∈ parts, Settled s :=
  ⟨_, rfl, readSegments_ne_nil _ _ _, settled_readSegments_nil _⟩

theorem kept_cutQuery (cs : List Char) :
    ∀ query ∈ (cutQuery .special cs).2, ∀ c ∈ query, specialQuerySet c = false := by
  intro query hquery
  unfold cutQuery at hquery
  split at hquery
  · rw [← Option.mem_some_iff.mp hquery]
    exact kept_percentEncode stable_specialQuerySet _
  · cases hquery

theorem kept_cutTail (cs : List Char) :
    ∀ query ∈ (cutTail .special cs).2.1, ∀ c ∈ query, specialQuerySet c = false :=
  kept_cutQuery (cutFragment cs).1

theorem standard_afterSlashes {scheme cs : List Char} {u : Url} (hs : kindOf scheme = .special)
    (h : afterSlashes scheme cs = .ok u) : u.Standard := by
  obtain ⟨⟨a, rest⟩, -, h⟩ := exists_of_bind_eq_ok h
  rw [hs] at h
  cases h
  exact ⟨settled_readPath _, kept_cutTail _⟩

theorem standard_afterScheme {scheme cs : List Char} {u : Url}
    (h : afterScheme scheme cs = .ok u) (hs : kindOf u.scheme = .special) : u.Standard := by
  obtain ⟨hkind, hread⟩ := afterSlashes_of_special h hs
  exact standard_afterSlashes hkind hread

theorem standard_parse {cs : List Char} {u : Url} (h : parse cs = .ok u)
    (hs : kindOf u.scheme = .special) : u.Standard := by
  unfold parse at h
  split at h
  · exact standard_afterScheme h hs
  · cases h

theorem standard_relative {base u : Url} {cs : List Char} (hbase : base.Standard)
    (hs : kindOf base.scheme = .special) (h : relative base cs = .ok u) : u.Standard := by
  unfold relative at h
  cases htail : cutTail .special cs with
  | mk rest tail =>
    obtain ⟨query, fragment⟩ := tail
    have hquery := kept_cutTail cs
    rw [htail] at h hquery
    dsimp only at h hquery
    split at h
    · -- The path of the base is kept, and its query too if there is none.
      cases h
      refine ⟨hbase.path, ?_⟩
      dsimp only
      split
      · exact hquery
      · exact hbase.query
    · split at h
      · split at h
        · split at h <;> exact standard_afterSlashes hs h
        · cases h
          exact ⟨⟨_, rfl, readSegments_ne_nil _ _ _, settled_readSegments_nil _⟩, hquery⟩
      · cases h
        obtain ⟨parts, hpath, -, hparts⟩ := hbase.path
        refine ⟨⟨_, rfl, readSegments_ne_nil _ _ _, settled_readSegments ?_ _⟩, hquery⟩
        rw [hpath]
        exact fun s hs => hparts s (List.dropLast_subset _ hs)

/-- A reference is read to a URL in standard form, if that is special. -/
theorem standard_join {base u : Url} {cs : List Char} (hbase : base.Standard)
    (hb : kindOf base.scheme = .special) (h : base.join cs = .ok u)
    (hs : kindOf u.scheme = .special) : u.Standard := by
  unfold join at h
  dsimp only at h
  split at h
  · exact standard_relative hbase hb h
  · split at h
    · exact standard_relative hbase hb h
    · exact standard_afterScheme h hs

/-! ### Path and query read again -/

/-- The characters of encoded paths and queries, and those that only queries have. -/
theorem of_pathSet {c : Char} (h : pathSet c = false) :
    0x20 < c.toNat ∧ c ≠ '#' ∧ c ≠ '?' := by
  simp only [pathSet, fragmentSet, controlSet, Bool.or_eq_false_iff, decide_eq_false_iff_not,
    beq_eq_false_iff_ne] at h
  have hspace : c.toNat ≠ 0x20 := fun heq => by
    have := Char.toNat_inj.mp (heq.trans (by decide : 0x20 = ' '.toNat))
    tauto
  refine ⟨by omega, ?_, ?_⟩
  · tauto
  · tauto

theorem of_specialQuerySet {c : Char} (h : specialQuerySet c = false) :
    0x20 < c.toNat ∧ c ≠ '#' := by
  simp only [specialQuerySet, querySet, controlSet, Bool.or_eq_false_iff, decide_eq_false_iff_not,
    beq_eq_false_iff_ne] at h
  have hspace : c.toNat ≠ 0x20 := fun heq => by
    have := Char.toNat_inj.mp (heq.trans (by decide : 0x20 = ' '.toNat))
    tauto
  refine ⟨by omega, ?_⟩
  tauto

theorem of_mem_writeSegments {parts : List (List Char)} (h : ∀ s ∈ parts, Settled s) :
    ∀ c ∈ writeSegments parts, 0x20 < c.toNat ∧ c ≠ '#' ∧ c ≠ '?' := by
  intro c hc
  obtain ⟨s, hs, hc⟩ := List.mem_flatMap.mp hc
  rcases List.mem_cons.mp hc with rfl | hc
  · decide
  · exact of_pathSet ((h s hs).encoded c hc)

theorem of_mem_writePart {query : Option (List Char)}
    (h : ∀ text ∈ query, ∀ c ∈ text, specialQuerySet c = false) :
    ∀ c ∈ writePart '?' query, 0x20 < c.toNat ∧ c ≠ '#' := by
  intro c hc
  cases query with
  | none => cases hc
  | some text =>
    rcases List.mem_cons.mp hc with rfl | hc
    · decide
    · exact of_specialQuerySet (h text rfl c hc)

/-- A path and a query are cut off as they are written, behind whatever begins the path. -/
theorem cutTail_written {front : List Char} {parts : List (List Char)}
    {query : Option (List Char)} (hfront : '#' ∉ front ∧ '?' ∉ front)
    (hparts : ∀ s ∈ parts, Settled s)
    (hquery : ∀ text ∈ query, ∀ c ∈ text, specialQuerySet c = false) :
    cutTail .special (front ++ writeSegments parts ++ writePart '?' query) =
      (front ++ writeSegments parts, query, none) := by
  have hhash : '#' ∉ front ++ writeSegments parts ++ writePart '?' query := by
    intro hm
    rcases List.mem_append.mp hm with hm | hm
    · exact (List.mem_append.mp hm).elim hfront.1 fun hm =>
        (of_mem_writeSegments hparts '#' hm).2.1 rfl
    · exact (of_mem_writePart hquery '#' hm).2 rfl
  have hmark : '?' ∉ front ++ writeSegments parts := fun hm =>
    (List.mem_append.mp hm).elim hfront.2 fun hm => (of_mem_writeSegments hparts '?' hm).2.2 rfl
  have hcut : cutQuery .special (front ++ writeSegments parts ++ writePart '?' query) =
      (front ++ writeSegments parts, query) := by
    cases query with
    | none =>
      rw [writePart, List.append_nil, cutQuery, Text.splitOnce_of_not_mem hmark]
    | some text =>
      have hread : readQuery .special text = text := percentEncode_eq_self (hquery text rfl)
      rw [writePart, cutQuery, Text.splitOnce_append_cons hmark]
      dsimp only
      rw [hread]
  simp only [cutTail, cutFragment, Text.splitOnce_of_not_mem hhash, hcut]

/-- What is read of a URL whose authority ends where it does. -/
theorem afterSlashes_append {scheme whole tail : List Char} {a : Authority}
    (hs : kindOf scheme = .special) (hw : Unbroken whole)
    (ha : readAuthority scheme whole = .ok (a, [])) (ht : Terminated tail) :
    afterSlashes scheme (whole ++ tail) = .ok ⟨scheme, some a,
      readPath .special (cutTail .special tail).1, (cutTail .special tail).2.1,
      (cutTail .special tail).2.2⟩ := by
  have hread : readAuthority scheme (whole ++ tail) = .ok (a, tail) := by
    rw [readAuthority_append hs hw ht, ha]
    rfl
  rw [afterSlashes, hread]
  simp only [bind, Except.bind, hs]

/-- Behind an authority, path and query are read as they are written. -/
theorem afterSlashes_written {scheme whole : List Char} {a : Authority}
    (hs : kindOf scheme = .special) (hw : Unbroken whole)
    (ha : readAuthority scheme whole = .ok (a, [])) {parts : List (List Char)} (hne : parts ≠ [])
    (hparts : ∀ s ∈ parts, Settled s) {query : Option (List Char)}
    (hquery : ∀ text ∈ query, ∀ c ∈ text, specialQuerySet c = false) :
    afterSlashes scheme (whole ++ (writeSegments parts ++ writePart '?' query)) =
      .ok ⟨scheme, some a, .segments parts, query, none⟩ := by
  have ht : Terminated (writeSegments parts ++ writePart '?' query) := by
    obtain ⟨first, rest, rfl⟩ := List.exists_cons_of_ne_nil hne
    exact terminated_cons (by decide) _
  have hfront : '#' ∉ ([] : List Char) ∧ '?' ∉ ([] : List Char) :=
    ⟨List.not_mem_nil, List.not_mem_nil⟩
  have hcut := cutTail_written hfront hparts hquery
  rw [List.nil_append] at hcut
  rw [afterSlashes_append hs hw ha ht, hcut, readPath_writeSegments hne hparts]

end ChatRelay.Url
