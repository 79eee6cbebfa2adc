import ChatRelay.Url.Parser

/-!
Origins of URLs. A blob: URL has the origin of the URL that is its path. Reading that URL takes a
colon away, and so the URLs within URLs come to an end.
-/

namespace ChatRelay.Url

/-! ### Colons -/

/-- The colons in a path that is text, and one for the text itself. A path of segments begins with
a slash or is empty, and so it is no URL. -/
def Path.colons : Path → Nat
  | .segments _ => 0
  | .text cs => cs.count ':' + 1

theorem count_percentByte (b : UInt8) : (percentByte b).count ':' = 0 := by
  have hb := b.toNat_lt
  have hdigit : ∀ n < 16, upperHex n ≠ ':' := by decide
  rw [List.count_eq_zero, percentByte]
  simp only [List.mem_cons, List.not_mem_nil, or_false, not_or]
  exact ⟨by decide, (hdigit _ (by omega)).symm, (hdigit _ (by omega)).symm⟩

theorem count_percentEncode_le (set : EncodeSet) (cs : List Char) :
    (percentEncode set cs).count ':' ≤ cs.count ':' := by
  induction cs with
  | nil => exact Nat.le_refl 0
  | cons c cs ih =>
    have hescape : ((String.utf8EncodeChar c).flatMap percentByte).count ':' = 0 := by
      rw [List.count_eq_zero]
      intro hm
      obtain ⟨b, -, hb⟩ := List.mem_flatMap.mp hm
      exact List.count_eq_zero.mp (count_percentByte b) hb
    have hone : (if set c then (String.utf8EncodeChar c).flatMap percentByte
        else [c]).count ':' ≤ [c].count ':' := by
      split
      · rw [hescape]
        exact Nat.zero_le _
      · exact Nat.le_refl _
    have hcons : ([c] ++ cs).count ':' = [c].count ':' + cs.count ':' := List.count_append
    rw [percentEncode] at ih ⊢
    rw [List.flatMap_cons, List.count_append, ← List.singleton_append (l := cs), hcons]
    exact Nat.add_le_add hone ih

theorem sublist_of_splitOnce {sep : Char} {cs before after : List Char}
    (h : Text.splitOnce sep cs = some (before, after)) : before.Sublist cs := by
  -- The induction is on the text, up to the separator.
  induction cs generalizing before with
  | nil => cases h
  | cons c cs ih =>
    rw [Text.splitOnce] at h
    split at h
    · cases h
      exact List.nil_sublist _
    · obtain ⟨⟨front, back⟩, hfront, hcons⟩ := Option.map_eq_some_iff.mp h
      cases hcons
      exact (ih hfront).cons_cons c

theorem sublist_cutTail (kind : Kind) (cs : List Char) : (cutTail kind cs).1.Sublist cs := by
  have hquery (text : List Char) : (cutQuery kind text).1.Sublist text := by
    unfold cutQuery
    split
    · rename_i hsplit
      exact sublist_of_splitOnce hsplit
    · exact List.Sublist.refl text
  have hfragment : (cutFragment cs).1.Sublist cs := by
    unfold cutFragment
    split
    · rename_i hsplit
      exact sublist_of_splitOnce hsplit
    · exact List.Sublist.refl cs
  exact (hquery _).trans hfragment

theorem sublist_clean (cs : List Char) : (clean cs).Sublist cs := by
  have hend (text : List Char) : (Text.dropEnd isEdge text).Sublist text := by
    have hsublist := (List.dropWhile_sublist (l := text.reverse) isEdge).reverse
    rwa [List.reverse_reverse] at hsublist
  exact List.filter_sublist.trans ((hend _).trans (List.dropWhile_sublist isEdge))

theorem sublist_span_loop (p : Char → Bool) (cs front : List Char) :
    (List.span.loop p cs front).2.Sublist cs := by
  induction cs generalizing front with
  | nil => exact List.Sublist.refl []
  | cons c cs ih =>
    have hstep : List.span.loop p (c :: cs) front =
        match p c with
        | true => List.span.loop p cs (c :: front)
        | false => (front.reverse, c :: cs) := rfl
    rw [hstep]
    cases p c with
    | true => exact (ih _).cons c
    | false => exact List.Sublist.refl _

theorem sublist_of_splitScheme? {cs scheme rest : List Char}
    (h : splitScheme? cs = some (scheme, rest)) : (':' :: rest).Sublist cs := by
  unfold splitScheme? at h
  split at h
  · split at h
    · rename_i name later hspan
      cases h
      have hback : (cs.span isSchemeChar).2 = ':' :: rest := congrArg Prod.snd hspan
      exact hback ▸ sublist_span_loop isSchemeChar cs []
    · cases h
  · cases h

theorem colons_readPath (kind : Kind) (cs : List Char) : (readPath kind cs).colons = 0 := by
  unfold readPath
  split <;> rfl

theorem colons_afterSlashes {scheme cs : List Char} {u : Url} (h : afterSlashes scheme cs = .ok u) :
    u.path.colons = 0 := by
  unfold afterSlashes at h
  cases hread : readAuthority scheme cs with
  | error fault =>
    rw [hread] at h
    cases h
  | ok p =>
    rw [hread] at h
    cases h
    exact colons_readPath _ _

/-- A file has an authority and a path of segments. -/
theorem exists_of_readFile {cs : List Char} {u : Url} (h : readFile cs = .ok u) :
    ∃ a parts query fragment,
      u = ⟨"file".toList, some a, .segments parts, query, fragment⟩ := by
  unfold readFile at h
  dsimp only at h
  split at h
  · split at h
    · split at h
      · cases h
        exact ⟨_, _, _, _, rfl⟩
      · rename_i rest _ _
        cases hhost : readFileHost (rest.span (!endsAuthority .file ·)).1 with
        | error fault =>
          rw [hhost] at h
          cases h
        | ok host =>
          rw [hhost] at h
          cases h
          exact ⟨_, _, _, _, rfl⟩
    · cases h
      exact ⟨_, _, _, _, rfl⟩
  · cases h
    exact ⟨_, _, _, _, rfl⟩

theorem colons_afterScheme {scheme cs : List Char} {u : Url} (h : afterScheme scheme cs = .ok u) :
    u.path.colons ≤ cs.count ':' + 1 := by
  unfold afterScheme at h
  split at h
  · obtain ⟨_, _, _, _, rfl⟩ := exists_of_readFile h
    exact Nat.zero_le _
  · rw [colons_afterSlashes h]
    exact Nat.zero_le _
  · unfold readGeneral at h
    split at h
    · rw [colons_afterSlashes h]
      exact Nat.zero_le _
    · cases h
      exact Nat.zero_le _
    · cases h
      -- The text that has been read is kept but for a query and a fragment, and encoded.
      exact Nat.succ_le_succ (Nat.le_trans (count_percentEncode_le _ _)
        ((sublist_cutTail .general cs).count_le ':'))

/-- A URL has fewer colons left in its path than there are in its text. -/
theorem colons_of_parse {cs : List Char} {u : Url} (h : parse cs = .ok u) :
    u.path.colons ≤ cs.count ':' := by
  unfold parse at h
  split at h
  · rename_i scheme rest hsplit
    -- The colon behind the scheme is not one of those left.
    have hcolon := (sublist_of_splitScheme? hsplit).trans (sublist_clean cs)
    have hcount := hcolon.count_le ':'
    rw [List.count_cons_self] at hcount
    exact Nat.le_trans (colons_afterScheme h) hcount
  · cases h

/-- A text that begins with a slash is no URL. -/
theorem parse_slash (cs : List Char) : parse ('/' :: cs) = .error .relativeWithoutBase := by
  have hend : Text.dropEnd isEdge ('/' :: cs) = '/' :: Text.dropEnd isEdge cs := by
    -- The slash stays at the front even if all behind it is dropped.
    rw [Text.dropEnd, List.reverse_cons, List.dropWhile_append]
    split
    · rename_i hempty
      rw [Text.dropEnd, List.isEmpty_iff.mp hempty]
      rfl
    · rw [List.reverse_append]
      rfl
  have hclean : clean ('/' :: cs) = '/' :: (Text.dropEnd isEdge cs).filter (!isUnseen ·) := by
    have hfirst : ('/' :: cs).dropWhile isEdge = '/' :: cs := rfl
    rw [clean, hfirst, hend]
    rfl
  rw [parse, hclean]
  rfl

theorem parse_writeSegments (parts : List (List Char)) :
    parse (writeSegments parts) = .error .relativeWithoutBase := by
  cases parts with
  | nil => rfl
  | cons first rest => exact parse_slash (first ++ writeSegments rest)

theorem colons_lt_of_parse {u inner : Url} (h : parse u.pathText = .ok inner) :
    inner.path.colons < u.path.colons := by
  have hle := colons_of_parse h
  rw [pathText] at h hle
  cases hpath : u.path with
  | text cs =>
    rw [hpath] at hle
    exact Nat.lt_succ_of_le hle
  | segments parts =>
    rw [hpath] at h
    cases (parse_writeSegments parts).symm.trans h

/-! ### Origins -/

/-- Scheme, host and port of a special URL. A blob: URL has the origin of the URL that is its path;
all others share theirs with none. -/
def origin? (u : Url) : Option (List Char × Option Host × Option Nat) :=
  if u.kind = .special then some (u.scheme, u.host?, u.effectivePort?)
  else if u.scheme = "blob".toList then
    match _h : parse u.pathText with
    | .ok inner => origin? inner
    | .error _ => none
  else none
termination_by u.path.colons
decreasing_by exact colons_lt_of_parse _h

end ChatRelay.Url
