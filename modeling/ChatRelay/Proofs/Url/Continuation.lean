import ChatRelay.Proofs.Url.Written

/-!
What a URL is read as with a path and a query put behind its text. They go on with the path of the
URL, if it has neither query nor fragment; otherwise they are swallowed by the one or the other;
and blanks at the end of the authority leave no URL at all.
-/

namespace ChatRelay.Url

/-- The segments of a path and a query as reading leaves them. -/
structure Settling (later : List (List Char)) (query : Option (List Char)) : Prop where
  nonempty : later ≠ []
  segments : ∀ s ∈ later, Settled s
  query : ∀ text ∈ query, ∀ c ∈ text, specialQuerySet c = false

def writeTail (later : List (List Char)) (query : Option (List Char)) : List Char :=
  writeSegments later ++ writePart '?' query

/-- How paths and queries are read behind a text that is itself read as a URL. -/
inductive Continued (cs : List Char) (base : Url) : Prop where
  | path (front : List (List Char))
      (h : ∀ later query, Settling later query →
        parse (Gate.trimSlashes cs ++ writeTail later query) =
          .ok { base with path := .segments (front ++ later), query, fragment := none })
  | query (whole : base.fragment = none)
      (h : ∀ later query, Settling later query → ∃ text,
        (writeTail later query).length ≤ text.length ∧
        parse (Gate.trimSlashes cs ++ writeTail later query) =
          .ok { base with query := some text })
  | fragment (hidden : base.fragment.isSome = true)
      (h : ∀ later query, Settling later query → ∃ text,
        parse (Gate.trimSlashes cs ++ writeTail later query) =
          .ok { base with fragment := some text })
  | nothing (whole : base.fragment = none)
      (h : ∀ later query, Settling later query → ∃ fault,
        parse (Gate.trimSlashes cs ++ writeTail later query) = .error fault)

/-! ### Texts behind a URL -/

/-- A slash alone is the shortest path. -/
theorem settling_root : Settling [[]] none where
  nonempty := List.cons_ne_nil _ _
  segments := List.forall_mem_singleton.mpr settled_nil
  query := fun _ h => nomatch h

section Tail

variable {later : List (List Char)} {query : Option (List Char)}

theorem Settling.exists_cons (h : Settling later query) :
    ∃ rest, writeTail later query = '/' :: rest := by
  obtain ⟨first, more, rfl⟩ := List.exists_cons_of_ne_nil h.nonempty
  rw [writeTail, writeSegments_cons, List.cons_append, List.cons_append]
  exact ⟨_, rfl⟩

theorem Settling.terminated (h : Settling later query) : Terminated (writeTail later query) := by
  obtain ⟨rest, hrest⟩ := h.exists_cons
  rw [hrest]
  exact terminated_cons (by decide) rest

/-- Nothing in such a text is dropped, and no fragment begins in it. -/
theorem Settling.of_mem (h : Settling later query) :
    ∀ c ∈ writeTail later query, 0x20 < c.toNat ∧ c ≠ '#' := by
  refine List.forall_mem_append.mpr ⟨fun c hc => ?_, of_mem_writePart h.query⟩
  obtain ⟨hlow, hhash, -⟩ := of_mem_writeSegments h.segments c hc
  exact ⟨hlow, hhash⟩

end Tail

/-! ### Queries and fragments -/

section Tails

variable {kind : Kind}

theorem cutTail_fragment {before : List Char} (h : '#' ∉ before) (after : List Char) :
    cutTail kind (before ++ '#' :: after) =
      ((cutQuery kind before).1, (cutQuery kind before).2,
        some (percentEncode fragmentSet after)) := by
  simp only [cutTail, cutFragment, Text.splitOnce_append_cons h]

theorem cutTail_query {before after : List Char} (hmark : '?' ∉ before)
    (h : '#' ∉ before ++ '?' :: after) : cutTail kind (before ++ '?' :: after) =
      (before, some (readQuery kind after), none) := by
  simp only [cutTail, cutFragment, Text.splitOnce_of_not_mem h, cutQuery,
    Text.splitOnce_append_cons hmark]

theorem cutTail_plain {cs : List Char} (hhash : '#' ∉ cs) (hmark : '?' ∉ cs) :
    cutTail kind cs = (cs, none, none) := by
  simp only [cutTail, cutFragment, Text.splitOnce_of_not_mem hhash, cutQuery,
    Text.splitOnce_of_not_mem hmark]

end Tails

/-! ### A URL taken apart -/

/-- What is shared by the text of a special URL and the texts with something behind it: all up to
the end of the authority, and what begins the path. The one then ends with slashes, the others may
go on with blanks. -/
structure Shared (cs : List Char) (base : Url) (a : Authority)
    (whole tail slashes edges : List Char) : Prop where
  special : kindOf base.scheme = .special
  unbroken : Unbroken whole
  terminated : Terminated tail
  only_slashes : ∀ c ∈ slashes, c = '/'
  only_edges : Edges edges
  authority : readAuthority base.scheme whole = .ok (a, [])
  base_eq : base = ⟨base.scheme, some a, readPath .special (cutTail .special (tail ++ slashes)).1,
    (cutTail .special (tail ++ slashes)).2.1, (cutTail .special (tail ++ slashes)).2.2⟩
  parse_eq : ∀ later query, Settling later query →
    parse (Gate.trimSlashes cs ++ writeTail later query) =
      afterSlashes base.scheme (whole ++ (tail ++ edges ++ writeTail later query))

theorem exists_shared {cs : List Char} {base : Url} (hbase : parse cs = .ok base)
    (hs : kindOf base.scheme = .special) :
    ∃ a whole tail slashes edges, Shared cs base a whole tail slashes edges := by
  obtain ⟨body, slashes, edges, hslashes, he, hread, hpath⟩ := exists_body hbase hs
  obtain ⟨whole, tail, rfl, hw, ht⟩ := exists_authority body
  -- The slashes that are cut off may be all that stands behind the authority.
  have hclosed : Terminated (tail ++ slashes) := by
    by_cases htail : tail = []
    · rw [htail, List.nil_append]
      exact terminated_of_slashes hslashes
    · exact terminated_append htail ht slashes
  rw [List.append_assoc] at hread
  obtain ⟨a, rest, ha, -, -⟩ := exists_readAuthority hread
  -- What the authority is read as does not depend on the text behind it.
  replace ha := readAuthority_of_append hs hw hclosed ha
  rw [afterSlashes_append hs hw ha hclosed] at hread
  refine ⟨a, whole, tail, slashes, edges, hs, hw, ht, hslashes, he, ha,
    (Except.ok.inj hread).symm, fun later query h => ?_⟩
  -- The text that is appended begins with a slash and has no blanks that reading would drop.
  have hlow := h.of_mem
  obtain ⟨rest, hrest⟩ := h.exists_cons
  rw [hrest] at hlow ⊢
  rw [hpath, dropEnd_filter_eq_self fun c hc => (hlow c (List.mem_cons_of_mem _ hc)).1]
  simp only [List.append_assoc]

namespace Shared

variable {cs : List Char} {base : Url} {a : Authority} {whole tail slashes edges : List Char}
  {later : List (List Char)} {query : Option (List Char)}

theorem not_mem_slashes (h : Shared cs base a whole tail slashes edges) {c : Char} (hc : c ≠ '/') :
    c ∉ slashes :=
  fun hm => hc (h.only_slashes c hm)

theorem not_mem_edges (h : Shared cs base a whole tail slashes edges) {c : Char}
    (hc : 0x20 < c.toNat) : c ∉ edges :=
  fun hm => absurd (h.only_edges c hm) (Nat.not_le.mpr hc)

/-- Blanks that stand in the authority leave no URL. -/
theorem continued_nothing (h : Shared cs base a whole [] slashes edges) (hedges : edges ≠ []) :
    Continued cs base := by
  have hunbroken : Unbroken (whole ++ edges) := fun c hc =>
    (List.mem_append.mp hc).elim (h.unbroken c) (unbroken_of_edges h.only_edges c)
  have hbase := h.base_eq
  -- Nothing but slashes is left behind the authority, so that the URL has no fragment to hide in.
  rw [List.nil_append, cutTail_plain (h.not_mem_slashes (by decide))
    (h.not_mem_slashes (by decide))] at hbase
  refine .nothing (by rw [hbase]) fun later query hl => ?_
  obtain ⟨fault, hfault⟩ := readAuthority_append_edges h.special h.unbroken h.only_edges hedges
  refine ⟨fault, ?_⟩
  rw [h.parse_eq later query hl, List.nil_append, ← List.append_assoc, afterSlashes,
    readAuthority_append h.special hunbroken hl.terminated, hfault]
  rfl

/-- In all other cases the authority ends where it does in the URL itself. -/
theorem parse_tail (h : Shared cs base a whole tail slashes edges) (hopen : tail = [] → edges = [])
    (hl : Settling later query) :
    parse (Gate.trimSlashes cs ++ writeTail later query) = .ok ⟨base.scheme, some a,
      readPath .special (cutTail .special (tail ++ edges ++ writeTail later query)).1,
      (cutTail .special (tail ++ edges ++ writeTail later query)).2.1,
      (cutTail .special (tail ++ edges ++ writeTail later query)).2.2⟩ := by
  rw [h.parse_eq later query hl]
  apply afterSlashes_append h.special h.unbroken h.authority
  rw [List.append_assoc]
  by_cases htail : tail = []
  · -- Then what is appended is what ends the authority.
    rw [htail, hopen htail]
    exact hl.terminated
  · exact terminated_append htail h.terminated _

/-- What stands behind a hash sign makes no difference to path and query. -/
theorem continued_fragment (h : Shared cs base a whole tail slashes edges) (hhash : '#' ∈ tail) :
    Continued cs base := by
  have hopen : tail = [] → edges = [] := fun htail =>
    absurd (htail ▸ hhash) List.not_mem_nil
  have hbase := h.base_eq
  have hparse {later query} (hl : Settling later query) := h.parse_tail hopen hl
  obtain ⟨before, after, rfl, hbefore⟩ := List.eq_append_cons_of_mem hhash
  rw [List.append_assoc, List.cons_append, cutTail_fragment hbefore] at hbase
  refine .fragment (by rw [hbase]; rfl) fun later query hl =>
    ⟨percentEncode fragmentSet (after ++ edges ++ writeTail later query), ?_⟩
  rw [hparse hl, List.append_assoc, List.append_assoc, List.cons_append,
    cutTail_fragment hbefore, hbase, List.append_assoc]

theorem not_mem_whole (h : Shared cs base a whole tail slashes edges) (hhash : '#' ∉ tail)
    (hl : Settling later query) : '#' ∉ tail ++ edges ++ writeTail later query := by
  rw [List.mem_append, List.mem_append, not_or, not_or]
  exact ⟨⟨hhash, h.not_mem_edges (by decide)⟩, fun hm => (hl.of_mem '#' hm).2 rfl⟩

/-- What stands behind a question mark goes on with the query. -/
theorem continued_query (h : Shared cs base a whole tail slashes edges) (hhash : '#' ∉ tail)
    (hmark : '?' ∈ tail) : Continued cs base := by
  have hopen : tail = [] → edges = [] := fun htail =>
    absurd (htail ▸ hmark) List.not_mem_nil
  have hbase := h.base_eq
  have hparse {later query} (hl : Settling later query) := h.parse_tail hopen hl
  have htext {later query} (hl : Settling later query) := h.not_mem_whole hhash hl
  have hslash : '#' ∉ slashes := h.not_mem_slashes (by decide)
  obtain ⟨before, after, rfl, hbefore⟩ := List.eq_append_cons_of_mem hmark
  have hplain : '#' ∉ before ++ '?' :: (after ++ slashes) := by
    rw [← List.cons_append, ← List.append_assoc, List.mem_append, not_or]
    exact ⟨hhash, hslash⟩
  rw [List.append_assoc, List.cons_append, cutTail_query hbefore hplain] at hbase
  refine .query (by rw [hbase]) fun later query hl =>
    ⟨readQuery .special (after ++ edges ++ writeTail later query), ?_, ?_⟩
  · -- The query holds all that has been appended, and escaping makes it no shorter.
    refine Nat.le_trans ?_ (length_le_length_percentEncode _ _)
    rw [List.length_append]
    exact Nat.le_add_left _ _
  · have hwhole := htext hl
    rw [List.append_assoc, List.append_assoc, List.cons_append] at hwhole
    rw [hparse hl, List.append_assoc, List.append_assoc, List.cons_append,
      cutTail_query hbefore hwhole, hbase, List.append_assoc]

/-- A path that nothing has ended goes on. -/
theorem continued_path (h : Shared cs base a whole tail slashes edges)
    (hopen : tail = [] → edges = []) (hhash : '#' ∉ tail) (hmark : '?' ∉ tail) : Continued cs base := by
  -- Of what can end an authority, only a slash is left to begin the text behind it.
  have hbegins : ∀ c ∈ (tail ++ edges).head?, isSlash .special c = true := by
    intro c hc
    cases tail with
    | nil =>
      rw [hopen rfl] at hc
      cases hc
    | cons d tail =>
      obtain rfl : d = c := Option.some.inj hc
      have hend := h.terminated d rfl
      rw [List.mem_cons, not_or] at hhash hmark
      simp only [endsAuthority, Bool.or_eq_true, beq_iff_eq] at hend
      exact (hend.resolve_right (Ne.symm hhash.1)).resolve_right (Ne.symm hmark.1)
  have hfront : '#' ∉ tail ++ edges ∧ '?' ∉ tail ++ edges := by
    rw [List.mem_append, List.mem_append, not_or, not_or]
    exact ⟨⟨hhash, h.not_mem_edges (by decide)⟩, ⟨hmark, h.not_mem_edges (by decide)⟩⟩
  have hauthority : base.authority = some a := by rw [h.base_eq]
  obtain ⟨front, hpaths⟩ := exists_readPath_append hbegins
  refine .path front fun later query hl => ?_
  rw [h.parse_tail hopen hl, writeTail, ← List.append_assoc,
    cutTail_written hfront hl.segments hl.query, hpaths later hl.nonempty hl.segments, hauthority]

end Shared

/-- Behind every special URL paths and queries are read in one of the four ways. -/
theorem continued_of_parse {cs : List Char} {base : Url} (hbase : parse cs = .ok base)
    (hs : kindOf base.scheme = .special) : Continued cs base := by
  obtain ⟨a, whole, tail, slashes, edges, h⟩ := exists_shared hbase hs
  -- The first mark in the text decides, unless blanks have spoilt the authority before it.
  by_cases hblank : tail = [] ∧ edges ≠ []
  · obtain ⟨rfl, hedges⟩ := hblank
    exact h.continued_nothing hedges
  have hopen : tail = [] → edges = [] := by
    intro htail
    by_contra hedges
    exact hblank ⟨htail, hedges⟩
  by_cases hhash : '#' ∈ tail
  · exact h.continued_fragment hhash
  by_cases hmark : '?' ∈ tail
  · exact h.continued_query hhash hmark
  · exact h.continued_path hopen hhash hmark

end ChatRelay.Url
