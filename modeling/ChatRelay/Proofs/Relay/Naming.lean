import ChatRelay.Proofs.Gate.Fidelity
import ChatRelay.Proofs.Url.Form
import ChatRelay.Proofs.Url.Query
import ChatRelay.Relay.Exchange

/-!
The conversation that a query names, before the gate and behind it. A path that has nothing in it
that reading drops is normalized with its query behind it, and what is encoded of the query changes
none of its pairs.
-/

namespace ChatRelay

open Url (Bare asking writePart)
open Url.Form (pairs writePairs)

/-! ### Paths with a query -/

namespace Gate

variable {cs : List Char} {query : Option (List Char)}

/-- The checks of a path that has been read do not look at its query. -/
theorem normalize?_of_join_eq {kind : Url.Kind} {cs' : List Char}
    (h : localOrigin.join cs' = (localOrigin.join cs).map (asking kind query)) :
    normalize? cs' = (normalize? cs).map (asking kind query) := by
  unfold normalize?
  rw [h]
  cases localOrigin.join cs with
  | error fault => rfl
  | ok url =>
    have horigin : (asking kind query url).origin? = url.origin? := Url.origin?_congr rfl rfl rfl
    have hname : (asking kind query url).username = url.username := rfl
    have hpassword : (asking kind query url).password? = url.password? := rfl
    simp only [Except.map, Except.toOption, bind, Option.bind_some, horigin, hname, hpassword]
    split <;> rfl

section Schemes

variable {scheme rest : List Char} (hsplit : Url.splitScheme? (Url.clean cs) = some (scheme, rest))
include hsplit

/-- A scheme that is not special is not the one of the local origin. -/
theorem join_of_scheme (hscheme : Url.kindOf scheme ≠ .special) :
    localOrigin.join cs = Url.afterScheme scheme rest := by
  have hother : ¬ (scheme = localOrigin.scheme) := by
    rintro rfl
    exact hscheme (by decide)
  simp only [Url.join, hsplit, hother, decide_false, Bool.false_and, Bool.false_eq_true, if_false]

theorem normalize?_eq_none (hscheme : Url.kindOf scheme ≠ .special)
    (h : ∀ url, Url.afterScheme scheme rest = .ok url → url.origin? = none) :
    normalize? cs = none := by
  rw [Option.eq_none_iff_forall_ne_some]
  intro url hurl
  have hread := (join_of_normalize? hurl).1
  rw [join_of_scheme hsplit hscheme] at hread
  exact origin?_of_normalize? hurl (h url hread)

theorem normalize?_of_file (hscheme : Url.kindOf scheme = .file) : normalize? cs = none := by
  apply normalize?_eq_none hsplit (by rw [hscheme]; decide)
  intro url hread
  rw [Url.afterScheme, hscheme] at hread
  exact Url.origin?_of_file (Url.scheme_readFile hread)

/-- With a slash behind its scheme, a URL that is not special has no origin. -/
theorem normalize?_of_slash (hscheme : Url.kindOf scheme = .general)
    (hslash : rest.head? = some '/') : normalize? cs = none := by
  obtain ⟨text, rfl⟩ := List.head?_eq_some_iff.mp hslash
  apply normalize?_eq_none hsplit (by rw [hscheme]; decide)
  intro url hread
  rw [Url.afterScheme, hscheme] at hread
  exact Url.origin?_readGeneral hscheme hread

end Schemes

/-- A path without a query is normalized alike with one behind it, but for the query. -/
theorem normalize?_append_writePart (bare : Bare cs) (hash : '#' ∉ writePart '?' query)
    (low : ∀ c ∈ cs ++ writePart '?' query, 0x20 < c.toNat) :
    ∃ kind, normalize? (cs ++ writePart '?' query) = (normalize? cs).map (asking kind query) := by
  have hkind : Url.kindOf localOrigin.scheme = .special := by decide
  have hclean := Url.clean_eq_self low
  have hclean' := Url.clean_eq_self fun c hc => low c (List.mem_append_left _ hc)
  have hsplit := Url.splitScheme?_append_writePart cs query
  cases hscheme : Url.splitScheme? cs with
  | none =>
    rw [hscheme] at hsplit
    refine ⟨.special, normalize?_of_join_eq ?_⟩
    simp only [Url.join, hclean, hclean', hsplit, hscheme, Option.map_none]
    exact Url.relative_append_writePart hkind rfl bare hash
  | some parts =>
    obtain ⟨scheme, rest⟩ := parts
    rw [hscheme] at hsplit
    obtain ⟨name, hname, -⟩ := Url.splitScheme?_eq_some_iff.mp hscheme
    have hrest : Bare rest := bare.of_suffix (hname.trans (List.append_cons name ':' rest))
    rw [← hclean'] at hscheme
    rw [← hclean, Option.map_some] at hsplit
    cases hspecial : Url.kindOf scheme with
    | special =>
      obtain ⟨htake, hdrop⟩ :=
        Url.span_append_writePart (p := Url.isSlash .special) rfl rest query
      refine ⟨.special, normalize?_of_join_eq ?_⟩
      simp only [Url.join, hsplit, hscheme, htake]
      split
      · exact Url.relative_append_writePart hkind rfl hrest hash
      · have hafter : Bare (rest.dropWhile (Url.isSlash .special)) :=
          hrest.of_suffix List.takeWhile_append_dropWhile.symm
        simp only [Url.afterScheme, hspecial, hdrop]
        exact Url.afterSlashes_append_writePart hspecial hafter hash
    | file =>
      -- A file has no origin, with a query or without.
      refine ⟨.file, ?_⟩
      rw [normalize?_of_file hsplit hspecial, normalize?_of_file hscheme hspecial]
      rfl
    | general =>
      refine ⟨.general, ?_⟩
      by_cases hslash : rest.head? = some '/'
      · have hslash' : (rest ++ writePart '?' query).head? = some '/' := by
          rw [List.head?_append, hslash]
          rfl
        rw [normalize?_of_slash hsplit hspecial hslash', normalize?_of_slash hscheme hspecial hslash]
        rfl
      · have hother : Url.kindOf scheme ≠ .special := by
          rw [hspecial]
          decide
        apply normalize?_of_join_eq
        rw [join_of_scheme hsplit hother, join_of_scheme hscheme hother, Url.afterScheme,
          Url.afterScheme, hspecial]
        exact Url.readGeneral_append_writePart hslash hrest hash

/-- The gate judges a path alike with a query behind it, and passes the query on encoded. -/
theorem Allowlist.resolve_append_writePart (a : Allowlist) (hne : cs ≠ []) (bare : Bare cs)
    (hash : '#' ∉ writePart '?' query) (low : ∀ c ∈ cs ++ writePart '?' query, 0x20 < c.toNat) :
    ∃ kind, a.resolve (cs ++ writePart '?' query) =
      (a.resolve cs).map fun t => { t with query := query.map (Url.readQuery kind) } := by
  have hne' : cs ++ writePart '?' query ≠ [] := by
    intro hnil
    exact hne (List.append_eq_nil_iff.mp hnil).1
  obtain ⟨kind, hnormal⟩ := normalize?_append_writePart bare hash low
  refine ⟨kind, ?_⟩
  rw [resolve_of_ne_nil a hne', resolve_of_ne_nil a hne, hnormal]
  cases normalize? cs with
  | none => rfl
  | some url =>
    have hpath : (asking kind query url).pathText = url.pathText := rfl
    simp only [Option.map_some, hpath]
    cases (a.root ++ ['/']).isPrefixOf? url.pathText with
    | none => rfl
    | some rest =>
      dsimp only
      split
      · rfl
      split
      · rfl
      · rfl

end Gate

namespace Relay

/-- What follows the first question mark of a path. -/
def rawQuery (path : List Char) : Option (List Char) :=
  (Text.splitOnce '?' path).map (·.2)

theorem exists_front {path : List Char} (h : '#' ∉ path) :
    ∃ front, path = front ++ writePart '?' (rawQuery path) ∧ Bare front := by
  by_cases hmark : '?' ∈ path
  · obtain ⟨front, query, hpath, hfront⟩ := List.eq_append_cons_of_mem hmark
    have hquery : rawQuery path = some query := by
      rw [hpath, rawQuery, Text.splitOnce_append_cons hfront]
      rfl
    refine ⟨front, by rw [hquery]; exact hpath, hfront, fun hm => h ?_⟩
    rw [hpath]
    exact List.mem_append_left _ hm
  · have hquery : rawQuery path = none := by
      rw [rawQuery, Text.splitOnce_of_not_mem hmark]
      rfl
    exact ⟨path, by rw [hquery, writePart, List.append_nil], hmark, h⟩

/-- A pair that names a conversation. -/
def isNaming (p : String × String) : Bool := conversationKeys.contains p.1 && p.2 != ""

theorem isNaming_iff {p : String × String} :
    isNaming p = true ↔ p.1 ∈ conversationKeys ∧ p.2 ≠ "" := by
  rw [isNaming, Bool.and_eq_true, List.contains_iff_mem, bne_iff_ne]

theorem conversationOfQuery_some (query : List Char) :
    conversationOfQuery (some query) = ((pairs query).find? isNaming).map (·.2) := by
  have hfind : conversationOfQuery (some query) =
      ((pairs query).find? isNaming).bind fun p => some p.2 := rfl
  rw [hfind]
  cases (pairs query).find? isNaming <;> rfl

/-- Encoding a query does not change the conversation that it names. -/
theorem conversationOfQuery_readQuery (kind : Url.Kind) (query : Option (List Char)) :
    conversationOfQuery (query.map (Url.readQuery kind)) = conversationOfQuery query := by
  cases query with
  | none => rfl
  | some query =>
    rw [Option.map_some, conversationOfQuery_some, conversationOfQuery_some,
      Url.Form.pairs_readQuery]

/-- The query that the gate passes on is the one behind the path, encoded. -/
theorem query_of_resolve {a : Gate.Allowlist} {path : List Char} {t : Gate.Target}
    (visible : ∀ c ∈ path, 0x20 < c.toNat ∧ c ≠ '#') (h : a.resolve path = .ok t) :
    ∃ kind, t.query = (rawQuery path).map (Url.readQuery kind) := by
  have hhash : '#' ∉ path := fun hm => (visible '#' hm).2 rfl
  obtain ⟨front, hpath, bare⟩ := exists_front hhash
  obtain ⟨-, url, rest, hurl, -, -, -, rfl⟩ := Gate.Allowlist.resolve_eq_ok_iff.mp h
  have hquery : '#' ∉ writePart '?' (rawQuery path) := by
    intro hm
    apply hhash
    rw [hpath]
    exact List.mem_append_right _ hm
  have hlow : ∀ c ∈ front ++ writePart '?' (rawQuery path), 0x20 < c.toNat := by
    rw [← hpath]
    exact fun c hc => (visible c hc).1
  -- The URL of the path is that of what stands before the question mark, with this query.
  obtain ⟨kind, hnormal⟩ := Gate.normalize?_append_writePart bare hquery hlow
  rw [← hpath, hurl] at hnormal
  obtain ⟨url', -, hurl'⟩ := Option.map_eq_some_iff.mp hnormal.symm
  refine ⟨kind, ?_⟩
  rw [← hurl']
  rfl

/-- An id that is written behind parameters of other names is the one that the query names. -/
theorem conversationOfQuery_writePairs {params : List (String × String)} {key id : String}
    (others : ∀ p ∈ params, p.1 ∉ conversationKeys) (named : key ∈ conversationKeys)
    (hid : id ≠ "") :
    conversationOfQuery (some (writePairs (params ++ [(key, id)]))) = some id := by
  have hnone : params.find? isNaming = none := by
    rw [List.find?_eq_none]
    intro p hp hnaming
    exact others p hp (isNaming_iff.mp hnaming).1
  have hlast : isNaming (key, id) = true := isNaming_iff.mpr ⟨named, hid⟩
  rw [conversationOfQuery_some, Url.Form.pairs_writePairs, List.find?_append, hnone, Option.none_or,
    List.find?_cons_of_pos hlast]
  rfl

/-- The gate leaves the conversation that a query names: it is the same in what is passed on. An
id that a form writes behind parameters of other names comes out as it is, whatever its text. -/
theorem conversationOfQuery_resolve {a : Gate.Allowlist} {path : List Char} {t : Gate.Target}
    (visible : ∀ c ∈ path, 0x20 < c.toNat ∧ c ≠ '#') (h : a.resolve path = .ok t) :
    conversationOfQuery t.query = conversationOfQuery (rawQuery path) ∧
      ('?' ∉ path → ∀ (params : List (String × String)) (key id : String),
        (∀ p ∈ params, p.1 ∉ ["conversationId", "session"]) →
        key ∈ ["conversationId", "session"] → id ≠ "" →
        ∃ t', a.resolve (path ++ '?' :: writePairs (params ++ [(key, id)])) = .ok t' ∧
          t'.path = t.path ∧ t'.backendPath = t.backendPath ∧
          conversationOfQuery t'.query = some id) := by
  constructor
  · obtain ⟨kind, hquery⟩ := query_of_resolve visible h
    rw [hquery, conversationOfQuery_readQuery]
  · intro hmark params key id others named hid
    have bare : Bare path := ⟨hmark, fun hm => (visible '#' hm).2 rfl⟩
    have hne : path ≠ [] := (Gate.Allowlist.resolve_eq_ok_iff.mp h).1
    -- What a form writes is neither dropped nor encoded again.
    have hwritten : ∀ c ∈ writePart '?' (some (writePairs (params ++ [(key, id)]))),
        0x20 < c.toNat ∧ c ≠ '#' :=
      Url.of_mem_writePart fun text htext c hc =>
        Url.Form.specialQuerySet_of_mem_writePairs (Option.some.inj htext ▸ hc)
    have hlow : ∀ c ∈ path ++ writePart '?' (some (writePairs (params ++ [(key, id)]))),
        0x20 < c.toNat :=
      List.forall_mem_append.mpr ⟨fun c hc => (visible c hc).1, fun c hc => (hwritten c hc).1⟩
    obtain ⟨kind, hresolve⟩ :=
      a.resolve_append_writePart hne bare (fun hm => (hwritten '#' hm).2 rfl) hlow
    rw [h] at hresolve
    refine ⟨_, hresolve, rfl, rfl, ?_⟩
    rw [conversationOfQuery_readQuery]
    exact conversationOfQuery_writePairs others named hid

/-- Of a given path it can be computed that no character of it is a blank, a control or a hash. -/
theorem visible_of_all {cs : List Char}
    (h : cs.all (fun c => 0x20 < c.toNat ∧ c ≠ '#') = true) :
    ∀ c ∈ cs, 0x20 < c.toNat ∧ c ≠ '#' :=
  fun c hc => of_decide_eq_true (List.all_eq_true.mp h c hc)

def callList : Gate.Allowlist := ⟨"/api".toList, ["/call".toList]⟩

/-- A query with percent signs before what is encoded, a plus, a key in another case, and an empty
name before two that are not. -/
def crowdedPath : List Char :=
  "/api/./call?a=%é&Session=x&session=&conversationId=%'%2é%41+\"%&session=b".toList

def crowdedTarget : Gate.Target where
  path := "/api/call".toList
  backendPath := "/call".toList
  query := some
    "a=%%C3%A9&Session=x&session=&conversationId=%%27%2%C3%A9%41+%22%&session=b".toList

def plainTarget : Gate.Target := ⟨"/api/call".toList, "/call".toList, none⟩

theorem conversationOfQuery_crowdedPath :
    (∀ c ∈ crowdedPath, 0x20 < c.toNat ∧ c ≠ '#') ∧
      callList.resolve crowdedPath = .ok crowdedTarget ∧
      conversationOfQuery crowdedTarget.query = conversationOfQuery (rawQuery crowdedPath) ∧
      conversationOfQuery crowdedTarget.query = some "%'%2éA \"%" ∧
      callList.resolve "/api/call".toList = .ok plainTarget ∧
      ∃ t, callList.resolve
          ("/api/call".toList ++ '?' :: writePairs [("a b", "&=é"), ("session", "ü+ %26")]) =
          .ok t ∧
        t.backendPath = "/call".toList ∧ conversationOfQuery t.query = some "ü+ %26" := by
  have hvisible : ∀ c ∈ crowdedPath, 0x20 < c.toNat ∧ c ≠ '#' :=
    visible_of_all (by decide +kernel)
  have hresolve : callList.resolve crowdedPath = .ok crowdedTarget := by decide +kernel
  have hname : conversationOfQuery crowdedTarget.query = some "%'%2éA \"%" := by decide +kernel
  have hplain : ∀ c ∈ "/api/call".toList, 0x20 < c.toNat ∧ c ≠ '#' :=
    visible_of_all (by decide)
  have hpath : callList.resolve "/api/call".toList = .ok plainTarget := by decide +kernel
  obtain ⟨t, ht, -, hbackend, hid⟩ := (conversationOfQuery_resolve hplain hpath).2 (by decide)
    [("a b", "&=é")] "session" "ü+ %26" (by decide) (by decide) (by decide)
  exact ⟨hvisible, hresolve, (conversationOfQuery_resolve hvisible hresolve).1, hname, hpath, t, ht,
    hbackend, hid⟩

end Relay

end ChatRelay
