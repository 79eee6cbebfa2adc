import ChatRelay.Proofs.Gate.Confinement
import ChatRelay.Proofs.Url.Origin
import ChatRelay.Proofs.Url.Written

/-!
What the gate has checked is what the backend is asked for. The path that the gate lets through
is put behind the backend's URL and read a second time; path and query then come out as they
were checked, if the URL of the backend is one that reading does not change either. A root without
a slash in front is met by the path of a blob: URL alone, which is text that nothing has resolved.
-/

namespace ChatRelay.Gate

open Url (Settled Standard readAuthority writeSegments)

/-- The URL of an HTTP backend that is written as it is read, but for slashes at its end, and
that has neither query nor fragment. -/
structure Serialized (backend : List Char) (base : Url) : Prop where
  parse : Url.parse backend = .ok base
  http : isHttp base.scheme = true
  written : trimSlashes backend = trimSlashes base.write
  query : base.query = none
  fragment : base.fragment = none

/-- A root that is empty or begins with a slash, as the path of every special URL does. -/
def Allowlist.Rooted (a : Allowlist) : Prop := a.root = [] ∨ a.root.head? = some '/'

/-! ### The path that is let through -/

theorem standard_localOrigin : localOrigin.Standard where
  path := ⟨[[]], rfl, List.cons_ne_nil _ _, List.forall_mem_singleton.mpr Url.settled_nil⟩
  query := fun _ h => nomatch h

/-- A path is normalized by reading it relative to the local origin, which is that of the URL. -/
theorem join_of_normalize? {path : List Char} {url : Url} (h : normalize? path = some url) :
    localOrigin.join path = .ok url ∧ url.origin? = localOrigin.origin? := by
  obtain ⟨u, hu, h⟩ := Option.bind_eq_some_iff.mp h
  split at h
  · rename_i hlocal
    obtain rfl := Option.some.inj h
    refine ⟨?_, hlocal.1⟩
    cases hj : localOrigin.join path with
    | error fault =>
      rw [hj] at hu
      cases hu
    | ok v =>
      rw [hj] at hu
      exact congrArg Except.ok (Option.some.inj hu)
  · cases h

theorem origin?_of_normalize? {path : List Char} {url : Url} (h : normalize? path = some url) :
    url.origin? ≠ none := by
  have hlocal : localOrigin.origin? = some ("http".toList, localOrigin.host?, some 80) := by
    rw [Url.origin?_eq]
    rfl
  rw [(join_of_normalize? h).2, hlocal]
  exact Option.some_ne_none _

theorem standard_of_normalize? {path cs : List Char} {url : Url}
    (h : normalize? path = some url) (hpath : url.pathText = '/' :: cs) : url.Standard :=
  Url.standard_join standard_localOrigin (by decide) (join_of_normalize? h).1
    (Url.special_of_origin? (origin?_of_normalize? h) hpath)

theorem Allowlist.Rooted.exists_cons {a : Allowlist} (h : a.Rooted) (rest : List Char) :
    ∃ cs, a.root ++ '/' :: rest = '/' :: cs := by
  rcases h with hroot | hroot
  · exact ⟨rest, by rw [hroot, List.nil_append]⟩
  · obtain ⟨root, hroot⟩ := List.head?_eq_some_iff.mp hroot
    exact ⟨root ++ '/' :: rest, by rw [hroot, List.cons_append]⟩

/-- What is let through is written with settled segments and an encoded query. -/
theorem exists_settled_of_resolve {a : Allowlist} (rooted : a.Rooted) {path : List Char}
    {t : Target} (h : a.resolve path = .ok t) : ∃ parts, parts ≠ [] ∧ (∀ s ∈ parts, Settled s) ∧
      t.backendPath = writeSegments parts ∧
      ∀ query ∈ t.query, ∀ c ∈ query, Url.specialQuerySet c = false := by
  obtain ⟨-, url, rest, hurl, hrest, -, -, rfl⟩ := Allowlist.resolve_eq_ok_iff.mp h
  obtain ⟨cs, hcs⟩ := rooted.exists_cons rest
  obtain ⟨⟨parts, hpath, -, hparts⟩, hquery⟩ := standard_of_normalize? hurl (hrest.trans hcs)
  rw [Url.pathText, hpath, Url.Path.write] at hrest
  obtain ⟨later, hlater, hne, hwrite⟩ :=
    Url.exists_writeSegments_of_append (fun s hs => (hparts s hs).whole) hrest
  exact ⟨later, hne, fun s hs => hparts s (hlater.subset hs), hwrite.symm, hquery⟩

/-- What a root without a slash in front lets through is a blob: URL. -/
theorem scheme_of_not_rooted {a : Allowlist} (unrooted : ¬ a.Rooted) {path : List Char}
    {t : Target} (h : a.resolve path = .ok t) :
    ∃ url, normalize? path = some url ∧ url.scheme = "blob".toList := by
  obtain ⟨-, url, rest, hurl, hrest, -⟩ := Allowlist.resolve_eq_ok_iff.mp h
  refine ⟨url, hurl, ?_⟩
  by_contra hscheme
  have hspecial : url.kind = .special := by
    by_contra hkind
    apply origin?_of_normalize? hurl
    rw [Url.origin?_eq, if_neg hkind, if_neg hscheme]
  -- The path of a special URL begins with a slash, and so would the root.
  obtain ⟨parts, hpath, hne, -⟩ := (Url.standard_join standard_localOrigin (by decide)
    (join_of_normalize? hurl).1 hspecial).path
  obtain ⟨first, later, rfl⟩ := List.exists_cons_of_ne_nil hne
  rw [Url.pathText, hpath, Url.Path.write, Url.writeSegments_cons] at hrest
  apply unrooted
  cases hroot : a.root with
  | nil => exact .inl hroot
  | cons c root =>
    rw [hroot, List.cons_append] at hrest
    refine .inr ?_
    rw [hroot, List.head?_cons, (List.cons.inj hrest).1]

/-! ### The URL of the backend -/

/-- The text of a backend's URL without the slashes at its end: scheme, authority and the first
segments of its path, and the authority in it is read as the one of the backend. -/
theorem Serialized.exists_text {backend : List Char} {base : Url} (h : Serialized backend base) :
    ∃ a front, base.authority = some a ∧ readAuthority base.scheme a.write = .ok (a, []) ∧
      a.write ≠ [] ∧ (∀ c ∈ a.write, Url.barred c = false) ∧ (∀ s ∈ front, Settled s) ∧
      trimSlashes base.pathText = writeSegments front ∧
      trimSlashes backend = base.scheme ++ ':' :: '/' :: '/' :: (a.write ++ writeSegments front) := by
  have hs := kindOf_of_isHttp h.http
  obtain ⟨parts, hpath, -, hparts⟩ := (Url.standard_parse h.parse hs).path
  obtain ⟨a, cs, rest, ha, hread⟩ := Url.exists_readAuthority_of_parse h.parse hs
  obtain ⟨hne, hbarred⟩ := Url.write_of_readAuthority hs hread
  obtain ⟨front, hfront, htrim⟩ :=
    Url.exists_trimSlashes_writeSegments fun s hs => (hparts s hs).whole
  have hsettled : ∀ s ∈ front, Settled s := fun s hs => hparts s (hfront.subset hs)
  have htext : trimSlashes backend =
      base.scheme ++ ':' :: '/' :: '/' :: (a.write ++ writeSegments front) := by
    rw [h.written, Url.trimSlashes_write ha hpath h.query h.fragment hne hbarred, htrim]
  have hpathText : trimSlashes base.pathText = writeSegments front := by
    rw [Url.pathText, hpath]
    exact htrim
  refine ⟨a, front, ha, ?_, hne, hbarred, hsettled, hpathText, htext⟩
  -- The backend's URL is this text with slashes behind it, and its authority has been read.
  obtain ⟨slashes, hback, hslashes⟩ := Url.exists_trimmed backend
  rw [htext] at hback
  have hlow : ∀ c ∈ writeSegments front ++ slashes, 0x20 < c.toNat := by
    refine List.forall_mem_append.mpr
      ⟨fun c hc => (Url.of_mem_writeSegments hsettled c hc).1, fun c hc => ?_⟩
    rw [hslashes c hc]
    decide
  have hend : Url.Terminated (writeSegments front ++ slashes) := by
    cases front with
    | nil => exact Url.terminated_of_slashes hslashes
    | cons first rest => exact Url.terminated_cons (by decide) _
  have hparse := h.parse
  rw [hback, List.append_assoc, List.cons_append, List.cons_append, List.cons_append,
    List.append_assoc, Url.parse_special hs hne hbarred hlow] at hparse
  obtain ⟨a', rest', hread', -, ha'⟩ := Url.exists_readAuthority hparse
  obtain rfl : a = a' := Option.some.inj (ha.symm.trans ha')
  exact Url.readAuthority_of_append hs (Url.unbroken_of_barred hbarred) hend hread'

/-- What is let through is read behind the backend's URL as it was checked: the path behind the
one of the backend, the query, and no fragment. -/
theorem Serialized.parse_url {backend : List Char} {base : Url} (hb : Serialized backend base)
    {a : Allowlist} (rooted : a.Rooted) {path : List Char} {t : Target}
    (ht : a.resolve path = .ok t) :
    ∃ u, Url.parse (t.url backend) = .ok u ∧
      u.pathText = trimSlashes base.pathText ++ t.backendPath ∧ u.query = t.query ∧
      u.fragment = none ∧ SamePlace u base := by
  have hs := kindOf_of_isHttp hb.http
  obtain ⟨authority, front, ha, hread, hne, hbarred, hfront, htrim, htext⟩ := hb.exists_text
  obtain ⟨later, hlater, hsettled, hpath, hquery⟩ := exists_settled_of_resolve rooted ht
  have hparts : ∀ s ∈ front ++ later, Settled s := List.forall_mem_append.mpr ⟨hfront, hsettled⟩
  have hlow : ∀ c ∈ writeSegments (front ++ later) ++ Url.writePart '?' t.query,
      0x20 < c.toNat :=
    List.forall_mem_append.mpr ⟨fun c hc => (Url.of_mem_writeSegments hparts c hc).1,
      fun c hc => (Url.of_mem_writePart hquery c hc).1⟩
  have hurl : t.url backend = base.scheme ++ ':' :: '/' :: '/' ::
      (authority.write ++ (writeSegments (front ++ later) ++ Url.writePart '?' t.query)) := by
    rw [Target.url, htext, hpath, Url.writeSegments_append]
    simp
  refine ⟨⟨base.scheme, some authority, .segments (front ++ later), t.query, none⟩, ?_, ?_, rfl,
    rfl, samePlace_of_authority rfl ha.symm⟩
  · rw [hurl, Url.parse_special hs hne hbarred hlow]
    exact Url.afterSlashes_written hs (Url.unbroken_of_barred hbarred) hread
      (List.append_ne_nil_of_right_ne_nil _ hlater) hparts hquery
  · rw [htrim, hpath, ← Url.writeSegments_append]
    rfl

/-- A backend with a user, a port and slashes at the end of its path. -/
def slashedBackend : List Char := "http://me:secret@[::1]:8080/base//".toList

def slashedUrl : Url where
  scheme := "http".toList
  authority := some
    ⟨"me".toList, some "secret".toList, some (.ipv6 [0, 0, 0, 0, 0, 0, 0, 1]), some 8080⟩
  path := .segments ["base".toList, [], []]
  query := none
  fragment := none

theorem serialized_slashedBackend : Serialized slashedBackend slashedUrl :=
  ⟨by decide +kernel, by decide, by decide +kernel, rfl, rfl⟩

/-- What is let through of a path with dots, a space, a quote and a fragment. -/
def dottedTarget : Target :=
  ⟨"/api/chat/a%20b%2F".toList, "/chat/a%20b%2F".toList, some "q=%27/../".toList⟩

theorem parse_url_dottedTarget :
    Serialized slashedBackend slashedUrl ∧
      Allowlist.Rooted ⟨"/api".toList, ["/chat".toList]⟩ ∧
      Allowlist.resolve ⟨"/api".toList, ["/chat".toList]⟩
        "/api/x/%2e./chat/./a b%2F?q='/../#part".toList = .ok dottedTarget ∧
      ∃ u, Url.parse (dottedTarget.url slashedBackend) = .ok u ∧
        u.pathText = "/base/chat/a%20b%2F".toList ∧ u.query = some "q=%27/../".toList ∧
        u.fragment = none ∧ SamePlace u slashedUrl := by
  have hb := serialized_slashedBackend
  have hroot : Allowlist.Rooted ⟨"/api".toList, ["/chat".toList]⟩ := .inr rfl
  have ht : Allowlist.resolve ⟨"/api".toList, ["/chat".toList]⟩
      "/api/x/%2e./chat/./a b%2F?q='/../#part".toList = .ok dottedTarget := by decide +kernel
  have hpath : trimSlashes slashedUrl.pathText ++ dottedTarget.backendPath =
      "/base/chat/a%20b%2F".toList := by decide +kernel
  obtain ⟨u, hu, hupath, hrest⟩ := hb.parse_url hroot ht
  exact ⟨hb, hroot, ht, u, hu, hupath.trans hpath, hrest⟩

/-- A list whose root is a URL of the local origin. -/
def blobList : Allowlist := ⟨"http://localhost/api".toList, ["/chat".toList]⟩

/-- What is let through of a blob: URL, in whose path no dots are resolved. -/
def blobTarget : Target :=
  ⟨"http://localhost/api/chat/./x".toList, "/chat/./x".toList, none⟩

/-- The dots are resolved when the target is read, and so another path is asked for than the one
that was checked. -/
theorem not_parse_url_blobTarget :
    Serialized slashedBackend slashedUrl ∧
      blobList.resolve "blob:http://localhost/api/chat/./x".toList = .ok blobTarget ∧
      (Url.parse (blobTarget.url slashedBackend)).map Url.pathText =
        .ok "/base/chat/x".toList ∧
      ¬ ∃ u, Url.parse (blobTarget.url slashedBackend) = .ok u ∧
        u.pathText = trimSlashes slashedUrl.pathText ++ blobTarget.backendPath := by
  have hread : (Url.parse (blobTarget.url slashedBackend)).map Url.pathText =
      .ok "/base/chat/x".toList := by decide +kernel
  refine ⟨serialized_slashedBackend, by decide +kernel, hread, ?_⟩
  rintro ⟨u, hu, hpath⟩
  rw [hu, Except.map, hpath] at hread
  exact absurd (Except.ok.inj hread) (by decide +kernel)

end ChatRelay.Gate
