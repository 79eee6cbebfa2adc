import ChatRelay.Proofs.Gate.Fidelity

/-!
A path is normalized once. What reading leaves of a path and a query is left as it is when it is
read again, so that the gate lets through what it has let through, with the same result; only two
slashes at the front would be read anew, as the beginning of a host.
-/

namespace ChatRelay.Gate

open Url (Settled writeSegments writePart)

/-- Settled segments and an encoded query are normalized to themselves, unless they seem to name
a host. -/
theorem normalize?_written {parts : List (List Char)} {query : Option (List Char)}
    (hne : parts ≠ []) (hparts : ∀ s ∈ parts, Settled s)
    (hquery : ∀ text ∈ query, ∀ c ∈ text, Url.specialQuerySet c = false)
    (hhost : ¬ ['/', '/'] <+: writeSegments parts) :
    normalize? (writeSegments parts ++ writePart '?' query) =
      some { localOrigin with path := .segments parts, query := query } := by
  obtain ⟨first, rest, rfl⟩ := List.exists_cons_of_ne_nil hne
  have htext : writeSegments (first :: rest) = '/' :: (first ++ writeSegments rest) :=
    Url.writeSegments_cons first rest
  have hslash : Url.isSlash .special '/' = true := by decide
  have hlow : ∀ c ∈ writeSegments (first :: rest) ++ writePart '?' query, 0x20 < c.toNat :=
    List.forall_mem_append.mpr ⟨fun c hc => (Url.of_mem_writeSegments hparts c hc).1,
      fun c hc => (Url.of_mem_writePart hquery c hc).1⟩
  have hscheme :
      Url.splitScheme? (writeSegments (first :: rest) ++ writePart '?' query) = none := by
    rw [htext]
    rfl
  have hcut := @Url.cutTail_written [] _ _ ⟨List.not_mem_nil, List.not_mem_nil⟩ hparts hquery
  rw [List.nil_append, htext] at hcut
  -- No second slash follows the first, whether or not the first segment is empty.
  have hsecond : (first ++ writeSegments rest).head?.any (Url.isSlash .special) = false := by
    rw [htext, List.cons_prefix_cons, not_and] at hhost
    cases first with
    | nil =>
      cases rest with
      | nil => rfl
      | cons second rest =>
        exact absurd (List.cons_prefix_cons.mpr ⟨rfl, List.nil_prefix⟩) (hhost rfl)
    | cons c first => exact (hparts _ List.mem_cons_self).whole c List.mem_cons_self
  have hread : Url.Path.segments (Url.readSegments .special [] (first ++ writeSegments rest)) =
      .segments (first :: rest) := by
    have hpath := Url.readPath_writeSegments hne hparts
    rwa [htext] at hpath
  have hjoin : localOrigin.join (writeSegments (first :: rest) ++ writePart '?' query) =
      .ok { localOrigin with path := .segments (first :: rest), query := query } := by
    rw [Url.join, Url.clean_eq_self hlow, hscheme, htext]
    simp only [Url.relative, hcut, hslash, if_true, hsecond, Bool.false_eq_true, if_false, hread]
    rfl
  -- With another path and another query the local origin stays what it is.
  have horigin : ({ localOrigin with path := .segments (first :: rest), query := query } :
      Url).origin? = localOrigin.origin? := by
    rw [Url.origin?_eq, Url.origin?_eq]
    rfl
  rw [normalize?, hjoin]
  exact if_pos ⟨horigin, rfl, rfl⟩

/-- A root that does not end with a slash has a second character, if it begins with one. -/
theorem slashes_prefix_append_iff {root : List Char} (absolute : root.head? = some '/')
    (whole : root.getLast? ≠ some '/') (more : List Char) :
    ['/', '/'] <+: root ++ more ↔ ['/', '/'] <+: root := by
  match root with
  | [] => cases absolute
  | [c] => exact absurd absolute whole
  | c :: d :: root =>
    simp only [List.cons_append, List.cons_prefix_cons, List.nil_prefix]

/-- What the gate lets through it lets through again, with the same result. -/
theorem Allowlist.resolve_resolved {a : Allowlist} (absolute : a.root.head? = some '/')
    (whole : a.root.getLast? ≠ some '/') (single : ¬ ['/', '/'] <+: a.root) {path : List Char}
    {t : Target} (h : a.resolve path = .ok t) :
    a.resolve (t.path ++ writePart '?' t.query) = .ok t ∧ t.path = a.root ++ t.backendPath ∧
      t.backendPath.head? = some '/' := by
  obtain ⟨-, url, rest, hurl, hrest, htraversal, hpermits, rfl⟩ := resolve_eq_ok_iff.mp h
  obtain ⟨cs, hcs⟩ := Rooted.exists_cons (a := a) (.inr absolute) rest
  obtain ⟨⟨parts, hpath, hne, hparts⟩, hquery⟩ := standard_of_normalize? hurl (hrest.trans hcs)
  have hwrite : url.pathText = writeSegments parts := by
    rw [Url.pathText, hpath]
    rfl
  have hhost : ¬ ['/', '/'] <+: writeSegments parts := by
    rwa [← hwrite, hrest, slashes_prefix_append_iff absolute whole]
  have hagain := normalize?_written hne hparts hquery hhost
  -- The second reading gives another URL, but one with the same path and the same query.
  refine ⟨resolve_eq_ok_iff.mpr ⟨?_, _, rest, hwrite ▸ hagain, ?_, htraversal, hpermits, ?_⟩,
    hrest, rfl⟩
  · rw [hrest]
    simp
  · rw [← hrest, hwrite]
    rfl
  · rw [hwrite]
    rfl

/-- What is let through of a path with a scheme, backslashes, dots in two spellings, a tab, a space
and a fragment, its query being empty. -/
def bentTarget : Target :=
  ⟨"/v1/chat/a%20b/".toList, "/chat/a%20b/".toList, some []⟩

theorem resolve_bentTarget :
    Allowlist.resolve ⟨"/v1".toList, ["/chat".toList]⟩
        "http:\\v1\\x\\%2E.\\chat/.\t/a b/c/..?#part".toList = .ok bentTarget ∧
      "/v1".toList.head? = some '/' ∧ "/v1".toList.getLast? ≠ some '/' ∧
      ¬ ['/', '/'] <+: "/v1".toList ∧
      Allowlist.resolve ⟨"/v1".toList, ["/chat".toList]⟩ "/v1/chat/a%20b/?".toList =
        .ok bentTarget := by
  have ht : Allowlist.resolve ⟨"/v1".toList, ["/chat".toList]⟩
      "http:\\v1\\x\\%2E.\\chat/.\t/a b/c/..?#part".toList = .ok bentTarget := by
    decide +kernel
  have hfirst : "/v1".toList.head? = some '/' := by decide
  have hlast : "/v1".toList.getLast? ≠ some '/' := by decide
  have hsecond : ¬ ['/', '/'] <+: "/v1".toList := by decide
  exact ⟨ht, hfirst, hlast, hsecond, (Allowlist.resolve_resolved hfirst hlast hsecond ht).1⟩

end ChatRelay.Gate
