import ChatRelay.Proofs.Config.Check
import ChatRelay.Proofs.Gate.Stability
import ChatRelay.Proofs.Gate.Traversal
import ChatRelay.Proofs.Url.Pieces

/-!
Which of the listed paths are admitted. A root and an entry are compared with a path as it is
written once it has been normalized, and so an entry is admitted, with all that is below it, if
reading leaves root and entry as they are and no dot pair is hidden in the entry.
-/

namespace ChatRelay.Gate

open Url (Kept Settled isSingleDot isDoubleDot writeSegments splitSlashes)

/-- A letter or a digit of ASCII, a hyphen, a low line or a tilde. -/
def isWordChar (c : Char) : Bool :=
  c.isAlphanum || c == '-' || c == '_' || c == '~'

/-- A root and an entry that normalizing leaves alone: they belong to a path and not to a host, a
query or a fragment, no segment of them is resolved, and the entry does not seem to hide a dot
pair. -/
structure Admissible (root entry : List Char) : Prop where
  path : ∀ c ∈ root ++ entry, c ≠ '?' ∧ c ≠ '#' ∧ c ≠ '\\'
  single : ¬ ['/', '/'] <+: root
  dotless : ∀ s ∈ splitSlashes .special (root ++ entry),
    isSingleDot s = false ∧ isDoubleDot s = false
  honest : hidesTraversal entry = false

/-! ### Words -/

theorem of_isWordChar {c : Char} (h : isWordChar c = true) :
    Kept c ∧ c ≠ '/' ∧ c ≠ '.' ∧ c ≠ '%' := by
  have hascii : c.toNat < 0x80 := by
    delta isWordChar Char.isAlphanum Char.isAlpha Char.isUpper Char.isLower Char.isDigit at h
    simp only [Bool.or_eq_true, Bool.and_eq_true, decide_eq_true_eq, beq_iff_eq] at h
    rcases h with (((((⟨-, hlast⟩ | ⟨-, hlast⟩) | ⟨-, hlast⟩) | rfl) | rfl) | rfl) <;>
      first
      | decide
      | exact Nat.lt_of_le_of_lt (UInt32.le_iff_toNat_le.mp hlast) (by decide)
  have hall : ∀ n < 0x80, isWordChar (Char.ofNat n) = true →
      (Url.pathSet (Char.ofNat n) = false ∧ Char.ofNat n ≠ '\\') ∧ Char.ofNat n ≠ '/' ∧
        Char.ofNat n ≠ '.' ∧ Char.ofNat n ≠ '%' := by
    decide +kernel
  rw [← Char.ofNat_toNat c] at h ⊢
  exact hall c.toNat hascii h

section Words

variable {segments : List (List Char)} (h : ∀ s ∈ segments, ∀ c ∈ s, isWordChar c = true)
include h

theorem settled_of_words : ∀ s ∈ segments, Settled s := by
  intro s hs
  have hdots : (∀ form ∈ Url.dotForms, '.' ∈ form ∨ '%' ∈ form) ∧
      ∀ form ∈ Url.dotForms.flatMap fun a => Url.dotForms.map (a ++ ·),
        '.' ∈ form ∨ '%' ∈ form := by
    decide
  have hword : '.' ∉ s ∧ '%' ∉ s :=
    ⟨fun hm => (of_isWordChar (h s hs '.' hm)).2.2.1 rfl,
      fun hm => (of_isWordChar (h s hs '%' hm)).2.2.2 rfl⟩
  refine ⟨fun c hc => (of_isWordChar (h s hs c hc)).1.1, fun c hc => ?_, ?_, ?_⟩
  · rw [Bool.eq_false_iff]
    intro hslash
    obtain ⟨hkept, hne, -⟩ := of_isWordChar (h s hs c hc)
    exact hne (hkept.eq_slash hslash)
  · rw [Bool.eq_false_iff]
    intro hsingle
    exact (hdots.1 s (List.contains_iff_mem.mp hsingle)).elim hword.1 hword.2
  · rw [Bool.eq_false_iff]
    intro hdouble
    exact (hdots.2 s (List.contains_iff_mem.mp hdouble)).elim hword.1 hword.2

theorem not_mem_of_words : '.' ∉ writeSegments segments ∧ '%' ∉ writeSegments segments := by
  have hmem : ∀ c ∈ writeSegments segments, c = '/' ∨ isWordChar c = true := by
    intro c hc
    obtain ⟨s, hs, hc⟩ := List.mem_flatMap.mp hc
    exact (List.mem_cons.mp hc).imp id (h s hs c)
  constructor <;> exact fun hm => absurd (hmem _ hm) (by decide)

end Words

/-! ### Dot pairs before plain text -/

theorem hasDotPair_of_not_mem {cs : List Char} (h : '.' ∉ cs) : hasDotPair cs = false := by
  induction cs with
  | nil => rfl
  | cons a cs ih =>
    rw [List.mem_cons, not_or] at h
    cases cs with
    | nil => rfl
    | cons b cs =>
      rw [hasDotPair, ih h.2, beq_false_of_ne (Ne.symm h.1), Bool.false_and, Bool.false_or]

theorem hasDotPair_append {back : List Char} (hb : '.' ∉ back) (cs : List Char) :
    hasDotPair (cs ++ '/' :: back) = hasDotPair cs := by
  have hslash : '.' ∉ '/' :: back := by simp [hb]
  induction cs with
  | nil => exact hasDotPair_of_not_mem hslash
  | cons a cs ih =>
    cases cs with
    | nil =>
      rw [List.cons_append, List.nil_append, hasDotPair, hasDotPair_of_not_mem hslash]
      simp [hasDotPair]
    | cons b cs =>
      rw [List.cons_append, List.cons_append, hasDotPair, ← List.cons_append, ih, hasDotPair]

theorem decodePass_append {back : List Char} (hb : '%' ∉ back) (cs : List Char) :
    decodePass (cs ++ '/' :: back) = decodePass cs ++ '/' :: back := by
  have hslash : Utf8.encode ('/' :: back) = 0x2F :: Utf8.encode back := rfl
  have hplain : 0x25 ∉ Utf8.encode ('/' :: back) := percent_not_mem_encode (by simp [hb])
  have hdecode : Url.percentDecode (Utf8.encode ('/' :: back)) = Utf8.encode ('/' :: back) := by
    have happend := Url.percentDecode_append hplain []
    have hnil : Url.percentDecode [] = [] := rfl
    rwa [hnil, List.append_nil] at happend
  have hlater : Utf8.decodeLossy (Utf8.encode back) = back := Utf8.decodeLossy_encode back
  rw [decodePass, Utf8.encode_append, hslash, Url.percentDecode_append_cons (by decide), ← hslash,
    hdecode, hslash, Utf8.decodeLossy_append_ascii _ _ (by decide), hlater]
  rfl

theorem hidesTraversalWithin_append {back : List Char} (hdot : '.' ∉ back) (hpercent : '%' ∉ back)
    (passes : Nat) (cs : List Char) :
    hidesTraversalWithin passes (cs ++ '/' :: back) = hidesTraversalWithin passes cs := by
  induction passes generalizing cs with
  | zero => rfl
  | succ passes ih =>
    rw [hidesTraversalWithin, hidesTraversalWithin, hasDotPair_append hdot,
      decodePass_append hpercent, ih]
    simp only [List.append_cancel_right_eq]

/-- Words below an entry hide nothing and reveal nothing. -/
theorem hidesTraversal_append_words {segments : List (List Char)}
    (h : ∀ s ∈ segments, ∀ c ∈ s, isWordChar c = true) (cs : List Char) :
    hidesTraversal (cs ++ writeSegments segments) = hidesTraversal cs := by
  obtain ⟨hdot, hpercent⟩ := not_mem_of_words h
  cases segments with
  | nil => exact congrArg hidesTraversal (List.append_nil cs)
  | cons first rest =>
    rw [Url.writeSegments_cons] at hdot hpercent ⊢
    exact hidesTraversalWithin_append (fun hm => hdot (List.mem_cons_of_mem _ hm))
      (fun hm => hpercent (List.mem_cons_of_mem _ hm)) passLimit cs

/-! ### Hosts -/

/-- A path that begins with two slashes loses what it names a host with. -/
theorem length_pathText_of_slashes {cs : List Char} (hcs : ∀ c ∈ cs, Kept c) {url : Url}
    (h : normalize? ('/' :: '/' :: cs) = some url) : url.pathText.length < cs.length + 2 := by
  have hslash : Kept '/' := ⟨by decide, by decide⟩
  have hall : ∀ c ∈ '/' :: '/' :: cs, Kept c :=
    List.forall_mem_cons.mpr ⟨hslash, List.forall_mem_cons.mpr ⟨hslash, hcs⟩⟩
  have hclean : Url.clean ('/' :: '/' :: cs) = '/' :: '/' :: cs :=
    Url.clean_eq_self fun c hc => (Url.of_pathSet (hall c hc).1).1
  have hcut {rest : List Char} (hrest : ∀ c ∈ rest, Kept c) :
      Url.cutTail .special rest = (rest, none, none) := by
    have hplain := @Url.cutTail_written _ [] none (Url.not_mem_of_kept hrest)
      (List.forall_mem_nil _) (fun _ h => nomatch h)
    simpa [writeSegments, Url.writePart] using hplain
  have hscheme : Url.splitScheme? ('/' :: '/' :: cs) = none := rfl
  have hjoin := (join_of_normalize? h).1
  have hrelative :
      localOrigin.join ('/' :: '/' :: cs) = Url.afterSlashes localOrigin.scheme cs := by
    rw [Url.join, hclean, hscheme]
    simp only [Url.relative, hcut hall]
    rfl
  rw [hrelative] at hjoin
  obtain ⟨⟨a, rest⟩, hread, hbuild⟩ := exists_of_bind_eq_ok hjoin
  have hkind : Url.kindOf localOrigin.scheme = .special := by decide
  have htail := Url.suffix_of_readAuthority hkind hread
  have hrest : ∀ c ∈ rest, Kept c := fun c hc => hcs c (htail.subset hc)
  dsimp only at hbuild
  rw [hkind, hcut hrest] at hbuild
  cases hbuild
  have hpath := Url.length_write_readPath hrest
  have hlength := htail.length_le
  rw [Url.pathText]
  dsimp only
  omega

/-! ### Entries -/

theorem kept_writeSegments {parts : List (List Char)} (h : ∀ s ∈ parts, Settled s) :
    ∀ c ∈ writeSegments parts, Kept c := by
  intro c hc
  obtain ⟨s, hs, hc⟩ := List.mem_flatMap.mp hc
  rcases List.mem_cons.mp hc with rfl | hc
  · exact ⟨by decide, by decide⟩
  · refine ⟨(h s hs).encoded c hc, ?_⟩
    rintro rfl
    exact absurd ((h s hs).whole '\\' hc) (by decide)

theorem splitSlashes_append_words {segments : List (List Char)}
    (h : ∀ s ∈ segments, ∀ c ∈ s, isWordChar c = true) (cs : List Char) :
    splitSlashes .special (cs ++ writeSegments segments) =
      splitSlashes .special cs ++ segments := by
  by_cases hne : segments = []
  · rw [hne, List.append_nil, writeSegments, List.flatMap_nil, List.append_nil]
  · exact Url.splitSlashes_append cs hne fun s hs => (settled_of_words h s hs).whole

section Entries

variable {a : Allowlist} {entry : List Char} {segments : List (List Char)}
  (words : ∀ s ∈ segments, ∀ c ∈ s, isWordChar c = true)
  (absolute : a.root.head? = some '/')
include words absolute

/-- An entry below which words are let through as they are written is admissible. -/
theorem admissible_of_resolve {t : Target}
    (h : a.resolve (a.root ++ entry ++ writeSegments segments) = .ok t)
    (hback : t.backendPath = entry ++ writeSegments segments) : Admissible a.root entry := by
  obtain ⟨-, url, rest, hurl, hrest, hhonest, -, rfl⟩ := Allowlist.resolve_eq_ok_iff.mp h
  dsimp only at hback
  obtain ⟨cs, hcs⟩ := Allowlist.Rooted.exists_cons (a := a) (.inr absolute) rest
  obtain ⟨⟨parts, hpath, hne, hparts⟩, -⟩ := standard_of_normalize? hurl (hrest.trans hcs)
  -- The path has been left as it was, and so it is written with settled segments.
  have htext : url.pathText = a.root ++ entry ++ writeSegments segments := by
    rw [hrest, hback, List.append_assoc]
  have hwrite : a.root ++ entry ++ writeSegments segments = writeSegments parts := by
    rw [← htext, Url.pathText, hpath]
    rfl
  have hkept : ∀ c ∈ a.root ++ entry ++ writeSegments segments, Kept c :=
    hwrite ▸ kept_writeSegments hparts
  refine ⟨fun c hc => ?_, ?_, fun s hs => ?_, ?_⟩
  · have hc := hkept c (List.mem_append_left _ hc)
    obtain ⟨-, hhash, hmark⟩ := Url.of_pathSet hc.1
    exact ⟨hmark, hhash, hc.2⟩
  · intro hslashes
    obtain ⟨root, hroot⟩ := hslashes
    have hcs : a.root ++ entry ++ writeSegments segments =
        '/' :: '/' :: (root ++ entry ++ writeSegments segments) := by
      rw [← hroot]
      rfl
    rw [hcs] at hurl hkept htext
    have hshort := length_pathText_of_slashes
      (fun c hc => hkept c (List.mem_cons_of_mem _ (List.mem_cons_of_mem _ hc))) hurl
    rw [htext, List.length_cons, List.length_cons] at hshort
    exact Nat.lt_irrefl _ hshort
  · have hpieces := splitSlashes_append_words words (a.root ++ entry)
    have hread := Url.splitSlashes_append [] hne fun s hs => (hparts s hs).whole
    rw [List.nil_append] at hread
    rw [hwrite, hread] at hpieces
    have hmem : s ∈ splitSlashes .special [] ++ parts := hpieces ▸ List.mem_append_left segments hs
    rcases List.mem_append.mp hmem with hs | hs
    · rw [List.mem_singleton.mp hs]
      exact ⟨Url.settled_nil.not_single, Url.settled_nil.not_double⟩
    · exact ⟨(hparts s hs).not_single, (hparts s hs).not_double⟩
  · rw [← hidesTraversal_append_words words entry, ← hback]
    exact hhonest

variable (whole : a.root.getLast? ≠ some '/')
include whole

/-- Nothing is to be done to what is made of an admissible entry and words. -/
theorem normalize?_of_admissible (h : Admissible a.root entry)
    (kept : ∀ c ∈ a.root ++ entry, Kept c) :
    ∃ url, normalize? (a.root ++ entry ++ writeSegments segments) = some url ∧
      url.pathText = a.root ++ entry ++ writeSegments segments := by
  obtain ⟨root, hroot⟩ := List.head?_eq_some_iff.mp absolute
  have hpieces := splitSlashes_append_words words (a.root ++ entry)
  have hkept : ∀ c ∈ a.root ++ entry ++ writeSegments segments, Kept c :=
    List.forall_mem_append.mpr ⟨kept, kept_writeSegments (settled_of_words words)⟩
  have hsingle : ¬ ['/', '/'] <+: a.root ++ entry ++ writeSegments segments := by
    rw [List.append_assoc, slashes_prefix_append_iff absolute whole]
    exact h.single
  obtain ⟨later, hlater⟩ : ∃ later, a.root ++ entry ++ writeSegments segments = '/' :: later :=
    ⟨root ++ entry ++ writeSegments segments, by rw [hroot]; rfl⟩
  rw [hlater] at hpieces hkept hsingle ⊢
  have hslash : Url.isSlash .special '/' = true := by decide
  rw [splitSlashes, List.splitOnP_cons_eq_if_modifyHead, if_pos hslash] at hpieces
  have hrest := (List.forall_mem_cons.mp hkept).2
  have hsettled : ∀ s ∈ splitSlashes .special later, Settled s := by
    intro s hs
    have hmem : s ∈ splitSlashes .special (a.root ++ entry) ++ segments :=
      hpieces ▸ List.mem_cons_of_mem [] hs
    have hdots : isSingleDot s = false ∧ isDoubleDot s = false := by
      rcases List.mem_append.mp hmem with hs | hs
      · exact h.dotless s hs
      · exact ⟨(settled_of_words words s hs).not_single, (settled_of_words words s hs).not_double⟩
    have hchars := Url.kept_pieces hrest s hs
    exact ⟨fun c hc => (hchars c hc).1, fun c hc => (hchars c hc).2, hdots.1, hdots.2⟩
  have hwrite := Url.writeSegments_splitSlashes hrest
  rw [← hwrite] at hsingle
  have hnone : ∀ text ∈ (none : Option (List Char)), ∀ c ∈ text, Url.specialQuerySet c = false := by
    intro text htext
    cases htext
  have hnormalize :=
    normalize?_written (List.splitOnP_ne_nil _ later) hsettled hnone hsingle
  rw [Url.writePart, List.append_nil] at hnormalize
  refine ⟨_, hwrite ▸ hnormalize, ?_⟩
  rw [Url.pathText]
  exact hwrite

theorem resolve_of_admissible (hentry : entry ∈ a.entries) (below : entry.head? = some '/')
    (h : Admissible a.root entry) (kept : ∀ c ∈ a.root ++ entry, Kept c) :
    ∃ t, a.resolve (a.root ++ entry ++ writeSegments segments) = .ok t ∧
      t.backendPath = entry ++ writeSegments segments := by
  obtain ⟨url, hurl, hpath⟩ := normalize?_of_admissible words absolute whole h kept
  obtain ⟨rest, hrest⟩ := List.head?_eq_some_iff.mp below
  have hback : entry ++ writeSegments segments = '/' :: (rest ++ writeSegments segments) := by
    rw [hrest, List.cons_append]
  have hhonest : hidesTraversal (entry ++ writeSegments segments) = false :=
    (hidesTraversal_append_words words entry).trans h.honest
  have hpermits : a.permits (entry ++ writeSegments segments) = true := by
    refine Allowlist.permits_eq_true_iff.mpr ⟨entry, hentry, ?_⟩
    cases segments with
    | nil => exact .inl (List.append_nil entry)
    | cons first later =>
      have hslash : entry ++ ['/'] ++ (first ++ writeSegments later) =
          entry ++ writeSegments (first :: later) := by
        rw [List.append_assoc, Url.writeSegments_cons]
        rfl
      exact .inr ⟨_, hslash⟩
  rw [hback] at hhonest hpermits
  refine ⟨⟨url.pathText, '/' :: (rest ++ writeSegments segments), url.query⟩,
    Allowlist.resolve_eq_ok_iff.mpr ⟨?_, url, _, hurl, ?_, hhonest, hpermits, rfl⟩, hback.symm⟩
  · rw [hrest]
    simp
  · rw [hpath, List.append_assoc, hback]

end Entries

/-- An entry and all that is below it are let through as they are written if root and entry are
admissible, and nothing below an entry is otherwise. Roots and entries with characters that are
encoded in a path are not spoken of. -/
theorem resolve_listed_iff {c : Config} (hc : c.check = .ok ()) {entry : String}
    (hentry : entry ∈ c.routes.allowedPaths)
    (written : ∀ d ∈ c.routes.httpRoot.toList ++ entry.toList,
      Url.pathSet d = true → d = '?' ∨ d = '#')
    {segments : List (List Char)} (words : ∀ s ∈ segments, ∀ d ∈ s, isWordChar d = true) :
    (∃ t, c.allowlist.resolve
        (c.routes.httpRoot.toList ++ entry.toList ++ writeSegments segments) = .ok t ∧
      t.backendPath = entry.toList ++ writeSegments segments) ↔
      Admissible c.routes.httpRoot.toList entry.toList := by
  obtain ⟨⟨hroot, hend⟩, -, hpaths, -⟩ := Config.check_eq_ok_iff.mp hc
  have absolute := Config.head?_of_isAbsolute hroot
  have whole := Config.getLast?_of_endsWithSlash hend
  have below := Config.head?_of_isAbsolute (hpaths entry hentry)
  have hlisted : entry.toList ∈ c.allowlist.entries := List.mem_map_of_mem hentry
  constructor
  · rintro ⟨t, ht, hback⟩
    exact admissible_of_resolve words absolute ht hback
  · intro h
    have kept : ∀ d ∈ c.routes.httpRoot.toList ++ entry.toList, Kept d := by
      intro d hd
      obtain ⟨hmark, hhash, hback⟩ := h.path d hd
      refine ⟨Bool.eq_false_iff.mpr fun hset => ?_, hback⟩
      exact (written d hd hset).elim hmark hhash
    exact resolve_of_admissible words absolute whole hlisted below h kept

/-- An entry with a character that is encoded in a path admits nothing. It is compared as it is
written, and in what is let through nothing is left to encode. -/
theorem not_prefix_of_encoded {c : Config} (hc : c.check = .ok ()) {entry : List Char} {d : Char}
    (hd : d ∈ entry) (encoded : Url.pathSet d = true) {path : List Char} {t : Target}
    (h : c.allowlist.resolve path = .ok t) : ¬ entry <+: t.backendPath := by
  obtain ⟨⟨hroot, -⟩, -⟩ := Config.check_eq_ok_iff.mp hc
  have rooted : c.allowlist.Rooted := .inr (Config.head?_of_isAbsolute hroot)
  obtain ⟨parts, -, hparts, hback, -⟩ := exists_settled_of_resolve rooted h
  intro hfront
  rw [hback] at hfront
  have hkept := (kept_writeSegments hparts d (hfront.subset hd)).1
  rw [encoded] at hkept
  cases hkept

/-- An entry with an encoded slash, a dot within a segment, two slashes and one at the end. -/
def oddConfig : Config where
  backend := { url := "http://[::1]:8000" }
  routes := { httpRoot := "/v1", allowedPaths := ["/chat", "/a%2F.b//:c/"] }

theorem resolve_oddConfig :
    oddConfig.check = .ok () ∧ "/a%2F.b//:c/" ∈ oddConfig.routes.allowedPaths ∧
      (∀ d ∈ "/v1".toList ++ "/a%2F.b//:c/".toList, Url.pathSet d = true → d = '?' ∨ d = '#') ∧
      (∀ s ∈ ["x-1".toList, "Y_~".toList], ∀ d ∈ s, isWordChar d = true) ∧
      ∃ t, oddConfig.allowlist.resolve "/v1/a%2F.b//:c//x-1/Y_~".toList = .ok t ∧
        t.backendPath = "/a%2F.b//:c//x-1/Y_~".toList := by
  have hc : oddConfig.check = .ok () := by decide +kernel
  have hentry : "/a%2F.b//:c/" ∈ oddConfig.routes.allowedPaths := by decide
  have hkept : ("/v1".toList ++ "/a%2F.b//:c/".toList).all (!Url.pathSet ·) = true := by decide
  have hwritten : ∀ d ∈ "/v1".toList ++ "/a%2F.b//:c/".toList,
      Url.pathSet d = true → d = '?' ∨ d = '#' := by
    intro d hd hset
    have hnot := List.all_eq_true.mp hkept d hd
    rw [hset] at hnot
    cases hnot
  have hwords : ∀ s ∈ ["x-1".toList, "Y_~".toList], ∀ d ∈ s, isWordChar d = true :=
    List.forall_mem_cons.mpr ⟨List.all_eq_true.mp rfl,
      List.forall_mem_singleton.mpr (List.all_eq_true.mp rfl)⟩
  have hmarks : ("/v1".toList ++ "/a%2F.b//:c/".toList).all
      (fun d => d ≠ '?' ∧ d ≠ '#' ∧ d ≠ '\\') = true := by decide
  have hpath : ∀ d ∈ "/v1".toList ++ "/a%2F.b//:c/".toList, d ≠ '?' ∧ d ≠ '#' ∧ d ≠ '\\' :=
    fun d hd => of_decide_eq_true (List.all_eq_true.mp hmarks d hd)
  have hadmissible : Admissible "/v1".toList "/a%2F.b//:c/".toList :=
    ⟨hpath, by decide, by decide +kernel, by decide +kernel⟩
  exact ⟨hc, hentry, hwritten, hwords,
    (resolve_listed_iff hc hentry hwritten hwords).mpr hadmissible⟩

/-- An entry with a dot pair within a segment. -/
def pairConfig : Config where
  backend := { url := "http://[::1]:8000" }
  routes := { allowedPaths := ["/a..b"] }

/-- The entry is listed, and yet neither it nor what is below it is let through. -/
theorem not_resolve_pairConfig :
    pairConfig.check = .ok () ∧ "/a..b" ∈ pairConfig.routes.allowedPaths ∧
      (∀ d ∈ "c".toList, isWordChar d = true) ∧
      pairConfig.allowlist.resolve "/api/a..b".toList = .error .traversal ∧
      pairConfig.allowlist.resolve "/api/a..b/c".toList = .error .traversal := by
  refine ⟨by decide +kernel, by decide, List.all_eq_true.mp rfl, ?_⟩
  decide +kernel

end ChatRelay.Gate
