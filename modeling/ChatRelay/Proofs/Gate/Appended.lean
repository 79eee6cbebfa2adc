import ChatRelay.Proofs.Gate.Socket
import ChatRelay.Proofs.Url.Trimmed

/-!
When a path put behind the text of a backend's URL names the WebSocket URL that is dialled. The
one goes on with what the URL has of its own, the other puts the path in its place, so that they
agree for the backends alone whose URL says nothing but where they are.
-/

namespace ChatRelay.Gate

open Url (Continued Settling writeSegments writeTail specialPath)

/-- A text names a WebSocket URL: it is read as a URL, which is that one but for the scheme. -/
def NamesSocket (text : List Char) (u : Url) : Prop :=
  ∃ v, Url.parse text = .ok v ∧ v.withScheme? (socketScheme v.scheme) = some u

/-- A backend whose URL says where it is and nothing else: with a slash behind it, it is the URL
of a root. -/
def OnlyPlace (backend : List Char) : Prop :=
  ∃ root, Url.parse (backend ++ ['/']) = .ok root ∧ root.path = .segments [[]] ∧
    root.query = none ∧ root.fragment = none

/-! ### Paths behind slashes -/

theorem writeSegments_replicate (k : Nat) :
    writeSegments (List.replicate k []) = List.replicate k '/' := by
  induction k with
  | zero => rfl
  | succ k ih => rw [List.replicate_succ, Url.writeSegments_cons, ih, List.replicate_succ]; rfl

/-- The slashes that a text ends with are empty segments before a path that is put behind it. -/
theorem exists_slashes (backend : List Char) : ∃ k, ∀ later,
    trimSlashes (trimSlashes backend) ++ writeTail (List.replicate k [] ++ later) none =
      backend ++ writeSegments later := by
  obtain ⟨slashes, hbackend, hslashes⟩ := Url.exists_trimmed backend
  have hall : slashes = List.replicate slashes.length '/' :=
    List.eq_replicate_iff.mpr ⟨rfl, hslashes⟩
  refine ⟨slashes.length, fun later => ?_⟩
  rw [writeTail, Url.writePart, List.append_nil, Url.writeSegments_append,
    writeSegments_replicate, ← hall, ← List.append_assoc, Url.trimSlashes_trimSlashes, ← hbackend]

theorem settling_replicate {later : List (List Char)} (h : Settling later none) (k : Nat) :
    Settling (List.replicate k [] ++ later) none where
  nonempty := List.append_ne_nil_of_right_ne_nil _ h.nonempty
  segments := List.forall_mem_append.mpr
    ⟨fun _ hs => List.eq_of_mem_replicate hs ▸ Url.settled_nil, h.segments⟩
  query := h.query

/-- A path behind the text of a backend's URL makes its fragment longer, or there is none. -/
theorem fragment_behind_iff {backend : List Char} {base u : Url} {later : List (List Char)}
    (hbase : Url.parse (trimSlashes backend) = .ok base) (hs : Url.kindOf base.scheme = .special)
    (hl : Settling later none) (hu : Url.parse (backend ++ writeSegments later) = .ok u)
    (hs' : Url.kindOf u.scheme = .special) :
    (u.fragment = base.fragment ↔ base.fragment = none) ∧
      (u.fragment = none ↔ base.fragment = none) := by
  obtain ⟨k, hslashes⟩ := exists_slashes backend
  have hpath := settling_replicate hl k
  obtain ⟨rest, hrest⟩ := hpath.exists_cons
  rw [← hslashes, Url.trimSlashes_trimSlashes, hrest] at hu
  exact Url.fragment_append_iff hbase hs (hrest ▸ hpath.of_mem) hu hs'

/-- A path as reading leaves it is read again as it is. -/
theorem specialPath_writeSegments {later : List (List Char)} (h : Settling later none) :
    specialPath (writeSegments later) = .segments later := by
  have hvisible : ∀ c ∈ writeSegments later, 0x20 < c.toNat := fun c hc =>
    (Url.of_mem_writeSegments h.segments c hc).1
  rw [specialPath, Url.filter_eq_self_of_visible hvisible]
  exact Url.readPath_writeSegments h.nonempty h.segments

/-! ### What is named -/

/-- The scheme of a URL is changed alike whatever stands behind its authority. -/
theorem withScheme?_behind (u : Url) (path : Url.Path) (query fragment : Option (List Char))
    (scheme : List Char) :
    ({ u with path, query, fragment } : Url).withScheme? scheme =
      (u.withScheme? scheme).map fun v => { v with path, query, fragment } := by
  by_cases h : (u.kind = .general || u.host?.isNone) = true
  · rw [Url.withScheme?, Url.withScheme?, if_pos h]
    exact if_pos h
  · rw [Url.withScheme?, Url.withScheme?, if_neg h]
    exact if_neg h

/-- With the authority of a backend, a text names the WebSocket URL there if it says the same of
all that stands behind. -/
theorem namesSocket_iff {text : List Char} {base socket : Url} {path path' : Url.Path}
    {query fragment : Option (List Char)}
    (hsocket : base.withScheme? (socketScheme base.scheme) = some socket)
    (h : Url.parse text = .ok { base with path, query, fragment }) :
    NamesSocket text { socket with path := path', query := none } ↔
      path = path' ∧ query = none ∧ fragment = base.fragment := by
  have hfragment : socket.fragment = base.fragment := by rw [Url.eq_of_withScheme? hsocket]
  have hnames : NamesSocket text { socket with path := path', query := none } ↔
      ({ socket with path, query, fragment } : Url) =
        { socket with path := path', query := none } := by
    rw [NamesSocket, h]
    constructor
    · rintro ⟨v, hv, hnamed⟩
      obtain rfl := Except.ok.inj hv
      rw [withScheme?_behind, hsocket] at hnamed
      exact Option.some.inj hnamed
    · intro heq
      refine ⟨_, rfl, ?_⟩
      rw [withScheme?_behind, hsocket, ← heq]
      rfl
  rw [hnames, Url.mk.injEq, ← hfragment]
  simp only [true_and]

theorem onlyPlace_iff {backend : List Char} {root : Url}
    (h : Url.parse (backend ++ ['/']) = .ok root) :
    OnlyPlace backend ↔ root.path = .segments [[]] ∧ root.query = none ∧ root.fragment = none := by
  rw [OnlyPlace, h]
  constructor
  · rintro ⟨root', hroot, hparts⟩
    obtain rfl := Except.ok.inj hroot
    exact hparts
  · intro hparts
    exact ⟨root, rfl, hparts⟩

/-- The WebSocket URL that is dialled at a backend, by its parts. -/
theorem socketUrl_trimSlashes {backend : List Char} (hb : checkBackend backend = .ok ())
    (path : List Char) : ∃ base socket, Url.parse (trimSlashes backend) = .ok base ∧
      isHttp base.scheme = true ∧ base.withScheme? (socketScheme base.scheme) = some socket ∧
      socketUrl (trimSlashes backend) path none =
        .ok { socket with path := specialPath path, query := none } := by
  obtain ⟨whole, hwhole, hhttp⟩ := checkBackend_eq_ok_iff.mp hb
  obtain ⟨base, hbase, hscheme, -⟩ := Url.parse_trimSlashes hwhole (kindOf_of_isHttp hhttp)
  rw [← hscheme] at hhttp
  obtain ⟨socket, hsocket⟩ := exists_withScheme? hbase hhttp
  have hkind : socket.kind = .special := by
    rw [Url.kind, Url.scheme_withScheme? hsocket]
    exact (socketScheme_of_isHttp hhttp).2.1
  refine ⟨base, socket, hbase, hhttp, hsocket, ?_⟩
  rw [socketUrl_eq hbase hsocket, ← Url.path_withPath hkind]
  rfl

/-- A path behind the text of a backend's URL names the WebSocket URL for that path just if the
URL says nothing but where the backend is. -/
theorem namesSocket_socketUrl_iff {backend : List Char} (hb : checkBackend backend = .ok ())
    {later : List (List Char)} (hl : Settling later none) {u : Url}
    (hu : socketUrl (trimSlashes backend) (writeSegments later) none = .ok u) :
    NamesSocket (backend ++ writeSegments later) u ↔ OnlyPlace backend := by
  obtain ⟨base, socket, hbase, hhttp, hsocket, hdialled⟩ :=
    socketUrl_trimSlashes hb (writeSegments later)
  rw [hdialled, specialPath_writeSegments hl] at hu
  obtain rfl := Except.ok.inj hu
  have hs := kindOf_of_isHttp hhttp
  obtain ⟨k, hslashes⟩ := exists_slashes backend
  have hpath := settling_replicate hl k
  have hroot := settling_replicate Url.settling_root k
  have hslash : backend ++ ['/'] = backend ++ writeSegments [[]] := rfl
  -- The path and the slash alone are read in the same way behind the backend's URL.
  cases Url.continued_of_parse hbase hs with
  | path front h =>
    -- Both stand behind its own path and what its slashes begin, of which nothing may be there.
    have hparse := h _ _ hpath
    have hplace := h _ _ hroot
    rw [hslashes] at hparse hplace
    have hwhole : base.fragment = none := (fragment_behind_iff hbase hs hl hparse hs).2.mp rfl
    have hfirst (parts : List (List Char)) :
        front ++ (List.replicate k [] ++ parts) = parts ↔ front ++ List.replicate k [] = [] := by
      rw [← List.append_assoc]
      exact List.append_left_eq_self
    rw [namesSocket_iff hsocket hparse, onlyPlace_iff hplace, hwhole]
    simp only [Url.Path.segments.injEq, hfirst]
  | query whole h =>
    obtain ⟨text, -, hparse⟩ := h _ _ hpath
    obtain ⟨text', -, hplace⟩ := h _ _ hroot
    rw [hslashes] at hparse hplace
    rw [namesSocket_iff hsocket hparse, onlyPlace_iff hplace]
    exact iff_of_false (fun hsame => nomatch hsame.2.1) (fun hplain => nomatch hplain.2.1)
  | fragment hidden h =>
    obtain ⟨text, hparse⟩ := h _ _ hpath
    obtain ⟨text', hplace⟩ := h _ _ hroot
    rw [hslashes] at hparse hplace
    have hgrows := (fragment_behind_iff hbase hs hl hparse hs).1
    rw [namesSocket_iff hsocket hparse, onlyPlace_iff hplace]
    refine iff_of_false (fun hsame => ?_) (fun hplain => nomatch hplain.2.2)
    -- A fragment that has grown is another one.
    rw [hgrows.mp hsame.2.2] at hidden
    cases hidden
  | nothing whole h =>
    obtain ⟨fault, hparse⟩ := h _ _ hpath
    obtain ⟨fault', hplace⟩ := h _ _ hroot
    rw [hslashes] at hparse hplace
    rw [NamesSocket, hparse, OnlyPlace, hslash, hplace]
    exact iff_of_false (fun ⟨_, hv, _⟩ => nomatch hv) (fun ⟨_, hv, _⟩ => nomatch hv)

end ChatRelay.Gate
