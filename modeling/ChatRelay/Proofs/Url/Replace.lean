import ChatRelay.Proofs.Url.Written
import ChatRelay.Url.Replace

/-!
URLs with one part replaced. The scheme may take the port with it, path and query are read by the
rules of their own parts, and nothing else of the URL changes.
-/

namespace ChatRelay.Url

/-! ### The scheme -/

theorem withScheme?_of_host {u : Url} {host : Host} (hkind : u.kind = .special)
    (hhost : u.host? = some host) (scheme : List Char) :
    u.withScheme? scheme = some { u with
      scheme
      authority := u.authority.map fun a =>
        { a with port := if a.port = defaultPort? scheme then none else a.port } } := by
  rw [withScheme?, if_neg]
  simp [hkind, hhost]

section WithScheme

variable {u v : Url} {scheme : List Char}

theorem eq_of_withScheme? (h : u.withScheme? scheme = some v) :
    v = { u with
      scheme
      authority := u.authority.map fun a =>
        { a with port := if a.port = defaultPort? scheme then none else a.port } } := by
  rw [withScheme?] at h
  split at h
  · cases h
  · exact (Option.some.inj h).symm

theorem scheme_withScheme? (h : u.withScheme? scheme = some v) : v.scheme = scheme := by
  rw [eq_of_withScheme? h]

theorem username_withScheme? (h : u.withScheme? scheme = some v) : v.username = u.username := by
  rw [eq_of_withScheme? h, username, username, Option.map_map]
  rfl

theorem password?_withScheme? (h : u.withScheme? scheme = some v) :
    v.password? = u.password? := by
  rw [eq_of_withScheme? h, password?, password?, Option.bind_map]
  rfl

theorem host?_withScheme? (h : u.withScheme? scheme = some v) : v.host? = u.host? := by
  rw [eq_of_withScheme? h, host?, host?, Option.bind_map]
  rfl

/-- Between schemes with one default port the port that counts is kept: it is not written only
if it is that one. -/
theorem effectivePort?_withScheme? (h : u.withScheme? scheme = some v)
    (hport : defaultPort? scheme = defaultPort? u.scheme) :
    v.effectivePort? = u.effectivePort? := by
  rw [eq_of_withScheme? h, effectivePort?, effectivePort?, ← hport, Option.bind_map]
  cases u.authority with
  | none => rfl
  | some a =>
    simp only [Option.bind_some, Function.comp_apply]
    split
    · rename_i hdefault
      rw [hdefault]
      cases defaultPort? scheme <;> rfl
    · rfl

end WithScheme

/-! ### The path -/

/-- The path of a special URL that is read from a text, whatever else the URL holds. -/
def specialPath (cs : List Char) : Path :=
  .segments (readSegments .special [] (dropSlash .special (cs.filter (!isUnseen ·))))

theorem path_withPath {u : Url} (h : u.kind = .special) (cs : List Char) :
    (u.withPath cs).path = specialPath cs := by
  rw [withPath, h]
  rfl

/-! ### The query -/

/-- A query as the URL standard writes it in a special URL: tabs and line ends are dropped,
visible ASCII stands for itself but for quotes, angle brackets and the number sign, and of any
other character the bytes are written as escapes. -/
inductive QueryText : List Char → List Char → Prop where
  | nil : QueryText [] []
  | dropped {c : Char} {cs text : List Char} (unseen : c ∈ ['\t', '\n', '\r'])
      (rest : QueryText cs text) : QueryText (c :: cs) text
  | kept {c : Char} {cs text : List Char} (visible : 0x20 < c.toNat ∧ c.toNat < 0x7F)
      (plain : c ∉ ['"', '#', '\'', '<', '>']) (rest : QueryText cs text) :
      QueryText (c :: cs) (c :: text)
  | escaped {c : Char} {cs text : List Char} (seen : c ∉ ['\t', '\n', '\r'])
      (special : c.toNat ≤ 0x20 ∨ 0x7F ≤ c.toNat ∨ c ∈ ['"', '#', '\'', '<', '>'])
      (rest : QueryText cs text) :
      QueryText (c :: cs) ((String.utf8EncodeChar c).flatMap percentByte ++ text)

theorem isUnseen_iff {c : Char} : isUnseen c = true ↔ c ∈ ['\t', '\n', '\r'] := by
  simp [isUnseen, or_assoc]

theorem filter_unseen {c : Char} (h : c ∈ ['\t', '\n', '\r']) (cs : List Char) :
    (c :: cs).filter (!isUnseen ·) = cs.filter (!isUnseen ·) :=
  List.filter_cons_of_neg (by simp [isUnseen_iff.mpr h])

theorem filter_seen {c : Char} (h : c ∉ ['\t', '\n', '\r']) (cs : List Char) :
    (c :: cs).filter (!isUnseen ·) = c :: cs.filter (!isUnseen ·) :=
  List.filter_cons_of_pos (by rw [Bool.eq_false_iff.mpr (mt isUnseen_iff.mp h)]; rfl)

theorem specialQuerySet_iff {c : Char} : specialQuerySet c = true ↔
    c.toNat ≤ 0x20 ∨ 0x7F ≤ c.toNat ∨ c ∈ ['"', '#', '\'', '<', '>'] := by
  have hspace : c = ' ' ↔ c.toNat = 0x20 := Char.toNat_inj.symm
  simp only [specialQuerySet, querySet, controlSet, Bool.or_eq_true, decide_eq_true_eq, beq_iff_eq,
    List.mem_cons, List.not_mem_nil, or_false, hspace]
  grind

theorem percentEncode_cons (set : EncodeSet) (c : Char) (cs : List Char) :
    percentEncode set (c :: cs) =
      (if set c then (String.utf8EncodeChar c).flatMap percentByte else [c]) ++
        percentEncode set cs := List.flatMap_cons

/-- A query is put into a special URL as the standard writes it, and in no other way. -/
theorem queryText_iff {cs text : List Char} :
    QueryText cs text ↔ text = readQuery .special (cs.filter (!isUnseen ·)) := by
  have hset : querySetOf .special = specialQuerySet := rfl
  simp only [readQuery, hset]
  constructor
  · intro h
    induction h with
    | nil => rfl
    | @dropped c cs text unseen rest ih =>
      rw [filter_unseen unseen]
      exact ih
    | @kept c cs text visible plain rest ih =>
      have hplain : ¬ specialQuerySet c = true := by
        rw [specialQuerySet_iff, not_or, not_or]
        exact ⟨by omega, by omega, plain⟩
      have hc : c ∉ ['\t', '\n', '\r'] := by
        intro hc
        simp only [List.mem_cons, List.not_mem_nil, or_false] at hc
        rcases hc with rfl | rfl | rfl <;> exact absurd visible.1 (by decide)
      rw [filter_seen hc, percentEncode_cons, if_neg hplain, ← ih]
      rfl
    | @escaped c cs text seen special rest ih =>
      rw [filter_seen seen, percentEncode_cons,
        if_pos (specialQuerySet_iff.mpr special), ← ih]
  · rintro rfl
    induction cs with
    | nil => exact .nil
    | cons c cs ih =>
      by_cases hunseen : c ∈ ['\t', '\n', '\r']
      · rw [filter_unseen hunseen]
        exact .dropped hunseen ih
      · rw [filter_seen hunseen, percentEncode_cons]
        split
        · rename_i hspecial
          exact .escaped hunseen (specialQuerySet_iff.mp hspecial) ih
        · rename_i hplain
          rw [specialQuerySet_iff, not_or, not_or] at hplain
          exact .kept (by omega) hplain.2.2 ih

theorem query_withQuery {u : Url} (h : u.kind = .special) (cs : List Char) :
    ∃ text, (u.withQuery (some cs)).query = some text ∧ QueryText cs text := by
  refine ⟨_, rfl, queryText_iff.mpr ?_⟩
  rw [h]

end ChatRelay.Url
