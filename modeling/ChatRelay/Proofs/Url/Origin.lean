import ChatRelay.Proofs.Url.Extension
import ChatRelay.Url.Origin

/-!
Which URLs have an origin. A URL whose path begins with a slash has one of its own or none, as its
path is no other URL.
-/

namespace ChatRelay.Url

variable {u v : Url}

theorem origin?_eq (u : Url) : u.origin? =
    if u.kind = .special then some (u.scheme, u.host?, u.effectivePort?)
    else if u.scheme = "blob".toList then (parse? u.pathText).bind origin?
    else none := by
  rw [origin?, parse?]
  cases parse u.pathText <;> rfl

/-- The origin is that of scheme, authority and path. -/
theorem origin?_congr (hscheme : u.scheme = v.scheme) (hauthority : u.authority = v.authority)
    (hpath : u.path = v.path) : u.origin? = v.origin? := by
  obtain ⟨scheme, authority, path, _, _⟩ := u
  obtain ⟨_, _, _, _, _⟩ := v
  cases hscheme
  cases hauthority
  cases hpath
  rw [origin?_eq, origin?_eq]
  rfl

theorem origin?_eq_none (hkind : u.kind ≠ .special) (hpath : parse? u.pathText = none) :
    u.origin? = none := by
  rw [origin?_eq, if_neg hkind, hpath]
  exact ite_self none

theorem origin?_of_file (h : u.scheme = "file".toList) : u.origin? = none := by
  have hkind : u.kind ≠ .special := by
    rw [kind, h]
    decide
  have hblob : u.scheme ≠ "blob".toList := by
    rw [h]
    decide
  rw [origin?_eq, if_neg hkind, if_neg hblob]

/-- A URL with an origin is special if its path begins with a slash. -/
theorem special_of_origin? {cs : List Char} (h : u.origin? ≠ none) (hpath : u.pathText = '/' :: cs) :
    u.kind = .special := by
  by_contra hkind
  apply h
  apply origin?_eq_none hkind
  rw [hpath, parse?, parse_slash]
  rfl

/-- With a slash behind its scheme, a URL that is not special has a path of segments, and so no
origin. -/
theorem origin?_readGeneral {scheme cs : List Char} (hs : kindOf scheme = .general)
    (h : readGeneral scheme ('/' :: cs) = .ok u) : u.origin? = none := by
  have hkind : u.kind ≠ .special := by
    rw [kind, scheme_readGeneral h, hs]
    decide
  have hcolons : u.path.colons = 0 := by
    unfold readGeneral at h
    split at h
    · exact colons_afterSlashes h
    · cases h
      rfl
    · rename_i hslash
      exact (hslash cs rfl).elim
  apply origin?_eq_none hkind
  cases hinner : parse u.pathText with
  | error fault => rw [parse?, hinner]; rfl
  | ok inner =>
    have hlt := colons_lt_of_parse hinner
    omega

end ChatRelay.Url
