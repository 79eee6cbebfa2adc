import ChatRelay.Proofs.Gate.Allowlist
import ChatRelay.Proofs.Url.Extension
import ChatRelay.Relay.Exchange

/-!
Nothing that a client asks for changes where a relay connects to. The path that the gate lets
through begins with a slash, and behind the URL of the backend it can neither extend the
authority nor stand in its stead.
-/

namespace ChatRelay.Gate

/-- Two URLs that lead to the same place as the same user. -/
structure SamePlace (u v : Url) : Prop where
  scheme : u.scheme = v.scheme
  username : u.username = v.username
  password : u.password? = v.password?
  host : u.host? = v.host?
  port : u.effectivePort? = v.effectivePort?

theorem samePlace_of_authority {u v : Url} (hs : u.scheme = v.scheme)
    (ha : u.authority = v.authority) : SamePlace u v where
  scheme := hs
  username := by rw [Url.username, ha, Url.username]
  password := by rw [Url.password?, ha, Url.password?]
  host := by rw [Url.host?, ha, Url.host?]
  port := by rw [Url.effectivePort?, ha, hs, Url.effectivePort?]

theorem SamePlace.symm {u v : Url} (h : SamePlace u v) : SamePlace v u :=
  ⟨h.scheme.symm, h.username.symm, h.password.symm, h.host.symm, h.port.symm⟩

theorem SamePlace.trans {u v w : Url} (h : SamePlace u v) (h' : SamePlace v w) : SamePlace u w :=
  ⟨h.scheme.trans h'.scheme, h.username.trans h'.username, h.password.trans h'.password,
    h.host.trans h'.host, h.port.trans h'.port⟩

theorem kindOf_of_isHttp {scheme : List Char} (h : isHttp scheme = true) :
    Url.kindOf scheme = .special := by
  rcases Bool.or_eq_true_iff.mp h with h | h
  · rw [beq_iff_eq.mp h]
    decide
  · rw [beq_iff_eq.mp h]
    decide

theorem checkBackend_eq_ok_iff {backend : List Char} :
    checkBackend backend = .ok () ↔
      ∃ base, Url.parse backend = .ok base ∧ isHttp base.scheme = true := by
  unfold checkBackend
  cases Url.parse backend with
  | error fault => simp
  | ok base => by_cases h : isHttp base.scheme = true <;> simp [h]

theorem exists_parse_of_checkBackend {backend : List Char} (h : checkBackend backend = .ok ()) :
    ∃ base, Url.parse backend = .ok base ∧ Url.kindOf base.scheme = .special := by
  obtain ⟨base, hbase, hhttp⟩ := checkBackend_eq_ok_iff.mp h
  exact ⟨base, hbase, kindOf_of_isHttp hhttp⟩

/-- The path that is let through stands behind the backend's URL with a slash before it. -/
theorem exists_url {a : Allowlist} {path : List Char} {t : Target} (h : a.resolve path = .ok t)
    (backend : List Char) : ∃ rest, t.url backend = trimSlashes backend ++ '/' :: rest := by
  obtain ⟨-, url, rest, -, -, -, -, rfl⟩ := Allowlist.resolve_eq_ok_iff.mp h
  exact ⟨rest ++ Url.writePart '?' url.query, by rw [Target.url, List.append_assoc]; rfl⟩

/-- Where a relay connects to is settled by the URL of its backend, whether for a path of a
client or for an initialization; no two paths lead to different places. -/
theorem samePlace_of_checkBackend {backend : List Char} (h : checkBackend backend = .ok ()) :
    ∃ base, Url.parse backend = .ok base ∧
      (∀ (a : Allowlist) path t u, a.resolve path = .ok t →
        Url.parse (t.url backend) = .ok u → SamePlace u base) ∧
      (∀ u, Url.parse (Relay.initializationUrl backend) = .ok u → SamePlace u base) ∧
      ∀ (a a' : Allowlist) path path' t t' u u', a.resolve path = .ok t →
        a'.resolve path' = .ok t' → Url.parse (t.url backend) = .ok u →
        Url.parse (t'.url backend) = .ok u' → SamePlace u u' := by
  obtain ⟨base, hbase, hspecial⟩ := exists_parse_of_checkBackend h
  -- Whatever stands behind the slash, the place is the one of the backend.
  have hextension {rest : List Char} {u : Url}
      (hu : Url.parse (trimSlashes backend ++ '/' :: rest) = .ok u) : SamePlace u base := by
    obtain ⟨hscheme, hauthority⟩ := Url.parse_extension hbase hspecial hu
    exact samePlace_of_authority hscheme hauthority
  have htarget (a : Allowlist) (path : List Char) (t : Target) (u : Url)
      (ht : a.resolve path = .ok t) (hu : Url.parse (t.url backend) = .ok u) :
      SamePlace u base := by
    obtain ⟨rest, hrest⟩ := exists_url ht backend
    rw [hrest] at hu
    exact hextension hu
  refine ⟨base, hbase, htarget, fun u hu => hextension hu, ?_⟩
  intro a a' path path' t t' u u' ht ht' hu hu'
  exact (htarget a path t u ht hu).trans (htarget a' path' t' u' ht' hu').symm

/-- A backend with a user and a port, whose URL ends with a blank. -/
def blankBackend : List Char := "http://me:secret@[::1]:8080/base/ ".toList

/-- What is let through of a path that names another user and another host. -/
def strangeTarget : Target :=
  ⟨"/api/chat//you@[::2]/".toList, "/chat//you@[::2]/".toList, some "q=//[::2]".toList⟩

theorem samePlace_blankBackend :
    checkBackend blankBackend = .ok () ∧
      Allowlist.resolve ⟨"/api".toList, ["/chat".toList]⟩ "/api/chat//you@[::2]/?q=//[::2]".toList =
        .ok strangeTarget ∧
      ∃ base u v, Url.parse blankBackend = .ok base ∧
        Url.parse (strangeTarget.url blankBackend) = .ok u ∧
        Url.parse (Relay.initializationUrl blankBackend) = .ok v ∧
        SamePlace u base ∧ SamePlace v base ∧ SamePlace u u := by
  have hexists {cs : List Char} (h : (Url.parse cs).isOk = true) : ∃ u, Url.parse cs = .ok u := by
    cases hparse : Url.parse cs with
    | error fault =>
      rw [hparse] at h
      cases h
    | ok u => exact ⟨u, rfl⟩
  -- The address of the host is a literal, so that no table of names is looked at.
  have hb : checkBackend blankBackend = .ok () := by decide +kernel
  have ht : Allowlist.resolve ⟨"/api".toList, ["/chat".toList]⟩
      "/api/chat//you@[::2]/?q=//[::2]".toList = .ok strangeTarget := by decide +kernel
  have htargetUrl : (Url.parse (strangeTarget.url blankBackend)).isOk = true := by decide +kernel
  have hinitUrl : (Url.parse (Relay.initializationUrl blankBackend)).isOk = true := by
    decide +kernel
  obtain ⟨u, hu⟩ := hexists htargetUrl
  obtain ⟨v, hv⟩ := hexists hinitUrl
  obtain ⟨base, hbase, htarget, hinit, hpair⟩ := samePlace_of_checkBackend hb
  exact ⟨hb, ht, base, u, v, hbase, hu, hv, htarget _ _ _ u ht hu, hinit v hv,
    hpair _ _ _ _ _ _ u u ht ht hu hu⟩

end ChatRelay.Gate
