import ChatRelay.Proofs.Config.Check
import ChatRelay.Proofs.Gate.Fidelity
import ChatRelay.Proofs.Url.Continuation
import ChatRelay.Relay.Basic

/-!
Which backends the gate can be enforced for. A configuration is checked for a backend whose URL is
one of HTTP, but what the gate lets through is put behind the text of that URL. It reaches the
backend as it was checked if the URL with a slash behind it has neither query nor fragment; if not,
the path is lost in the one or the other, or there is no URL.
-/

namespace ChatRelay.Gate

open Url (Continued Settling writeTail)

/-- The backend is asked for what the gate has checked: the target is read as a URL of HTTP, its
path ends with the one that was checked, and the query is the one that was checked. -/
def Received (backend : List Char) (t : Target) : Prop :=
  ∃ u, Url.parse (t.url backend) = .ok u ∧ isHttp u.scheme = true ∧
    t.backendPath <:+ u.pathText ∧ u.query = t.query

/-- Paths are read as paths behind the URL of a backend: with a slash behind it, it is a URL
without query and fragment. -/
def Enforceable (backend : List Char) : Prop :=
  ∃ root, Url.parse (trimSlashes backend ++ ['/']) = .ok root ∧ root.query = none ∧
    root.fragment = none

/-- What was checked is in the URL of a backend already, and whatever stands behind that is hidden
by its fragment. -/
def Anticipates (backend : List Char) (t : Target) : Prop :=
  ∃ base, Url.parse backend = .ok base ∧ base.fragment.isSome = true ∧
    t.backendPath <:+ base.pathText ∧ base.query = t.query

/-- What is let through stands behind the URL of a backend as reading leaves it. -/
theorem exists_settling_of_resolve {a : Allowlist} (rooted : a.Rooted) {path : List Char}
    {t : Target} (h : a.resolve path = .ok t) : ∃ later, Settling later t.query ∧
      t.backendPath = Url.writeSegments later ∧
      ∀ backend, t.url backend = trimSlashes backend ++ writeTail later t.query := by
  obtain ⟨later, hne, hsettled, hpath, hquery⟩ := exists_settled_of_resolve rooted h
  refine ⟨later, ⟨hne, hsettled, hquery⟩, hpath, fun backend => ?_⟩
  rw [Target.url, hpath, writeTail, List.append_assoc]

theorem enforceable_iff {backend : List Char} {root : Url}
    (h : Url.parse (trimSlashes backend ++ writeTail [[]] none) = .ok root) :
    Enforceable backend ↔ root.query = none ∧ root.fragment = none := by
  constructor
  · rintro ⟨root', hroot', hquery, hfragment⟩
    obtain rfl : root' = root := Except.ok.inj (hroot'.symm.trans h)
    exact ⟨hquery, hfragment⟩
  · rintro ⟨hquery, hfragment⟩
    exact ⟨root, h, hquery, hfragment⟩

theorem not_anticipates {backend : List Char} {base : Url} (hbase : Url.parse backend = .ok base)
    (hwhole : base.fragment = none) (t : Target) : ¬ Anticipates backend t := by
  rintro ⟨base', hbase', hfragment, -⟩
  obtain rfl : base' = base := Except.ok.inj (hbase'.symm.trans hbase)
  rw [hwhole] at hfragment
  cases hfragment

/-- Behind a plain URL what was checked is received; behind any other only what the URL of the
backend has of itself. -/
theorem received_iff {backend : List Char} (hb : checkBackend backend = .ok ()) {a : Allowlist}
    (rooted : a.Rooted) {path : List Char} {t : Target} (ht : a.resolve path = .ok t) :
    Received backend t ↔ Enforceable backend ∨ Anticipates backend t := by
  obtain ⟨base, hbase, hhttp⟩ := checkBackend_eq_ok_iff.mp hb
  obtain ⟨later, hlater, hpath, hurl⟩ := exists_settling_of_resolve rooted ht
  rw [Received, hurl]
  cases Url.continued_of_parse hbase (kindOf_of_isHttp hhttp) with
  | path front h =>
    -- The path goes on with the one of the backend, so that both sides hold.
    have hparse := h later t.query hlater
    refine iff_of_true ⟨_, hparse, hhttp, ?_, rfl⟩
      (.inl ((enforceable_iff (h [[]] none Url.settling_root)).mpr ⟨rfl, rfl⟩))
    rw [hpath, Url.pathText, Url.Path.write, Url.writeSegments_append]
    exact List.suffix_append _ _
  | query whole h =>
    obtain ⟨text, hlength, hparse⟩ := h later t.query hlater
    obtain ⟨slash, -, hroot⟩ := h [[]] none Url.settling_root
    refine iff_of_false ?_ (not_or.mpr ⟨fun he => ?_, not_anticipates hbase whole t⟩)
    · rintro ⟨u, hu, -, -, hquery⟩
      obtain rfl := Except.ok.inj (hparse.symm.trans hu)
      -- The path has become part of the query, which is longer than the one that was checked.
      rw [writeTail, ← hquery, Url.writePart, List.length_append, List.length_cons] at hlength
      omega
    · cases ((enforceable_iff hroot).mp he).1
  | fragment hidden h =>
    obtain ⟨text, hparse⟩ := h later t.query hlater
    obtain ⟨slash, hroot⟩ := h [[]] none Url.settling_root
    have hunenforceable : ¬ Enforceable backend := by
      intro he
      cases ((enforceable_iff hroot).mp he).2
    rw [or_iff_right hunenforceable]
    -- All that is put behind the URL is hidden, and path and query are the backend's own.
    constructor
    · rintro ⟨u, hu, -, hsuffix, hquery⟩
      obtain rfl := Except.ok.inj (hparse.symm.trans hu)
      exact ⟨base, hbase, hidden, hsuffix, hquery⟩
    · rintro ⟨base', hbase', -, hsuffix, hquery⟩
      obtain rfl : base' = base := Except.ok.inj (hbase'.symm.trans hbase)
      exact ⟨_, hparse, hhttp, hsuffix, hquery⟩
  | nothing whole h =>
    obtain ⟨fault, hparse⟩ := h later t.query hlater
    obtain ⟨fault', hroot⟩ := h [[]] none Url.settling_root
    refine iff_of_false ?_ (not_or.mpr ⟨?_, not_anticipates hbase whole t⟩)
    -- Neither a path nor a slash leaves a URL behind such a text.
    · rintro ⟨u, hu, -⟩
      cases hparse.symm.trans hu
    · rintro ⟨root, hu, -⟩
      cases hroot.symm.trans hu

theorem url_trimSlashes (t : Target) (backend : List Char) :
    t.url (trimSlashes backend) = t.url backend := by
  rw [Target.url, Target.url, Url.trimSlashes_trimSlashes]

/-- The relay of a configuration that has been accepted asks its backend for what the gate has
checked if the URL of the backend is a plain one. If it is not, the backend receives nothing but
what its own URL says. -/
theorem received_ofConfig_iff {c : Config} (h : c.check = .ok ()) {path : List Char} {t : Target}
    (ht : c.allowlist.resolve path = .ok t) :
    Received (Relay.ofConfig c).backend t ↔
      Enforceable c.backend.url.toList ∨ Anticipates c.backend.url.toList t := by
  -- The relay keeps the URL of its backend without the slashes at the end, which no path needs.
  have hurl : t.url (Relay.ofConfig c).backend = t.url c.backend.url.toList :=
    url_trimSlashes t c.backend.url.toList
  obtain ⟨⟨hroot, -⟩, -, -, hb⟩ := Config.check_eq_ok_iff.mp h
  rw [Received, hurl]
  exact received_iff hb (.inr (Config.head?_of_isAbsolute hroot)) ht

/-- What is let through by default of a path with dots and a query. -/
def callTarget : Target :=
  ⟨"/api/call/a".toList, "/call/a".toList, some "q=/../".toList⟩

/-- A backend whose URL ends with slashes and a blank. -/
def paddedConfig : Config where
  backend := { url := "http://[::1]:8080/base// " }

theorem received_callTarget :
    paddedConfig.check = .ok () ∧
      paddedConfig.allowlist.resolve "/api/x/../call/a?q=/../#part".toList = .ok callTarget ∧
      Enforceable paddedConfig.backend.url.toList ∧
      Received (Relay.ofConfig paddedConfig).backend callTarget := by
  have hc : paddedConfig.check = .ok () := by decide +kernel
  have ht : paddedConfig.allowlist.resolve "/api/x/../call/a?q=/../#part".toList =
      .ok callTarget := by decide +kernel
  have hroot : Url.parse (trimSlashes paddedConfig.backend.url.toList ++ ['/']) = .ok
      ⟨"http".toList, some ⟨[], none, some (.ipv6 [0, 0, 0, 0, 0, 0, 0, 1]), some 8080⟩,
        .segments ["base".toList, [], "%20".toList, []], none, none⟩ := by decide +kernel
  have he : Enforceable paddedConfig.backend.url.toList := ⟨_, hroot, rfl, rfl⟩
  exact ⟨hc, ht, he, (received_ofConfig_iff hc ht).mpr (.inl he)⟩

/-- A backend whose URL has a key in its query. -/
def keyedConfig : Config where
  backend := { url := "http://[::1]/?key=1" }

/-- The path that was checked is lost in the query. -/
theorem not_received_keyedConfig :
    keyedConfig.check = .ok () ∧
      keyedConfig.allowlist.resolve "/api/x/../call/a?q=/../#part".toList = .ok callTarget ∧
      (Url.parse (callTarget.url (Relay.ofConfig keyedConfig).backend)).map
          (fun u => (u.pathText, u.query)) =
        .ok ("/".toList, some "key=1/call/a?q=/../".toList) ∧
      ¬ Received (Relay.ofConfig keyedConfig).backend callTarget := by
  have hu : (Url.parse (callTarget.url (Relay.ofConfig keyedConfig).backend)).map
      (fun u => (u.pathText, u.query)) =
        .ok ("/".toList, some "key=1/call/a?q=/../".toList) := by decide +kernel
  refine ⟨by decide +kernel, by decide +kernel, hu, ?_⟩
  rintro ⟨u, hparse, -, -, hquery⟩
  rw [hparse] at hu
  have hlost : u.query = some "key=1/call/a?q=/../".toList :=
    congrArg Prod.snd (Except.ok.inj hu)
  exact absurd (hlost.symm.trans hquery) (by decide)

end ChatRelay.Gate
