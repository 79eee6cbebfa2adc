import ChatRelay.Relay.Router

/-!
Which requests come to the part for the root: those whose path fits a route of the root and no
other. Of a root without names in it these are the root itself and what is not empty behind the
root and a slash.
-/

namespace ChatRelay

namespace Route

/-! ### Patterns without names -/

/-- Whether a pattern has no name in it. -/
def isLiteral (pattern : List Char) : Bool :=
  pattern.all fun c => c != ':' && c != '*'

theorem isLiteral_cons {c : Char} {cs : List Char} :
    isLiteral (c :: cs) = true ↔ (c ≠ ':' ∧ c ≠ '*') ∧ isLiteral cs = true := by
  rw [isLiteral, List.all_cons, Bool.and_eq_true, Bool.and_eq_true, bne_iff_ne, bne_iff_ne]
  rfl

theorem read_literal {cs : List Char} (h : isLiteral cs = true) (more : List Char) :
    read false (cs ++ more) = cs.map .char ++ read false more := by
  induction cs with
  | nil => rfl
  | cons c cs ih =>
    obtain ⟨⟨hcolon, hstar⟩, hrest⟩ := isLiteral_cons.mp h
    have hread : read false (c :: cs ++ more) = .char c :: read false (cs ++ more) := by
      rw [List.cons_append, read, if_neg (by simp), if_neg hcolon, if_neg hstar]
    rw [hread, ih hrest]
    rfl

theorem fits_literal_iff {cs path : List Char} {route : Route} :
    fits (cs.map .char ++ route) path = true ↔
      ∃ rest, path = cs ++ rest ∧ fits route rest = true := by
  induction cs generalizing path with
  | nil => simp
  | cons c cs ih =>
    cases path with
    | nil => simp [fits]
    | cons d path =>
      have hstep : fits ((c :: cs).map .char ++ route) (d :: path) =
          (c == d && fits (cs.map .char ++ route) path) := rfl
      rw [hstep, Bool.and_eq_true, beq_iff_eq, ih]
      constructor
      · rintro ⟨rfl, rest, rfl, hrest⟩
        exact ⟨rest, rfl, hrest⟩
      · rintro ⟨rest, hpath, hrest⟩
        obtain ⟨rfl, rfl⟩ := List.cons.inj hpath
        exact ⟨rfl, rest, rfl, hrest⟩

/-- What fits a literal pattern is its text. -/
theorem fits_ofPattern_iff {root path : List Char} (h : isLiteral root = true) :
    fits (ofPattern root) path = true ↔ path = root := by
  have hread : ofPattern root = root.map .char ++ [] := by
    have happend := read_literal h []
    rwa [List.append_nil] at happend
  rw [hread, fits_literal_iff]
  constructor
  · rintro ⟨rest, rfl, hrest⟩
    rw [List.isEmpty_iff.mp hrest, List.append_nil]
  · rintro rfl
    exact ⟨[], (List.append_nil _).symm, rfl⟩

/-- What fits the pattern for all below a literal one goes on behind a slash. -/
theorem fits_below_iff {root path : List Char} (h : isLiteral root = true) :
    fits (ofPattern (root ++ "/*path".toList)) path = true ↔
      ∃ rest, rest ≠ [] ∧ path = root ++ '/' :: rest := by
  have hread : ofPattern (root ++ "/*path".toList) = root.map .char ++ [.char '/', .rest] := by
    rw [ofPattern, read_literal h]
    rfl
  rw [hread, fits_literal_iff]
  constructor
  · rintro ⟨rest, rfl, hrest⟩
    cases rest with
    | nil => cases hrest
    | cons c rest =>
      have hstep : fits [.char '/', .rest] (c :: rest) = ('/' == c && fits [.rest] rest) := rfl
      rw [hstep, Bool.and_eq_true, beq_iff_eq] at hrest
      obtain ⟨rfl, hlater⟩ := hrest
      refine ⟨rest, ?_, rfl⟩
      rintro rfl
      cases hlater
  · rintro ⟨rest, hne, rfl⟩
    obtain ⟨c, rest, rfl⟩ := List.exists_cons_of_ne_nil hne
    exact ⟨'/' :: c :: rest, rfl, rfl⟩

/-! ### The route that counts -/

theorem of_best? {path : List Char} {routes : List Route} {route : Route}
    (h : best? path routes = some route) : route ∈ routes ∧ route.fits path = true := by
  induction routes generalizing route with
  | nil => cases h
  | cons first routes ih =>
    rw [best?] at h
    cases hrest : best? path routes with
    | none =>
      rw [hrest] at h
      dsimp only at h
      split at h
      · cases h
        exact ⟨List.mem_cons_self, ‹_›⟩
      · cases h
    | some other =>
      rw [hrest] at h
      dsimp only at h
      split at h
      · rename_i hfirst
        cases h
        exact ⟨List.mem_cons_self, (Bool.and_eq_true_iff.mp hfirst).1⟩
      · cases h
        obtain ⟨hmem, hfits⟩ := ih hrest
        exact ⟨List.mem_cons_of_mem _ hmem, hfits⟩

theorem exists_best? {path : List Char} {routes : List Route} {route : Route}
    (hmem : route ∈ routes) (hfits : route.fits path = true) :
    ∃ best, best? path routes = some best := by
  induction routes with
  | nil => cases hmem
  | cons first routes ih =>
    rw [best?]
    cases hrest : best? path routes with
    | some other =>
      dsimp only
      split
      · exact ⟨first, rfl⟩
      · exact ⟨other, rfl⟩
    | none =>
      rcases List.mem_cons.mp hmem with rfl | hmem
      · exact ⟨route, if_pos hfits⟩
      · obtain ⟨best, hbest⟩ := ih hmem
        rw [hrest] at hbest
        cases hbest

end Route

namespace Relay

/-- That a path fits a route of the root, and no other route. -/
structure OnlyProxied (relay : Relay) (path : List Char) : Prop where
  fits : ∃ e ∈ relay.routes, e.1.fits path = true
  only : ∀ e ∈ relay.routes, e.1.fits path = true → e.2 = .proxied

/-- The route that counts leads to the part for the root alone. -/
theorem OnlyProxied.handlersAt {relay : Relay} {path : List Char} (h : relay.OnlyProxied path) :
    relay.handlersAt path ≠ [] ∧ ∀ handler ∈ relay.handlersAt path, handler = .proxied := by
  obtain ⟨e, hmem, hfits⟩ := h.fits
  obtain ⟨best, hbest⟩ := Route.exists_best? (List.mem_map_of_mem hmem) hfits
  obtain ⟨hbestMem, hbestFits⟩ := Route.of_best? hbest
  have hhandlers : relay.handlersAt path = (relay.routes.filter (·.1 == best)).map (·.2) := by
    rw [Relay.handlersAt, hbest]
  rw [hhandlers]
  constructor
  · obtain ⟨e, hmem, heq⟩ := List.mem_map.mp hbestMem
    apply List.ne_nil_of_mem
    exact List.mem_map_of_mem (List.mem_filter.mpr ⟨hmem, beq_iff_eq.mpr heq⟩)
  · -- What has the route that counts fits the path, and so belongs to the root.
    refine List.forall_mem_map.mpr fun e he => ?_
    obtain ⟨hmem, heq⟩ := List.mem_filter.mp he
    apply h.only e hmem
    rw [beq_iff_eq.mp heq]
    exact hbestFits

/-- Where only the routes of the root fit, the part for the root answers every method. -/
theorem OnlyProxied.handlerOf {relay : Relay} {path : List Char} (h : relay.OnlyProxied path)
    (method : String) : relay.handlerOf method path = .proxied := by
  obtain ⟨hsome, hall⟩ := h.handlersAt
  have hany : (relay.handlersAt path).filter (· == .proxied) = relay.handlersAt path :=
    List.filter_eq_self.mpr fun handler hmem => by rw [hall handler hmem]; rfl
  have hget : (relay.handlersAt path).filter (not ∘ (· == .proxied)) = [] :=
    List.filter_eq_nil_iff.mpr fun handler hmem => by rw [hall handler hmem]; decide
  obtain ⟨first, others, hcons⟩ := List.exists_cons_of_ne_nil hsome
  have hfirst : first = .proxied := hall first (hcons ▸ List.mem_cons_self)
  rw [Relay.handlerOf, List.partition_eq_filter_filter, hany, hget, hcons, hfirst]
  dsimp only
  split <;> rfl

/-- Behind a root without names and a slash the part for the root answers, where neither the
WebSocket path nor a health check has a route of its own. -/
theorem onlyProxied_below {relay : Relay} {rest : List Char}
    (hroot : Route.isLiteral relay.allowlist.root = true) (hrest : rest ≠ [])
    (hsocket : (Route.ofPattern relay.socketPath).fits (relay.allowlist.root ++ '/' :: rest) =
      false)
    (hhealth : relay.allowlist.root ++ '/' :: rest ∉ ["/healthz".toList, "/health".toList]) :
    relay.OnlyProxied (relay.allowlist.root ++ '/' :: rest) := by
  have hbelow : (Route.ofPattern (relay.allowlist.root ++ "/*path".toList)).fits
      (relay.allowlist.root ++ '/' :: rest) = true :=
    (Route.fits_below_iff hroot).mpr ⟨rest, hrest, rfl⟩
  have hliteral {name : List Char} (hname : Route.isLiteral name = true)
      (hmem : name ∈ ["/healthz".toList, "/health".toList]) :
      (Route.ofPattern name).fits (relay.allowlist.root ++ '/' :: rest) ≠ true := by
    intro hfits
    rw [(Route.fits_ofPattern_iff hname).mp hfits] at hhealth
    exact hhealth hmem
  have hroute : (Route.ofPattern (relay.allowlist.root ++ "/*path".toList), Handler.proxied) ∈
      relay.routes := by
    simp only [routes, List.map_cons, List.mem_cons, true_or, or_true]
  constructor
  · exact ⟨_, hroute, hbelow⟩
  · intro e he hfits
    simp only [routes, List.map_cons, List.map_nil, List.mem_cons, List.not_mem_nil,
      or_false] at he
    rcases he with rfl | rfl | rfl | rfl | rfl
    · exact absurd hfits (hliteral (by decide) (by decide))
    · exact absurd hfits (hliteral (by decide) (by decide))
    · rfl
    · rfl
    · rw [hsocket] at hfits
      cases hfits

end Relay

end ChatRelay
