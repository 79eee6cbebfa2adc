import ChatRelay.CommandLine.Run
import ChatRelay.Proofs.Gate.Appended
import ChatRelay.Proofs.Gate.Enforcement
import ChatRelay.Proofs.Relay.Calls
import ChatRelay.Relay.Router

/-!
What the check of a path says of the backend, beside what the relay of the same configuration does
there. For a request it is the URL that is called and the part that calls it. For a WebSocket it
is the text of the configuration, which need not name the URL that is dialled.
-/

namespace ChatRelay

namespace Relay

variable {relay : Relay} {backend : Backend} {s : Rag.Sessions} {r : Http.Request}
  {target : Gate.Target} {body : List UInt8}

/-! ### What the relay does -/

/-- As what a relay serves the requests that it has let through to a target: as those of an
endpoint, which are to be posted, or by passing them on. -/
inductive ServedAs (relay : Relay) (target : Gate.Target) : String → Prop
  | endpoint {e : Endpoint} (h : ∀ backend s r, relay.Passed r target →
      relay.serve backend s r =
        if r.method = "POST" then relay.serveEndpoint backend s e target r
        else .refused s (notAllowed r.method target.path)) : ServedAs relay target e.name
  | passthrough (h : ∀ backend s r, relay.Passed r target →
      relay.serve backend s r = relay.passOn backend s target r) :
      ServedAs relay target "passthrough"

/-- That a relay calls the target of a path, and nothing but that and the opening of sessions,
for the requests on the path. -/
structure Dials (relay : Relay) (path : List Char) (target : Gate.Target) : Prop where
  resolved : relay.allowlist.resolve path = .ok target
  only : ∀ backend s r handler, r.target.text = path →
    ∀ call ∈ (relay.handle backend s r handler).calls,
      call = relay.initialization s ∨ call.url = target.url relay.backend
  made : ∀ backend s r body, relay.Admitted r target body →
    relay.CallsFor backend s r target body (relay.serve backend s r).calls
      (relay.serve backend s r).sessions

/-- That a relay joins the clients that ask for a path without a query to one WebSocket of its
backend. -/
structure DialsSocket (relay : Relay) (path : List Char) (u : Url) : Prop where
  url : Gate.socketUrl relay.backend relay.backendSocketPath none = .ok u
  joined : ∀ r accept, r.handshake = .ok accept → r.target = ⟨path, none⟩ →
    relay.answerSocket r = .joined accept u

/-- All calls for a request go to its target, but for the one that opens a session. -/
theorem CallsFor.of_mem {calls : List Call} {s' : Rag.Sessions} {call : Call}
    (h : relay.CallsFor backend s r target body calls s') (hcall : call ∈ calls) :
    call = relay.initialization s ∨ call.url = target.url relay.backend := by
  cases h with
  | passedOn _ =>
    obtain rfl := List.mem_singleton.mp hcall
    exact .inr rfl
  | posted _ _ _ _ =>
    obtain rfl := List.mem_singleton.mp hcall
    exact .inr rfl
  | asked _ _ hasked =>
    cases hasked with
    | unasked _ => cases hcall
    | known _ _ =>
      obtain rfl := List.mem_singleton.mp hcall
      exact .inr rfl
    | unreachable _ _ _ => cases hcall
    | failed _ _ _ _ => exact .inl (List.mem_singleton.mp hcall)
    | initialized _ _ _ _ =>
      rcases List.mem_cons.mp hcall with hfirst | hlater
      · exact .inl hfirst
      · obtain rfl := List.mem_singleton.mp hlater
        exact .inr rfl

/-- Whichever part of a relay a request comes to, no call goes anywhere else. -/
theorem url_of_mem_calls (hresolve : relay.allowlist.resolve r.target.text = .ok target)
    {handler : Handler} {call : Call} (hcall : call ∈ (relay.handle backend s r handler).calls) :
    call = relay.initialization s ∨ call.url = target.url relay.backend := by
  cases handler with
  -- Only what is under the root is served by the backend.
  | health => cases hcall
  | socket => cases hcall
  | none => cases hcall
  | proxied =>
    change call ∈ (relay.serve backend s r).calls at hcall
    rcases relay.admitted_or_quiet backend s r with ⟨target', body, hadmitted⟩ | ⟨answer, hquiet⟩
    · obtain rfl : target' = target := Except.ok.inj (hadmitted.resolved.symm.trans hresolve)
      exact hadmitted.callsFor.of_mem hcall
    · rw [hquiet] at hcall
      cases hcall

theorem dials_of_resolve {path : List Char} (h : relay.allowlist.resolve path = .ok target) :
    relay.Dials path target where
  resolved := h
  only := by
    rintro backend s r handler rfl call hcall
    exact url_of_mem_calls h hcall
  made := fun _ _ _ _ hadmitted => hadmitted.callsFor

theorem dialsSocket_of_socketUrl {u : Url}
    (h : Gate.socketUrl relay.backend relay.backendSocketPath none = .ok u) :
    relay.DialsSocket relay.socketPath u where
  url := h
  joined := by
    intro r accept hshake hpath
    have hcheck : Gate.checkUpgrade relay.socketPath relay.socketPath = .ok () := if_pos rfl
    rw [answerSocket, hshake, hpath]
    dsimp only
    rw [hcheck]
    dsimp only
    rw [h]

end Relay

namespace CommandLine

/-! ### What is said -/

/-- That a verdict reports a path as allowed. -/
def Allowed (report : String) : Prop := "ALLOWED".toList <+: report.toList

theorem allowed_verdict_iff {path : String} {result : Except String String} :
    Allowed (verdict path result) ↔ ∃ target, result = .ok target := by
  cases result with
  | ok target =>
    refine iff_of_true ?_ ⟨target, rfl⟩
    rw [Allowed, verdict]
    simp only [String.toList_append, List.append_assoc]
    exact List.IsPrefix.trans ⟨[' ', ' '], by decide⟩ (List.prefix_append _ _)
  | error reason =>
    refine iff_of_false ?_ fun ⟨_, h⟩ => nomatch h
    rw [Allowed, verdict]
    simp only [String.toList_append, List.append_assoc]
    -- The two verdicts differ in their first letters.
    intro h
    exact absurd (List.cons_prefix_cons.mp h).1 (by decide)

theorem servedAs_handling (c : Config) (target : Gate.Target) :
    (Relay.ofConfig c).ServedAs target (handling c target.backendPath) := by
  unfold handling
  cases hendpoint : c.routes.endpoints.resolve? (String.ofList target.backendPath) with
  | none => exact .passthrough fun backend s r h => h.serve_of_none hendpoint
  | some e => exact .endpoint fun backend s r h => h.serve_of_some hendpoint

theorem exists_of_allowed_checkPath {c : Config} {path : String} (h : Allowed (checkPath c path)) :
    ∃ target, c.allowlist.resolve path.toList = .ok target ∧
      checkPath c path = "ALLOWED  " ++ path ++ " -> " ++
        (String.ofList (target.url (Relay.ofConfig c).backend) ++ " [" ++
          handling c target.backendPath ++ "]") ++ "\n" := by
  unfold checkPath at *
  cases hresolve : c.allowlist.resolve path.toList with
  | error rejection =>
    rw [hresolve] at h
    obtain ⟨told, htold⟩ := allowed_verdict_iff.mp h
    cases htold
  | ok target =>
    have hurl : target.url (Relay.ofConfig c).backend = target.url c.backend.url.toList :=
      Gate.url_trimSlashes target c.backend.url.toList
    refine ⟨target, rfl, ?_⟩
    rw [hurl]
    rfl

theorem eq_of_allowed_checkSocket {c : Config} {path : String} (h : Allowed (checkSocket c path)) :
    path = c.routes.socketPath ∧
      checkSocket c path = "ALLOWED  " ++ path ++ " -> " ++ socketTarget c ++ "\n" := by
  unfold checkSocket Gate.checkUpgrade at *
  by_cases hpath : path.toList = c.routes.socketPath.toList
  · refine ⟨String.toList_inj.mp hpath, ?_⟩
    rw [if_pos hpath]
    rfl
  · rw [if_neg hpath] at h
    obtain ⟨told, htold⟩ := allowed_verdict_iff.mp h
    cases htold

/-- What is said of an allowed path is what the relay does: of requests the URL that is called,
and as what they are served. Of a WebSocket the text that is said names the URL that is dialled,
if its path is one as reading leaves it, just if the URL of the backend says nothing but where
the backend is. -/
theorem allowed_targets {c : Config} (hc : c.check = .ok ()) :
    (∀ path, Allowed (checkPath c path) → ∃ target kind,
      checkPath c path = "ALLOWED  " ++ path ++ " -> " ++
        (String.ofList (target.url (Relay.ofConfig c).backend) ++ " [" ++ kind ++ "]") ++ "\n" ∧
      (Relay.ofConfig c).Dials path.toList target ∧
      (Relay.ofConfig c).ServedAs target kind) ∧
    ∀ path, Allowed (checkSocket c path) →
      checkSocket c path = "ALLOWED  " ++ path ++ " -> " ++ socketTarget c ++ "\n" ∧
      ∃ u, (Relay.ofConfig c).DialsSocket path.toList u ∧
        ∀ later, Url.Settling later none →
          c.backend.socketPath.toList = Url.writeSegments later →
          (Gate.NamesSocket (socketTarget c).toList u ↔
            Gate.OnlyPlace c.backend.url.toList) := by
  constructor
  · intro path hallowed
    obtain ⟨target, hresolve, htold⟩ := exists_of_allowed_checkPath hallowed
    exact ⟨target, handling c target.backendPath, htold, Relay.dials_of_resolve hresolve,
      servedAs_handling c target⟩
  · intro path hallowed
    obtain ⟨rfl, htold⟩ := eq_of_allowed_checkSocket hallowed
    have hb := (Config.check_eq_ok_iff.mp hc).2.2.2
    obtain ⟨base, socket, -, -, -, hu⟩ :=
      Gate.socketUrl_trimSlashes hb c.backend.socketPath.toList
    refine ⟨htold, _, Relay.dialsSocket_of_socketUrl hu, fun later hl hpath => ?_⟩
    rw [hpath] at hu ⊢
    rw [socketTarget, String.toList_append, hpath]
    exact Gate.namesSocket_socketUrl_iff hb hl hu

/-- A backend that is a host and a port. -/
def plainConfig : Config where
  backend := { url := "http://[::1]:8000" }

theorem allowed_targets_plainConfig :
    plainConfig.check = .ok () ∧
      checkPath plainConfig "/api/x/../call?q" =
        "ALLOWED  /api/x/../call?q -> http://[::1]:8000/call?q [context-aware-rag]\n" ∧
      checkSocket plainConfig "/ws" = "ALLOWED  /ws -> http://[::1]:8000/websocket\n" ∧
      (∃ target kind, (Relay.ofConfig plainConfig).Dials "/api/x/../call?q".toList target ∧
        (Relay.ofConfig plainConfig).ServedAs target kind) ∧
      ∃ u, (Relay.ofConfig plainConfig).DialsSocket "/ws".toList u ∧
        Gate.NamesSocket "http://[::1]:8000/websocket".toList u := by
  have hc : plainConfig.check = .ok () := by decide +kernel
  have hpath : checkPath plainConfig "/api/x/../call?q" =
      "ALLOWED  /api/x/../call?q -> http://[::1]:8000/call?q [context-aware-rag]\n" := by
    decide +kernel
  have hsocket : checkSocket plainConfig "/ws" =
      "ALLOWED  /ws -> http://[::1]:8000/websocket\n" := by decide +kernel
  obtain ⟨hpaths, hsockets⟩ := allowed_targets hc
  obtain ⟨target, kind, -, hdials, hserved⟩ := hpaths "/api/x/../call?q" (by
    rw [Allowed, hpath]
    decide +kernel)
  obtain ⟨-, u, hdialsSocket, hnames⟩ := hsockets "/ws" (by
    rw [Allowed, hsocket]
    decide +kernel)
  have hread : Url.readSegments .special [] "websocket".toList = ["websocket".toList] := by
    decide +kernel
  have hsettling : Url.Settling ["websocket".toList] none :=
    ⟨List.cons_ne_nil _ _, hread ▸ Url.settled_readSegments_nil _, fun _ h => nomatch h⟩
  have hroot : Url.parse ("http://[::1]:8000".toList ++ ['/']) = .ok
      ⟨"http".toList, some ⟨[], none, some (.ipv6 [0, 0, 0, 0, 0, 0, 0, 1]), some 8000⟩,
        .segments [[]], none, none⟩ := by decide +kernel
  exact ⟨hc, hpath, hsocket, ⟨target, kind, hdials, hserved⟩, u, hdialsSocket,
    (hnames _ hsettling rfl).mpr ⟨_, hroot, rfl, rfl, rfl⟩⟩

/-- A backend whose URL ends with a slash. -/
def slashedConfig : Config where
  backend := { url := "http://[::1]:8000/" }

/-- The slash is said twice, and dialled once. -/
theorem not_namesSocket_slashedConfig :
    slashedConfig.check = .ok () ∧
      checkSocket slashedConfig "/ws" = "ALLOWED  /ws -> http://[::1]:8000//websocket\n" ∧
      ∃ u, (Relay.ofConfig slashedConfig).DialsSocket "/ws".toList u ∧
        u.write = "ws://[::1]:8000/websocket".toList ∧
        ¬ Gate.NamesSocket "http://[::1]:8000//websocket".toList u := by
  have hu : Gate.socketUrl (Relay.ofConfig slashedConfig).backend
      (Relay.ofConfig slashedConfig).backendSocketPath none = .ok
        ⟨"ws".toList, some ⟨[], none, some (.ipv6 [0, 0, 0, 0, 0, 0, 0, 1]), some 8000⟩,
          .segments ["websocket".toList], none, none⟩ := by decide +kernel
  have hsaid : (Url.parse "http://[::1]:8000//websocket".toList).map (·.path) =
      .ok (.segments [[], "websocket".toList]) := by decide +kernel
  refine ⟨by decide +kernel, by decide +kernel, _, Relay.dialsSocket_of_socketUrl hu,
    by decide +kernel, ?_⟩
  rintro ⟨v, hparse, hscheme⟩
  rw [hparse] at hsaid
  have hpath : .segments ["websocket".toList] = v.path :=
    congrArg Url.path (Url.eq_of_withScheme? hscheme)
  rw [Except.map, ← hpath] at hsaid
  exact absurd hsaid (by decide)

end CommandLine

end ChatRelay
