import ChatRelay.Proofs.Relay.Routing
import ChatRelay.Proofs.Text.Cut

/-!
Upgrades. Whichever part of a relay a request for a WebSocket comes to, only the one path of the
configuration leads to the backend. On any other path a socket is opened to be closed with the
reason, and what cannot become a socket is refused by the part for the root.
-/

namespace ChatRelay

/-- A request that can become a WebSocket asks for one, with GET. -/
theorem Http.Request.of_handshake {r : Http.Request} {accept : String}
    (h : r.handshake = .ok accept) : r.method = "GET" ∧ r.asksForSocket = true := by
  unfold handshake at h
  simp only [bind, Except.bind, throw, throwThe, MonadExceptOf.throw, pure, Except.pure] at h
  -- Every check but the last ones has to be passed.
  split at h
  · cases h
  · rename_i hmethod
    split at h
    · cases h
    · split at h
      · cases h
      · rename_i hasks
        have hget : r.method = "GET" := by simpa using hmethod
        have hsocket : r.asksForSocket = true := by simpa using hasks
        exact ⟨hget, hsocket⟩

/-! ### Reasons -/

theorem cutTo_closeReason (reason : String) :
    Text.CutTo 123 reason.toList (closeReason reason).toList := by
  rw [closeReason, String.toList_ofList]
  exact Text.cutTo_cut closeReasonLimit reason.toList

theorem utf8ByteSize_closeReason (reason : String) :
    (closeReason reason).utf8ByteSize = Text.lastBoundary reason.toList 123 := by
  rw [closeReason, Text.utf8ByteSize_ofList, closeReasonLimit, Text.cut_eq_takeBytes,
    Text.lastBoundary_eq]

/-- A reason that fits is kept. A longer one becomes its longest beginning that fits, of which the
last character ends where the search for a boundary stops, three bytes back at most. -/
theorem closeReason_longest (reason : String) :
    (reason.utf8ByteSize ≤ 123 → closeReason reason = reason) ∧
    (123 < reason.utf8ByteSize →
      Text.CutTo 123 reason.toList (closeReason reason).toList ∧
      120 ≤ (closeReason reason).utf8ByteSize ∧
      Text.lastBoundary reason.toList 123 = (closeReason reason).utf8ByteSize ∧
      Text.StopsAt reason 123 (closeReason reason).utf8ByteSize) := by
  constructor
  · intro hfits
    rw [← Text.byteSize_toList] at hfits
    rw [closeReason, Text.cut, closeReasonLimit, if_neg (Nat.not_lt.mpr hfits),
      String.ofList_toList]
  · intro hlong
    have hfar : 120 ≤ Text.lastBoundary reason.toList 123 := by
      rw [← Text.byteSize_toList] at hlong
      have hnear := Text.lt_byteSize_takeBytes hlong
      rw [Text.lastBoundary_eq]
      omega
    rw [utf8ByteSize_closeReason]
    exact ⟨cutTo_closeReason reason, hfar, rfl, Text.stopsAt_lastBoundary reason 123⟩

/-- Coins of three bytes each up to the shortest cut there is, and a face of four behind them. -/
def longReason : String := .ofList (List.replicate 40 '€' ++ ['😀'])

theorem closeReason_longReason :
    longReason.utf8ByteSize = 124 ∧ closeReason longReason = .ofList (List.replicate 40 '€') ∧
      (closeReason longReason).utf8ByteSize = 120 ∧
      Text.CutTo 123 longReason.toList (closeReason longReason).toList ∧
      Text.StopsAt longReason 123 120 ∧
      closeReason (closeReason longReason) = closeReason longReason := by
  have hlong : longReason.utf8ByteSize = 124 := by decide +kernel
  have hcut : closeReason longReason = .ofList (List.replicate 40 '€') := by decide +kernel
  have hshort : (closeReason longReason).utf8ByteSize = 120 := by decide +kernel
  obtain ⟨hcutTo, -, -, hstops⟩ := (closeReason_longest longReason).2 (by rw [hlong]; decide)
  rw [hshort] at hstops
  have hkept := (closeReason_longest (closeReason longReason)).1 (by rw [hshort]; decide)
  exact ⟨hlong, hcut, hshort, hcutTo, hstops, hkept⟩

namespace Relay

variable {relay : Relay} {backend : Backend} {s : Rag.Sessions} {r : Http.Request}
  {handler : Handler} {accept : String}

/-- What the gate says of a path that is not the one for WebSockets. -/
def gateReason (relay : Relay) (r : Http.Request) : String :=
  (Gate.UpgradeRejection.mk r.target.path relay.socketPath).message

/-- That a request which has come to a part is one for an upgrade: it can become a WebSocket, or
it asks for one under the root. -/
def IsUpgrade (handler : Handler) (r : Http.Request) : Prop :=
  (∃ accept, r.handshake = .ok accept) ∨ (handler = .proxied ∧ r.asksForSocket = true)

/-- A WebSocket that is closed at once, with a reason cut to what a frame may hold. -/
def TurnedAway (accept reason : String) (answer : Answer) : Prop :=
  ∃ cut, answer = .closed accept cut ∧ answer.closeFrames = [⟨1008, cut⟩] ∧
    Text.CutTo 123 reason.toList cut.toList

theorem turnedAway_closed (accept reason : String) :
    TurnedAway accept reason (.closed accept (closeReason reason)) := by
  exact ⟨closeReason reason, rfl, rfl, cutTo_closeReason reason⟩

/-! ### The parts -/

theorem checkUpgrade_of_ne (h : r.target.path ≠ relay.socketPath) :
    Gate.checkUpgrade relay.socketPath r.target.path =
      .error ⟨r.target.path, relay.socketPath⟩ :=
  if_neg h

theorem upgradeReason_of_ne (h : r.target.path ≠ relay.socketPath) :
    relay.upgradeReason r.target.path = relay.gateReason r := by
  rw [upgradeReason, checkUpgrade_of_ne h]
  rfl

/-- For an upgrade the gate is asked before the method counts or the backend is called. -/
theorem handle_proxied (hasks : r.asksForSocket = true) :
    relay.handle backend s r .proxied = .quiet s (relay.refuseUpgrade r) :=
  if_pos hasks

theorem handle_socket :
    relay.handle backend s r .socket = .quiet s (answerGet r (relay.answerSocket r)) := rfl

theorem refuseUpgrade_of_ok (h : r.handshake = .ok accept) :
    relay.refuseUpgrade r =
      .closed accept (closeReason (relay.upgradeReason r.target.path)) := by
  rw [refuseUpgrade, h]

theorem refuseUpgrade_of_not_ok (h : ∀ accept, r.handshake ≠ .ok accept) :
    relay.refuseUpgrade r =
      .response (Failure.forbiddenPath (relay.upgradeReason r.target.path)).response := by
  rw [refuseUpgrade]
  cases hshake : r.handshake with
  | ok accept => exact absurd hshake (h accept)
  | error fault => rfl

theorem answerNone_of_ok (h : r.handshake = .ok accept) :
    relay.answerNone r =
      .closed accept (closeReason (relay.upgradeReason r.target.path)) := by
  rw [answerNone, h]

theorem answerSocket_of_ne (h : r.handshake = .ok accept)
    (hpath : r.target.path ≠ relay.socketPath) :
    relay.answerSocket r = .closed accept (closeReason (relay.gateReason r)) := by
  rw [answerSocket, h]
  dsimp only
  rw [checkUpgrade_of_ne hpath]
  rfl

theorem answerGet_of_get (h : r.method = "GET") (answer : Answer) : answerGet r answer = answer :=
  if_pos h

/-- On another path every part opens the socket only to close it. -/
theorem handle_of_ok (hhandler : handler ≠ .health) (h : r.handshake = .ok accept)
    (hpath : r.target.path ≠ relay.socketPath) :
    relay.handle backend s r handler =
      .quiet s (.closed accept (closeReason (relay.gateReason r))) := by
  obtain ⟨hget, hasks⟩ := Http.Request.of_handshake h
  have hreason : relay.upgradeReason r.target.path = relay.gateReason r :=
    upgradeReason_of_ne hpath
  cases handler with
  | health => exact absurd rfl hhandler
  | proxied => rw [handle_proxied hasks, refuseUpgrade_of_ok h, hreason]
  | socket =>
    rw [handle_socket, answerGet_of_get hget, answerSocket_of_ne h hpath]
  | none => rw [handle, answerNone_of_ok h, hreason]

/-! ### What is joined -/

theorem answerGet_eq_joined {answer : Answer} {url : Url}
    (h : answerGet r answer = .joined accept url) : answer = .joined accept url := by
  unfold answerGet at h
  split at h
  · exact h
  · split at h
    · cases answer with
      | response response => cases h
      | closed accept reason => cases h
      | joined accept target => exact h
    · cases h

theorem refuseUpgrade_ne_joined {url : Url} : relay.refuseUpgrade r ≠ .joined accept url := by
  rw [refuseUpgrade]
  split <;> exact nofun

theorem passOn_ne_joined {target : Gate.Target} {url : Url} :
    (relay.passOn backend s target r).answer ≠ .joined accept url := by
  rw [passOn]
  split <;> exact nofun

theorem serveEndpoint_ne_joined {e : Endpoint} {target : Gate.Target} {url : Url} :
    (relay.serveEndpoint backend s e target r).answer ≠ .joined accept url := by
  rw [serveEndpoint]
  split
  · exact nofun
  · dsimp only
    split <;> exact nofun

/-- Under the root a socket is only ever closed, and every other answer is a response. -/
theorem serve_ne_joined {url : Url} : (relay.serve backend s r).answer ≠ .joined accept url := by
  unfold serve
  split
  · exact refuseUpgrade_ne_joined
  · split
    · exact nofun
    · split
      · exact nofun
      · split
        · exact passOn_ne_joined
        · split
          · exact serveEndpoint_ne_joined
          · exact nofun

theorem path_of_answerSocket {url : Url} (h : relay.answerSocket r = .joined accept url) :
    r.target.path = relay.socketPath := by
  by_cases hpath : r.target.path = relay.socketPath
  · exact hpath
  · unfold answerSocket at h
    split at h
    · cases h
    · rw [checkUpgrade_of_ne hpath] at h
      cases h

theorem of_handle_eq_joined {url : Url}
    (h : (relay.handle backend s r handler).answer = .joined accept url) :
    handler = .socket ∧ r.target.path = relay.socketPath := by
  cases handler with
  | health =>
    have hhealth : answerGet r (.response healthy) = .joined accept url := h
    cases answerGet_eq_joined hhealth
  | proxied => exact absurd h serve_ne_joined
  | socket => exact ⟨rfl, path_of_answerSocket (answerGet_eq_joined h)⟩
  | none =>
    have hnone : relay.answerNone r = .joined accept url := h
    rw [answerNone] at hnone
    split at hnone <;> cases hnone

/-! ### All parts -/

theorem handle_of_not_ok (hasks : r.asksForSocket = true) (h : ∀ accept, r.handshake ≠ .ok accept)
    (hpath : r.target.path ≠ relay.socketPath) :
    relay.handle backend s r .proxied =
      .quiet s (.response (.ofMember 403 "error" (relay.gateReason r))) := by
  rw [handle_proxied hasks, refuseUpgrade_of_not_ok h, upgradeReason_of_ne hpath]
  rfl

/-- Whichever part a request comes to, a client is joined to the backend by the part for sockets
alone and on the one path alone. For an upgrade on any other path nothing is called or learned:
one that can become a WebSocket is closed with the reason of the gate, and one that cannot is
refused with it by the part for the root, to which it comes where only the root has a route. -/
theorem handle_upgrade (relay : Relay) (backend : Backend) (s : Rag.Sessions) (r : Http.Request)
    (handler : Handler) :
    (∀ accept url, (relay.handle backend s r handler).answer = .joined accept url →
      handler = .socket ∧ r.target.path = relay.socketPath) ∧
    (handler ≠ .health → r.target.path ≠ relay.socketPath → IsUpgrade handler r →
      (relay.handle backend s r handler).calls = [] ∧
      (relay.handle backend s r handler).sessions = s ∧
      (∀ accept, r.handshake = .ok accept →
        TurnedAway accept (relay.gateReason r) (relay.handle backend s r handler).answer) ∧
      (handler = .proxied → (∀ accept, r.handshake ≠ .ok accept) →
        (relay.handle backend s r handler).answer =
          .response (.ofMember 403 "error" (relay.gateReason r)))) ∧
    (relay.OnlyProxied r.target.path → r.target.path ≠ relay.socketPath →
      r.asksForSocket = true → (∀ accept, r.handshake ≠ .ok accept) →
      (relay.respond backend s r).answer =
        .response (.ofMember 403 "error" (relay.gateReason r))) := by
  refine ⟨fun accept url hjoined => of_handle_eq_joined hjoined, ?_, ?_⟩
  · intro hhandler hpath hupgrade
    by_cases hcompletes : ∃ accept, r.handshake = .ok accept
    · obtain ⟨accept, hshake⟩ := hcompletes
      rw [handle_of_ok hhandler hshake hpath]
      refine ⟨rfl, rfl, fun accept' hshake' => ?_, fun _ hfails => absurd hshake (hfails accept)⟩
      obtain rfl : accept = accept' := Except.ok.inj (hshake.symm.trans hshake')
      exact turnedAway_closed accept (relay.gateReason r)
    · -- What cannot become a socket is an upgrade for the part for the root alone.
      obtain ⟨rfl, hasks⟩ := hupgrade.resolve_left hcompletes
      have hfails : ∀ accept, r.handshake ≠ .ok accept := not_exists.mp hcompletes
      rw [handle_of_not_ok hasks hfails hpath]
      exact ⟨rfl, rfl, fun accept hshake => absurd hshake (hfails accept), fun _ _ => rfl⟩
  · intro honly hpath hasks hfails
    rw [respond, honly.handlerOf, handle_of_not_ok hasks hfails hpath]
    rfl

/-- A relay whose WebSocket path has a name in it and lies under the root. -/
def namedRelay : Relay := .ofConfig { routes := { socketPath := "/api/x/:y" } }

/-- A request for a WebSocket that lacks a version and a key. -/
def unfinished (path : List Char) : Http.Request where
  method := "GET"
  target := ⟨path, none⟩
  headers := [⟨"connection", "Upgrade"⟩, ⟨"upgrade", "websocket"⟩]
  body := .ok []
  isUpgradable := true

/-- A request that can become a WebSocket. -/
def finished (path : List Char) : Http.Request :=
  { unfinished path with headers := (unfinished path).headers ++
      [⟨"sec-websocket-version", "13"⟩, ⟨"sec-websocket-key", "dGhlIHNhbXBsZSBub25jZQ=="⟩] }

/-- The route of the WebSocket path fits a path that the gate turns away; a request beside it
comes to the part for the root. -/
theorem handle_upgrade_namedRelay :
    namedRelay.handlerOf "GET" "/api/x/5".toList = .socket ∧
      Handler.socket ≠ .health ∧ "/api/x/5".toList ≠ namedRelay.socketPath ∧
      (∃ accept, (finished "/api/x/5".toList).handshake = .ok accept ∧
        TurnedAway accept "WebSocket path '/api/x/5' is not allowed. Expected: /api/x/:y"
          (namedRelay.handle .unreachable (.fresh "7") (finished "/api/x/5".toList)
            .socket).answer) ∧
      namedRelay.OnlyProxied "/api/x".toList ∧ "/api/x".toList ≠ namedRelay.socketPath ∧
      (unfinished "/api/x".toList).asksForSocket = true ∧
      (unfinished "/api/x".toList).handshake = .error .version ∧
      (namedRelay.respond .unreachable (.fresh "7") (unfinished "/api/x".toList)).answer =
        .response (.ofMember 403 "error"
          "WebSocket path '/api/x' is not allowed. Expected: /api/x/:y") := by
  have hroute : namedRelay.handlerOf "GET" "/api/x/5".toList = .socket := by decide +kernel
  have hhandler : Handler.socket ≠ .health := by decide
  have hpath : "/api/x/5".toList ≠ namedRelay.socketPath := by decide
  have hshake : (finished "/api/x/5".toList).handshake =
      .ok (Http.acceptKey "dGhlIHNhbXBsZSBub25jZQ==") := rfl
  obtain ⟨-, hsocket, -⟩ := handle_upgrade namedRelay .unreachable (.fresh "7")
    (finished "/api/x/5".toList) .socket
  have hturned := (hsocket hhandler hpath (.inl ⟨_, hshake⟩)).2.2.1 _ hshake
  have honly : namedRelay.OnlyProxied "/api/x".toList :=
    ⟨by decide +kernel, by decide +kernel⟩
  have hpath' : "/api/x".toList ≠ namedRelay.socketPath := by decide
  have hasks : (unfinished "/api/x".toList).asksForSocket = true := by decide +kernel
  have hfault : (unfinished "/api/x".toList).handshake = .error .version := rfl
  have hfails : ∀ accept, (unfinished "/api/x".toList).handshake ≠ .ok accept := by
    intro accept hok
    cases hfault.symm.trans hok
  obtain ⟨-, -, hroot⟩ := handle_upgrade namedRelay .unreachable (.fresh "7")
    (unfinished "/api/x".toList) .proxied
  exact ⟨hroute, hhandler, hpath, ⟨_, hshake, hturned⟩, honly, hpath', hasks, hfault,
    hroot honly hpath' hasks hfails⟩

/-- Under the root, but not at the part for it, a request that cannot become a WebSocket is
answered as the part that it comes to answers any other: the WebSocket path by what is missing,
and the root with nothing behind its slash by nothing being there. -/
theorem respond_unfinished :
    (∀ path, (unfinished path).handshake = .error .version) ∧
    (namedRelay.allowlist.root ++ ['/'] <+: "/api/x/5".toList ∧
      "/api/x/5".toList ≠ namedRelay.socketPath ∧
      (unfinished "/api/x/5".toList).asksForSocket = true ∧
      (namedRelay.respond .unreachable (.fresh "7") (unfinished "/api/x/5".toList)).answer =
        .response (.refusal 400 "`Sec-WebSocket-Version` header did not include '13'")) ∧
    (namedRelay.allowlist.root ++ ['/'] <+: "/api/".toList ∧
      "/api/".toList ≠ namedRelay.socketPath ∧
      (unfinished "/api/".toList).asksForSocket = true ∧
      (namedRelay.respond .unreachable (.fresh "7") (unfinished "/api/".toList)).answer =
        .response (.ofMember 404 "error" "Not found")) := by
  refine ⟨fun path => rfl, ?_, ?_⟩
  · decide +kernel
  · decide +kernel

end Relay

end ChatRelay
