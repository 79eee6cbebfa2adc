import ChatRelay.Proofs.Rag.Question
import ChatRelay.Proofs.Relay.Admission

/-!
The calls that a relay makes to its backend for one request: none before the request has passed
every check, and then just those that its path asks for.
-/

namespace ChatRelay

/-! ### Payloads -/

namespace Endpoint

/-- But for the retrieval endpoint, a payload takes no call and changes no conversation. -/
theorem exists_build {e : Endpoint} (h : e ≠ .rag) (chat : Chat.Request)
    (defaults : Chat.Defaults) (url : List Char) : ∃ payload, ∀ s initializer,
      e.build chat defaults url s initializer = ⟨.ok payload, s, []⟩ := by
  cases e with
  | generate => exact ⟨_, fun _ _ => rfl⟩
  | generateStream => exact ⟨_, fun _ _ => rfl⟩
  | chat => exact ⟨_, fun _ _ => rfl⟩
  | chatStream => exact ⟨_, fun _ _ => rfl⟩
  | rag => exact absurd rfl h

/-- What is built depends on the initializer only through the calls made to it. -/
theorem build_congr {e : Endpoint} {chat : Chat.Request} {defaults : Chat.Defaults}
    {url : List Char} {s : Rag.Sessions} {initializer initializer' : Rag.Initializer}
    (h : ∀ call ∈ (e.build chat defaults url s initializer).calls,
      initializer' call.1 call.2 = initializer call.1 call.2) :
    e.build chat defaults url s initializer' = e.build chat defaults url s initializer := by
  by_cases hrag : e = .rag
  · subst hrag
    let a : Rag.Asking := ⟨chat.messages, chat.conversationId, url, initializer⟩
    exact Rag.Asking.outcome_congr (a := a) h
  · obtain ⟨payload, hbuild⟩ := exists_build hrag chat defaults url
    rw [hbuild, hbuild]

end Endpoint

namespace Relay

variable {relay : Relay} {backend : Backend} {s : Rag.Sessions} {r : Http.Request}
  {target : Gate.Target} {body : List UInt8}

/-! ### What is called -/

theorem initializerOf_eq_ok_iff {url : List Char} {uuid : String} :
    initializerOf backend url uuid = .ok () ↔
      ∃ reply, backend (.initialization (initializationUrl url) uuid) = .ok reply ∧
        Http.isSuccess reply.status = true := by
  unfold initializerOf
  cases backend (.initialization (initializationUrl url) uuid) with
  | error reason => simp
  | ok reply => by_cases hsuccess : Http.isSuccess reply.status = true <;> simp [hsuccess]

/-- The question of a client, as it is put for a relay. -/
def asking (relay : Relay) (backend : Backend) (chat : Chat.Request) : Rag.Asking where
  messages := chat.messages
  conversation := chat.conversationId
  backend := relay.backend
  initializer := initializerOf backend

/-- The initialization of a session at the backend of a relay. -/
def initialization (relay : Relay) (s : Rag.Sessions) : Call :=
  .initialization (initializationUrl relay.backend) s.uuid

/-- That the backend takes the initialization: any success will do. -/
def Takes (relay : Relay) (backend : Backend) (s : Rag.Sessions) : Prop :=
  ∃ reply, backend (relay.initialization s) = .ok reply ∧ Http.isSuccess reply.status = true

/-- The question as it is posted. -/
def question (relay : Relay) (target : Gate.Target) (text : String) : Call :=
  .post (target.url relay.backend) (Rag.payload text) false

/-- The calls for a question, and the conversations known after them: an initialization if the
conversation is new, and then the question, if the user spoke last and the initialization was
not needed or has been taken. -/
inductive Asked (relay : Relay) (backend : Backend) (s : Rag.Sessions) (target : Gate.Target)
    (chat : Chat.Request) : List Call → Rag.Sessions → Prop
  | unasked (h : ∀ text, ¬ Rag.Asks chat.messages text) : Asked relay backend s target chat [] s
  | known {text : String} (h : Rag.Asks chat.messages text)
      (hkey : s.key chat.conversationId ∈ s.keys) :
      Asked relay backend s target chat [relay.question target text] s
  | unreachable {text : String} {fault : Gate.BackendFault} (h : Rag.Asks chat.messages text)
      (hkey : s.key chat.conversationId ∉ s.keys)
      (hbackend : Gate.checkBackend relay.backend = .error fault) :
      Asked relay backend s target chat [] s
  | failed {text : String} (h : Rag.Asks chat.messages text)
      (hkey : s.key chat.conversationId ∉ s.keys)
      (hbackend : Gate.checkBackend relay.backend = .ok ()) (hinit : ¬ relay.Takes backend s) :
      Asked relay backend s target chat [relay.initialization s] s
  | initialized {text : String} (h : Rag.Asks chat.messages text)
      (hkey : s.key chat.conversationId ∉ s.keys)
      (hbackend : Gate.checkBackend relay.backend = .ok ()) (hinit : relay.Takes backend s) :
      Asked relay backend s target chat [relay.initialization s, relay.question target text]
        { s with keys := s.key chat.conversationId :: s.keys }

/-- The calls for an admitted request, and the conversations known after them: the request itself
on a path of no endpoint, one payload on the path of an endpoint, and on that of the retrieval
endpoint what the question needs. -/
inductive CallsFor (relay : Relay) (backend : Backend) (s : Rag.Sessions) (r : Http.Request)
    (target : Gate.Target) (body : List UInt8) : List Call → Rag.Sessions → Prop
  | passedOn (h : ∀ e, relay.endpoints.of e ≠ String.ofList target.backendPath) :
      CallsFor relay backend s r target body [.forward (target.url relay.backend) r.method
        (Http.Header.forwarded r.headers) body] s
  | posted {e : Endpoint} {chat : Chat.Request} {payload : Json}
      (h : relay.endpoints.resolve? (String.ofList target.backendPath) = some e)
      (hrag : e ≠ .rag) (hchat : chatRequest body target.query = .ok chat)
      (hpayload : (e.build chat relay.chat relay.backend s (initializerOf backend)).result =
        .ok payload) :
      CallsFor relay backend s r target body
        [.post (target.url relay.backend) payload e.isStreaming] s
  | asked {chat : Chat.Request} {calls : List Call} {s' : Rag.Sessions}
      (h : relay.endpoints.resolve? (String.ofList target.backendPath) = some .rag)
      (hchat : chatRequest body target.query = .ok chat)
      (hasked : relay.Asked backend s target chat calls s') :
      CallsFor relay backend s r target body calls s'

/-- The calls that are left when the payload of an endpoint has been built. -/
def posts (relay : Relay) (e : Endpoint) (target : Gate.Target) : Except Failure Json → List Call
  | .ok payload => [.post (target.url relay.backend) payload e.isStreaming]
  | .error _ => []

/-- At an endpoint the calls are those that building the payload takes, and then the payload. -/
theorem calls_serveEndpoint {e : Endpoint} {chat : Chat.Request} {built : Rag.Outcome}
    (hchat : chatOf r target = .ok chat)
    (hbuilt : e.build chat relay.chat relay.backend s (initializerOf backend) = built) :
    (relay.serveEndpoint backend s e target r).calls =
        (built.calls.map fun (url, uuid) => .initialization (initializationUrl url) uuid) ++
          relay.posts e target built.result ∧
      (relay.serveEndpoint backend s e target r).sessions = built.sessions := by
  unfold chatOf at hchat
  simp only [serveEndpoint, hchat, hbuilt]
  cases built.result with
  | error failure => exact ⟨(List.append_nil _).symm, rfl⟩
  | ok payload => exact ⟨rfl, rfl⟩

theorem asked_serveEndpoint {chat : Chat.Request} (hchat : chatOf r target = .ok chat) :
    relay.Asked backend s target chat (relay.serveEndpoint backend s .rag target r).calls
      (relay.serveEndpoint backend s .rag target r).sessions := by
  have htakes : initializerOf backend relay.backend s.uuid = .ok () ↔ relay.Takes backend s :=
    initializerOf_eq_ok_iff
  have hcourse := (relay.asking backend chat).course_outcome s
  have hbuilt : Endpoint.rag.build chat relay.chat relay.backend s (initializerOf backend) =
      (relay.asking backend chat).outcome s := rfl
  obtain ⟨hcalls, hsessions⟩ := calls_serveEndpoint hchat hbuilt
  rw [hcalls, hsessions]
  -- Each course of the question has its calls, and a payload only where nothing has failed.
  generalize (relay.asking backend chat).outcome s = built at hcourse
  cases hcourse with
  | unasked h => exact .unasked h
  | known h hkey => exact .known h hkey
  | unreachable h hkey hbackend => exact .unreachable h hkey hbackend
  | failed h hkey hbackend hinit =>
    have hrefused : ¬ relay.Takes backend s := by
      intro htaken
      have hok : initializerOf backend relay.backend s.uuid = .ok () := htakes.mpr htaken
      cases hinit.symm.trans hok
    exact .failed h hkey hbackend hrefused
  | initialized h hkey hbackend hinit =>
    exact .initialized h hkey hbackend (htakes.mp hinit)

theorem Admitted.callsFor (h : relay.Admitted r target body) :
    relay.CallsFor backend s r target body (relay.serve backend s r).calls
      (relay.serve backend s r).sessions := by
  cases hendpoint : relay.endpoints.resolve? (String.ofList target.backendPath) with
  | none =>
    have hserve : relay.serve backend s r = relay.passOn backend s target r :=
      h.toPassed.serve_of_none hendpoint
    rw [hserve, passOn, h.readable]
    exact .passedOn (Endpoint.Paths.resolve?_eq_none_iff.mp hendpoint)
  | some e =>
    -- Of two endpoints on one path it is the first that answers, and what is asked of all holds.
    obtain ⟨hpost, hisChat⟩ := h.atEndpoint e (Endpoint.Paths.of_eq_of_resolve? hendpoint)
    obtain ⟨chat, hread⟩ := exists_chatRequest_iff.mpr hisChat
    have hchat : chatOf r target = .ok chat := chatOf_eq_ok_iff.mpr ⟨body, h.readable, hread⟩
    have hserve : relay.serve backend s r = relay.serveEndpoint backend s e target r := by
      rw [h.toPassed.serve_of_some hendpoint, if_pos hpost]
    rw [hserve]
    by_cases hrag : e = .rag
    · subst hrag
      exact .asked hendpoint hread (asked_serveEndpoint hchat)
    · obtain ⟨payload, hbuild⟩ := Endpoint.exists_build hrag chat relay.chat relay.backend
      have hbuilt := hbuild s (initializerOf backend)
      obtain ⟨hcalls, hsessions⟩ := calls_serveEndpoint hchat hbuilt
      rw [hcalls, hsessions]
      exact .posted hendpoint hrag hread (by rw [hbuilt])

/-- Where nothing is called, nothing is learned. -/
theorem CallsFor.sessions_eq {s' : Rag.Sessions}
    (h : relay.CallsFor backend s r target body [] s') : s' = s := by
  cases h with
  | asked _ _ hasked => cases hasked <;> rfl

/-! ### Nothing else is called -/

theorem initializerOf_congr {backend' : Backend} {url : List Char} {uuid : String}
    (h : backend' (.initialization (initializationUrl url) uuid) =
      backend (.initialization (initializationUrl url) uuid)) :
    initializerOf backend' url uuid = initializerOf backend url uuid := by
  rw [initializerOf, h, initializerOf]

theorem passOn_congr {backend' : Backend}
    (h : ∀ call ∈ (relay.passOn backend s target r).calls, backend' call = backend call) :
    relay.passOn backend' s target r = relay.passOn backend s target r := by
  unfold passOn at *
  cases hbody : r.body with
  | error reason => rfl
  | ok body =>
    simp only [hbody, List.mem_singleton, forall_eq] at h
    simp only [h]

theorem serveEndpoint_congr {backend' : Backend} {e : Endpoint}
    (h : ∀ call ∈ (relay.serveEndpoint backend s e target r).calls,
      backend' call = backend call) :
    relay.serveEndpoint backend' s e target r = relay.serveEndpoint backend s e target r := by
  cases hchat : chatOf r target with
  | error failure => rw [serveEndpoint_of_error hchat, serveEndpoint_of_error hchat]
  | ok chat =>
    cases hbuilt : e.build chat relay.chat relay.backend s (initializerOf backend) with
    | mk result sessions calls =>
      -- The calls are those of building the payload, and then the one that posts it.
      rw [(calls_serveEndpoint hchat hbuilt).1] at h
      have hbuilt' : e.build chat relay.chat relay.backend s (initializerOf backend') =
          ⟨result, sessions, calls⟩ := by
        rw [← hbuilt]
        apply Endpoint.build_congr
        intro call hcall
        rw [hbuilt] at hcall
        apply initializerOf_congr
        apply h
        exact List.mem_append_left _ (List.mem_map_of_mem hcall)
      unfold chatOf at hchat
      simp only [serveEndpoint, hchat, hbuilt, hbuilt']
      cases result with
      | error failure => rfl
      | ok payload =>
        have hpost : backend' (.post (target.url relay.backend) payload e.isStreaming) =
            backend (.post (target.url relay.backend) payload e.isStreaming) := by
          apply h
          exact List.mem_append_right _ (List.mem_singleton_self _)
        simp only [hpost]

/-- What comes of a request depends on the backend only through the calls made to it. -/
theorem serve_congr {backend' : Backend}
    (h : ∀ call ∈ (relay.serve backend s r).calls, backend' call = backend call) :
    relay.serve backend' s r = relay.serve backend s r := by
  rcases relay.passed_or_quiet s r with ⟨target, hpassed⟩ | ⟨answer, hquiet⟩
  · cases hendpoint : relay.endpoints.resolve? (String.ofList target.backendPath) with
    | none =>
      rw [hpassed.serve_of_none hendpoint] at h
      rw [hpassed.serve_of_none hendpoint, hpassed.serve_of_none hendpoint]
      exact passOn_congr h
    | some e =>
      rw [hpassed.serve_of_some hendpoint] at h
      rw [hpassed.serve_of_some hendpoint, hpassed.serve_of_some hendpoint]
      by_cases hpost : r.method = "POST"
      · rw [if_pos hpost] at h
        rw [if_pos hpost, if_pos hpost]
        exact serveEndpoint_congr h
      · rw [if_neg hpost, if_neg hpost]
  · rw [hquiet, hquiet]

/-- A relay calls its backend only for a request that has passed every check, and then makes just
the calls that the request is for; without a call the conversations stay as they were. Nothing
else is asked of the backend: one that takes the same calls alike is served alike. -/
theorem serve_calls (relay : Relay) (backend : Backend) (s : Rag.Sessions) (r : Http.Request) :
    ((relay.serve backend s r).calls ≠ [] → ∃ target body, relay.Admitted r target body) ∧
      (∀ target body, relay.Admitted r target body →
        relay.CallsFor backend s r target body (relay.serve backend s r).calls
          (relay.serve backend s r).sessions) ∧
      ((relay.serve backend s r).calls = [] → (relay.serve backend s r).sessions = s) ∧
      ∀ backend' : Backend, (∀ call ∈ (relay.serve backend s r).calls,
        backend' call = backend call) → relay.serve backend' s r = relay.serve backend s r := by
  refine ⟨?_, fun target body h => h.callsFor, ?_, fun backend' h => serve_congr h⟩
  · intro hcalls
    rcases relay.admitted_or_quiet backend s r with hadmitted | ⟨answer, hquiet⟩
    · exact hadmitted
    · rw [hquiet] at hcalls
      exact absurd rfl hcalls
  · intro hcalls
    rcases relay.admitted_or_quiet backend s r with ⟨target, body, hadmitted⟩ | ⟨answer, hquiet⟩
    · have hmade : relay.CallsFor backend s r target body (relay.serve backend s r).calls
          (relay.serve backend s r).sessions := hadmitted.callsFor
      rw [hcalls] at hmade
      exact hmade.sessions_eq
    · rw [hquiet]
      rfl

/-- A relay to a backend on this machine. -/
def localRelay : Relay where
  allowlist := ⟨"/api".toList, ["/call".toList, "/chat".toList]⟩
  socketPath := "/ws".toList
  endpoints := {}
  chat := {}
  corsOrigin := "*"
  idleSeconds := 60
  backend := "http://[::1]:9".toList
  backendSocketPath := []

/-- The first question of a conversation that the query names. -/
def firstQuestion : Http.Request where
  method := "POST"
  target := ⟨"/api/./call".toList, some "session=a".toList⟩
  headers := []
  body := .ok (Utf8.bytes "\x7b\"messages\":[\x7b\"role\":\"user\",\"content\":\"Hi\"\x7d]\x7d")
  isUpgradable := false

/-- A backend that takes initializations and then cannot be reached. -/
def fadingBackend : Backend
  | .initialization _ _ => .ok ⟨204, [], []⟩
  | call => Backend.unreachable call

theorem serve_calls_firstQuestion :
    (localRelay.serve fadingBackend (.fresh "7") firstQuestion).calls.map Call.url =
        ["http://[::1]:9/init".toList, "http://[::1]:9/call?session=a".toList] ∧
      (localRelay.serve fadingBackend (.fresh "7") firstQuestion).sessions = ⟨"7", ["7-a"]⟩ ∧
      ∃ target body, localRelay.Admitted firstQuestion target body ∧
        localRelay.CallsFor fadingBackend (.fresh "7") firstQuestion target body
          (localRelay.serve fadingBackend (.fresh "7") firstQuestion).calls ⟨"7", ["7-a"]⟩ := by
  have hurls : (localRelay.serve fadingBackend (.fresh "7") firstQuestion).calls.map Call.url =
      ["http://[::1]:9/init".toList, "http://[::1]:9/call?session=a".toList] := by decide +kernel
  have hsessions : (localRelay.serve fadingBackend (.fresh "7") firstQuestion).sessions =
      ⟨"7", ["7-a"]⟩ := by decide +kernel
  obtain ⟨hadmits, hmakes, -, -⟩ :=
    serve_calls localRelay fadingBackend (.fresh "7") firstQuestion
  have hcalls : (localRelay.serve fadingBackend (.fresh "7") firstQuestion).calls ≠ [] := by
    intro hnil
    rw [hnil] at hurls
    cases hurls
  obtain ⟨target, body, hadmitted⟩ := hadmits hcalls
  exact ⟨hurls, hsessions, target, body, hadmitted, hsessions ▸ hmakes target body hadmitted⟩

end Relay

end ChatRelay
