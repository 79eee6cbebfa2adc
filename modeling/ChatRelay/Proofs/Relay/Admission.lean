import ChatRelay.Relay.Exchange

/-!
The checks that a request passes before a relay calls its backend, one after the other; where one
of them fails, the answer is given without a call.
-/

namespace ChatRelay

/-! ### Endpoints -/

namespace Endpoint

theorem mem_all (e : Endpoint) : e ∈ all := by
  cases e <;> decide

theorem Paths.resolve?_eq_none_iff {p : Paths} {path : String} :
    p.resolve? path = none ↔ ∀ e, p.of e ≠ path := by
  simp [resolve?, mem_all]

theorem Paths.of_eq_of_resolve? {p : Paths} {path : String} {e : Endpoint}
    (h : p.resolve? path = some e) : p.of e = path :=
  beq_iff_eq.mp (List.find?_some (p := (p.of · == path)) h)

end Endpoint

namespace Relay

/-! ### What is admitted -/

/-- A body that asks something: a blank one, or one that reads as a client's request. -/
def IsChat (body : List UInt8) : Prop :=
  body.all Chat.Request.isBodyBlank = true ∨ ∃ chat, Chat.Request.parse body = .ok chat

theorem exists_chatRequest_iff {body : List UInt8} {query : Option (List Char)} :
    (∃ chat, chatRequest body query = .ok chat) ↔ IsChat body := by
  unfold chatRequest Chat.Request.ofBody IsChat
  by_cases hblank : body.all Chat.Request.isBodyBlank = true
  · simp [hblank]
  · rw [if_neg hblank]
    cases Chat.Request.parse body <;> simp [hblank]

/-- That a request asks for no upgrade, that the gate lets its path through, and that it is no
question about what is allowed. -/
structure Passed (relay : Relay) (r : Http.Request) (target : Gate.Target) : Prop where
  noUpgrade : r.asksForSocket = false
  resolved : relay.allowlist.resolve r.target.text = .ok target
  noPreflight : r.method ≠ "OPTIONS"

/-- That a request has passed every check: besides, its body can be read, and on the path of an
endpoint it is a POST that asks something. -/
structure Admitted (relay : Relay) (r : Http.Request) (target : Gate.Target)
    (body : List UInt8) : Prop extends Passed relay r target where
  readable : r.body = .ok body
  atEndpoint : ∀ e, relay.endpoints.of e = String.ofList target.backendPath →
    r.method = "POST" ∧ IsChat body

variable {relay : Relay} {backend : Backend} {s : Rag.Sessions} {r : Http.Request}
  {target : Gate.Target} {body : List UInt8}

/-- A request that has not passed is answered without a look at the backend. -/
theorem passed_or_quiet (relay : Relay) (s : Rag.Sessions) (r : Http.Request) :
    (∃ target, relay.Passed r target) ∨
      ∃ answer, ∀ backend, relay.serve backend s r = .quiet s answer := by
  by_cases hsocket : r.asksForSocket = true
  · exact .inr ⟨_, fun backend => if_pos hsocket⟩
  · cases hresolve : relay.allowlist.resolve r.target.text with
    | error rejection =>
      right
      refine ⟨.response (Failure.forbiddenPath rejection.message).response, fun backend => ?_⟩
      rw [serve, if_neg hsocket, hresolve]
      rfl
    | ok target =>
      by_cases hmethod : r.method = "OPTIONS"
      · right
        refine ⟨.response relay.preflight, fun backend => ?_⟩
        rw [serve, if_neg hsocket, hresolve]
        exact if_pos hmethod
      · exact .inl ⟨target, Bool.eq_false_iff.mpr hsocket, hresolve, hmethod⟩

theorem Passed.serve_of_none (h : relay.Passed r target)
    (hnone : relay.endpoints.resolve? (String.ofList target.backendPath) = none) :
    relay.serve backend s r = relay.passOn backend s target r := by
  simp only [serve, h.noUpgrade, h.resolved, h.noPreflight, hnone, Bool.false_eq_true, if_false]

theorem Passed.serve_of_some {e : Endpoint} (h : relay.Passed r target)
    (hsome : relay.endpoints.resolve? (String.ofList target.backendPath) = some e) :
    relay.serve backend s r =
      if r.method = "POST" then relay.serveEndpoint backend s e target r
      else .refused s (notAllowed r.method target.path) := by
  simp only [serve, h.noUpgrade, h.resolved, h.noPreflight, hsome, Bool.false_eq_true, if_false]

/-- What a request to an endpoint asks, if its body can be read and asks something. -/
def chatOf (r : Http.Request) (target : Gate.Target) : Except Failure Chat.Request :=
  (r.body.mapError Failure.badRequest).bind (chatRequest · target.query)

theorem chatOf_eq_ok_iff {chat : Chat.Request} : chatOf r target = .ok chat ↔
    ∃ body, r.body = .ok body ∧ chatRequest body target.query = .ok chat := by
  unfold chatOf
  cases r.body with
  | error reason =>
    constructor
    · intro h
      cases h
    · rintro ⟨body, hbody, -⟩
      cases hbody
  | ok body =>
    constructor
    · intro h
      exact ⟨body, rfl, h⟩
    · rintro ⟨body', hbody, h⟩
      cases hbody
      exact h

theorem serveEndpoint_of_error {e : Endpoint} {failure : Failure}
    (h : chatOf r target = .error failure) :
    relay.serveEndpoint backend s e target r = .refused s failure := by
  unfold chatOf at h
  rw [serveEndpoint, h]

/-- A request that is not admitted is answered without any call. -/
theorem admitted_or_quiet (relay : Relay) (backend : Backend) (s : Rag.Sessions)
    (r : Http.Request) : (∃ target body, relay.Admitted r target body) ∨
      ∃ answer, relay.serve backend s r = .quiet s answer := by
  rcases relay.passed_or_quiet s r with ⟨target, hpassed⟩ | ⟨answer, hquiet⟩
  · -- On a path of no endpoint the body alone is left to check.
    cases hendpoint : relay.endpoints.resolve? (String.ofList target.backendPath) with
    | none =>
      rw [hpassed.serve_of_none hendpoint]
      have hnone := Endpoint.Paths.resolve?_eq_none_iff.mp hendpoint
      cases hbody : r.body with
      | error reason => exact .inr ⟨_, by rw [passOn, hbody]; rfl⟩
      | ok body =>
        exact .inl ⟨target, body, hpassed, hbody, fun e he => absurd he (hnone e)⟩
    | some e =>
      rw [hpassed.serve_of_some hendpoint]
      by_cases hpost : r.method = "POST"
      · rw [if_pos hpost]
        cases hchat : chatOf r target with
        | error failure => exact .inr ⟨_, serveEndpoint_of_error hchat⟩
        | ok chat =>
          obtain ⟨body, hbody, hread⟩ := chatOf_eq_ok_iff.mp hchat
          have hasks : IsChat body := exists_chatRequest_iff.mp ⟨chat, hread⟩
          exact .inl ⟨target, body, hpassed, hbody, fun _ _ => ⟨hpost, hasks⟩⟩
      · exact .inr ⟨_, if_neg hpost⟩
  · exact .inr ⟨answer, hquiet backend⟩

end Relay

end ChatRelay
