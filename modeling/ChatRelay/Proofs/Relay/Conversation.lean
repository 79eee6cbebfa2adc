import ChatRelay.Proofs.Rag.Sessions
import ChatRelay.Proofs.Relay.Calls
import ChatRelay.Proofs.Relay.Naming

/-!
The conversation that a question belongs to. The body of a request names it, or else its query; an
empty name in the body keeps the query from being asked and then counts as no name.
-/

namespace ChatRelay

namespace Rag

/-- What is built for a question depends on its conversation only through the key. -/
theorem build_congr_key {s : Sessions} {c c' : Option String} (h : s.key c = s.key c')
    (messages : List Chat.Message) (backend : List Char) (initializer : Initializer) :
    build messages c backend s initializer = build messages c' backend s initializer := by
  have hneed : need s c backend = need s c' backend := by
    unfold need
    rw [h]
  unfold build
  rw [hneed]

end Rag

namespace Relay

variable {relay : Relay} {backend : Backend} {s : Rag.Sessions} {r r' : Http.Request}
  {target : Gate.Target} {chat chat' : Chat.Request}

/-- The name that a query gives is never empty. -/
theorem ne_empty_of_conversationOfQuery {query : Option (List Char)} {id : String}
    (h : conversationOfQuery query = some id) : id ≠ "" := by
  cases query with
  | none => cases h
  | some query =>
    rw [conversationOfQuery_some] at h
    obtain ⟨p, hfind, rfl⟩ := Option.map_eq_some_iff.mp h
    exact (isNaming_iff.mp (List.find?_some hfind)).2

/-- That a query names the default conversation, if it names any. -/
def NamesDefault (query : Option (List Char)) : Prop :=
  ∀ id, conversationOfQuery query = some id → id = Rag.Sessions.defaultConversation

theorem key_none_eq_iff {query : Option (List Char)} :
    s.key none = s.key (conversationOfQuery query) ↔ NamesDefault query := by
  rw [Rag.Sessions.key_eq_key_iff rfl]
  constructor
  · intro h id hid
    rw [hid] at h
    rcases h with h | ⟨-, h | h | h⟩
    · cases h
    · cases h
    · cases h
      exact absurd rfl (ne_empty_of_conversationOfQuery hid)
    · exact Option.some.inj h
  · intro h
    cases hquery : conversationOfQuery query with
    | none => exact .refl none
    | some id => exact .inr ⟨.inl rfl, .inr (.inr (congrArg some (h id hquery)))⟩

/-- That a request is accepted for the retrieval endpoint, and what its client asks. -/
structure Questions (relay : Relay) (r : Http.Request) (target : Gate.Target)
    (chat : Chat.Request) : Prop extends Passed relay r target where
  endpoint : relay.endpoints.resolve? (String.ofList target.backendPath) = some .rag
  post : r.method = "POST"
  read : chatOf r target = .ok chat

/-- The key that a question is served under. -/
def ServedUnder (relay : Relay) (s : Rag.Sessions) (r : Http.Request) (key : String) : Prop :=
  ∃ target chat, relay.Questions r target chat ∧ s.key chat.conversationId = key

theorem Questions.serve_eq (h : relay.Questions r target chat) :
    relay.serve backend s r = relay.serveEndpoint backend s .rag target r := by
  rw [h.serve_of_some h.endpoint, if_pos h.post]

/-- The same messages under one key are served alike. -/
theorem Questions.serve_congr (h : relay.Questions r target chat)
    (h' : relay.Questions r' target chat') (messages : chat.messages = chat'.messages)
    (key : s.key chat.conversationId = s.key chat'.conversationId) :
    relay.serve backend s r = relay.serve backend s r' := by
  -- All that is left of a request behind the checks is its question and the target.
  have hbuild : Endpoint.rag.build chat relay.chat relay.backend s (initializerOf backend) =
      Endpoint.rag.build chat' relay.chat relay.backend s (initializerOf backend) := by
    unfold Endpoint.build
    rw [messages]
    exact Rag.build_congr_key key _ _ _
  have hread := h.read
  have hread' := h'.read
  unfold chatOf at hread hread'
  rw [h.serve_eq, h'.serve_eq]
  simp only [serveEndpoint, hread, hread', hbuild]

/-- The query is asked for a name only if the body has none, not even an empty one. -/
theorem questions_of_ofBody {body : List UInt8} (passed : relay.Passed r target)
    (endpoint : relay.endpoints.resolve? (String.ofList target.backendPath) = some .rag)
    (post : r.method = "POST") (read : Chat.Request.ofBody body = .ok chat) :
    relay.Questions { r with body := .ok body } target
      { chat with conversationId := chat.conversationId <|> conversationOfQuery target.query } := by
  refine ⟨⟨passed.noUpgrade, passed.resolved, passed.noPreflight⟩, endpoint, post, ?_⟩
  apply chatOf_eq_ok_iff.mpr
  refine ⟨body, rfl, ?_⟩
  rw [chatRequest, read]

/-- Of two bodies that ask the same, one with an empty name and one without a name, the first is
served under the key of no name, and the second under that of the name in the query. The keys are
the same only if the query names no conversation but the default one, and then the requests are
served alike. -/
theorem servedUnder_empty_name {body body' : List UInt8} (passed : relay.Passed r target)
    (endpoint : relay.endpoints.resolve? (String.ofList target.backendPath) = some .rag)
    (post : r.method = "POST")
    (empty : Chat.Request.ofBody body = .ok { chat with conversationId := some "" })
    (absent : Chat.Request.ofBody body' = .ok { chat with conversationId := none }) :
    relay.ServedUnder s { r with body := .ok body } (s.key none) ∧
      relay.ServedUnder s { r with body := .ok body' }
        (s.key (conversationOfQuery target.query)) ∧
      (s.key none = s.key (conversationOfQuery target.query) ↔ NamesDefault target.query) ∧
      (NamesDefault target.query → ∀ backend, relay.serve backend s { r with body := .ok body } =
        relay.serve backend s { r with body := .ok body' }) := by
  have hempty := questions_of_ofBody passed endpoint post empty
  have habsent := questions_of_ofBody passed endpoint post absent
  have hnone : s.key (some "") = s.key none :=
    (Rag.Sessions.key_eq_key_iff rfl).mpr (.inr ⟨.inr (.inl rfl), .inl rfl⟩)
  refine ⟨⟨target, _, hempty, hnone⟩, ⟨target, _, habsent, rfl⟩, key_none_eq_iff, ?_⟩
  intro hdefault backend
  apply hempty.serve_congr habsent rfl
  calc s.key (some "") = s.key none := hnone
    _ = s.key (conversationOfQuery target.query) := key_none_eq_iff.mpr hdefault

/-- A question of a user, and behind it what its body tells of the conversation. -/
def questionBody (conversation : String) : List UInt8 :=
  Utf8.bytes ("\x7b\"messages\":[\x7b\"role\":\"user\",\"content\":\"Hi\"\x7d]" ++
    conversation ++ "\x7d")

def emptyNameBody : List UInt8 := questionBody ",\"conversationId\":\"\""

def plainQuestion : Chat.Request := { messages := [⟨.user, "Hi"⟩] }

/-- Where the first question of a conversation goes, with the name of that conversation. -/
def namedTarget : Gate.Target where
  path := "/api/call".toList
  backendPath := "/call".toList
  query := some "session=a".toList

theorem passed_firstQuestion : localRelay.Passed firstQuestion namedTarget := by
  refine ⟨?_, ?_, ?_⟩ <;> decide +kernel

theorem endpoint_namedTarget :
    localRelay.endpoints.resolve? (String.ofList namedTarget.backendPath) = some .rag := by
  decide +kernel

theorem ofBody_emptyNameBody : Chat.Request.ofBody emptyNameBody =
    .ok { plainQuestion with conversationId := some "" } := by
  decide +kernel

theorem ofBody_noName (conversation : String)
    (h : conversation ∈ ["", ",\"conversationId\":null"]) :
    Chat.Request.ofBody (questionBody conversation) =
      .ok { plainQuestion with conversationId := none } := by
  revert h conversation
  decide +kernel

/-- With the query `session=a` the question of an empty name belongs to the default conversation,
and that without a name to the one in the query. -/
theorem servedUnder_emptyNameBody :
    localRelay.Passed firstQuestion namedTarget ∧
      localRelay.endpoints.resolve? (String.ofList namedTarget.backendPath) = some .rag ∧
      firstQuestion.method = "POST" ∧
      Chat.Request.ofBody emptyNameBody = .ok { plainQuestion with conversationId := some "" } ∧
      ∀ conversation ∈ ["", ",\"conversationId\":null"],
        Chat.Request.ofBody (questionBody conversation) =
            .ok { plainQuestion with conversationId := none } ∧
          localRelay.ServedUnder (.fresh "7") { firstQuestion with body := .ok emptyNameBody }
            "7-default" ∧
          localRelay.ServedUnder (.fresh "7")
            { firstQuestion with body := .ok (questionBody conversation) } "7-a" ∧
          ¬ NamesDefault namedTarget.query := by
  refine ⟨passed_firstQuestion, endpoint_namedTarget, rfl, ofBody_emptyNameBody, ?_⟩
  intro conversation hconversation
  have habsent := ofBody_noName conversation hconversation
  obtain ⟨hempty, hnone, hsame, -⟩ := servedUnder_empty_name (s := .fresh "7")
    passed_firstQuestion endpoint_namedTarget rfl ofBody_emptyNameBody habsent
  have hdefault : (Rag.Sessions.fresh "7").key none = "7-default" := by decide +kernel
  have hnamed : (Rag.Sessions.fresh "7").key (conversationOfQuery namedTarget.query) = "7-a" := by
    decide +kernel
  rw [hdefault] at hempty hsame
  rw [hnamed] at hnone hsame
  exact ⟨habsent, hempty, hnone, fun h => absurd (hsame.mpr h) (by decide)⟩

/-- An empty name in the body is not the same as none where the query has a name. -/
theorem not_servedUnder_same :
    ¬ ∀ (relay : Relay) (s : Rag.Sessions) (r : Http.Request) (body body' : List UInt8)
      (chat : Chat.Request) (key key' : String),
      Chat.Request.ofBody body = .ok { chat with conversationId := some "" } →
      Chat.Request.ofBody body' = .ok { chat with conversationId := none } →
      relay.ServedUnder s { r with body := .ok body } key →
      relay.ServedUnder s { r with body := .ok body' } key' → key = key' := by
  intro h
  have habsent := ofBody_noName ",\"conversationId\":null" (by decide)
  have hkeys := h localRelay (.fresh "7") firstQuestion _ _ plainQuestion "7-default" "7-a"
    ofBody_emptyNameBody habsent
    ⟨namedTarget, _, questions_of_ofBody passed_firstQuestion endpoint_namedTarget rfl
      ofBody_emptyNameBody, by decide +kernel⟩
    ⟨namedTarget, _, questions_of_ofBody passed_firstQuestion endpoint_namedTarget rfl habsent,
      by decide +kernel⟩
  exact absurd hkeys (by decide)

end Relay

end ChatRelay
