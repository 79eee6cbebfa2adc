import ChatRelay.Proofs.Relay.Calls

/-!
The header fields that cross a relay, with a request that it passes on and with the reply to it.
A field that concerns one connection is told by its name alone; every other field crosses as it
is and in its place.
-/

namespace ChatRelay

open Http (Header lower)

namespace Http.Header

/-! ### Fields of one connection -/

/-- The names of fields that concern one connection. -/
def hopNames : List String :=
  ["connection", "keep-alive", "proxy-authenticate", "proxy-authorization", "te",
    "transfer-encoding", "upgrade"]

/-- The names of fields that the next connection sets itself. -/
def ownNames : List String := ["host", "content-length"]

/-- The names that announce fields behind the body of a message. -/
def trailerNames : List String := ["trailer", "trailers"]

/-- A field that has nothing to do with the connection that it came on. -/
def isOther (h : Header) : Bool :=
  lower h.name ∉ hopNames ++ ownNames ++ trailerNames

/-- What is kept of the fields of a message: none that concern one connection, in any letter
case, and of the others each one, with its value and its repetitions and in its place. Whether
trailers are announced is left open. -/
structure Filtered (headers kept : List Header) : Prop where
  dropped : ∀ h ∈ kept, lower h.name ∉ hopNames ++ ownNames
  sublist : kept.Sublist headers
  others : kept.filter isOther = headers.filter isOther

theorem hopNames_subset : hopNames ++ ownNames ⊆ connectionFields := by decide

theorem connectionFields_subset :
    connectionFields ⊆ hopNames ++ ownNames ++ trailerNames := by decide

theorem isForwarded_iff {name : String} :
    isForwarded name = true ↔ lower name ∉ connectionFields := by
  rw [isForwarded, decide_eq_true_iff]

theorem isForwarded_of_isOther {h : Header} (hother : h.isOther = true) :
    isForwarded h.name = true := by
  rw [isOther, decide_eq_true_iff] at hother
  exact isForwarded_iff.mpr fun hmem => hother (connectionFields_subset hmem)

theorem filtered_forwarded (headers : List Header) : Filtered headers (forwarded headers) := by
  refine ⟨?_, List.filter_sublist, ?_⟩
  · intro h hmem hname
    exact isForwarded_iff.mp (List.mem_filter.mp hmem).2 (hopNames_subset hname)
  · -- What the second filter lets through has passed the first one.
    rw [forwarded, List.filter_filter]
    apply List.filter_congr
    intro h _
    by_cases hother : h.isOther = true
    · rw [hother, isForwarded_of_isOther hother, Bool.and_true]
    · rw [Bool.eq_false_iff.mpr hother, Bool.false_and]

/-- Of the fields of one name, in any letter case, the filter keeps all or none. -/
theorem filter_name_forwarded (headers : List Header) (name : String) :
    (forwarded headers).filter (lower ·.name == name) =
      if name ∈ connectionFields then [] else headers.filter (lower ·.name == name) := by
  rw [forwarded, List.filter_filter]
  split
  · rename_i hfield
    rw [List.filter_eq_nil_iff]
    intro h _ hboth
    obtain ⟨hname, hkept⟩ := Bool.and_eq_true_iff.mp hboth
    exact isForwarded_iff.mp hkept (beq_iff_eq.mp hname ▸ hfield)
  · rename_i hother
    apply List.filter_congr
    intro h _
    by_cases hname : lower h.name = name
    · rw [isForwarded_iff.mpr (hname ▸ hother), Bool.and_true]
    · rw [beq_false_of_ne hname, Bool.false_and]

/-- The filter knows the announcement of trailers under a name that no such field has: those that
are named Trailer cross, and Trailers would not. -/
theorem forwarded_trailers (headers : List Header) :
    (forwarded headers).filter (lower ·.name == "trailer") =
        headers.filter (lower ·.name == "trailer") ∧
      (forwarded headers).filter (lower ·.name == "trailers") = [] := by
  have hkept : "trailer" ∉ connectionFields := by decide
  have hdropped : "trailers" ∈ connectionFields := by decide
  rw [filter_name_forwarded, filter_name_forwarded, if_neg hkept, if_pos hdropped]
  exact ⟨rfl, rfl⟩

/-- The fields that a message itself ties to its connection: what its Connection fields list. -/
def connectionOptions (headers : List Header) : List String :=
  (headers.filter (lower ·.name == "connection")).flatMap fun h =>
    (h.value.toList.splitOn ',').map fun option => lower (String.ofList (Text.trim option))

/-- The names of all the fields of a message that concern its connection. -/
def hopNamesOf (headers : List Header) : List String :=
  "trailer" :: hopNames ++ connectionOptions headers

/-- That no field of one connection is kept, not even one that the message itself ties to it, and
that the others are kept in their order. -/
structure Clean (headers kept : List Header) : Prop where
  dropped : ∀ h ∈ kept, lower h.name ∉ hopNamesOf headers
  others : (kept.filter fun h => lower h.name ∉ hopNamesOf headers ++ ownNames) =
    headers.filter fun h => lower h.name ∉ hopNamesOf headers ++ ownNames

end Http.Header

namespace Relay

/-! ### What crosses the relay -/

/-- Of the fields of any message the filter keeps those that may cross. A request on a path of no
endpoint goes to the backend with what is kept of its fields, and its client gets what is kept of
those of the reply. -/
theorem passedOn_filtered :
    (∀ headers, Header.Filtered headers (Header.forwarded headers)) ∧
      ∀ (relay : Relay) (backend : Backend) (s : Rag.Sessions) (r : Http.Request)
        (target : Gate.Target) (body : List UInt8), relay.Admitted r target body →
        (∀ e, relay.endpoints.of e ≠ String.ofList target.backendPath) →
        ∃ kept response,
          relay.serve backend s r = ⟨.response response,
            [.forward (target.url relay.backend) r.method kept body], s⟩ ∧
          Header.Filtered r.headers kept ∧
          ∀ reply, backend (.forward (target.url relay.backend) r.method kept body) = .ok reply →
            Header.Filtered reply.headers response.headers := by
  refine ⟨Header.filtered_forwarded, ?_⟩
  intro relay backend s r target body hadmitted hnone
  have hserve : relay.serve backend s r = relay.passOn backend s target r :=
    hadmitted.serve_of_none (Endpoint.Paths.resolve?_eq_none_iff.mpr hnone)
  -- The fields of the request and those of the reply go through the one filter.
  rw [hserve, passOn, hadmitted.readable]
  refine ⟨_, _, rfl, Header.filtered_forwarded r.headers, ?_⟩
  intro reply hreply
  rw [hreply]
  exact Header.filtered_forwarded reply.headers

/-- Fields of one connection among others, and one that the first field ties to it. -/
def tiedFields : List Header :=
  [⟨"Connection", "close, X-Hop"⟩, ⟨"accept", "a"⟩, ⟨"KEEP-ALIVE", "5"⟩, ⟨"x-hop", "1"⟩,
    ⟨"accept", "a"⟩, ⟨"Host", "relay"⟩, ⟨"accept", "b"⟩]

/-- A request with these fields to a path of no endpoint. -/
def historyRequest : Http.Request where
  method := "GET"
  target := ⟨"/api/chat/history".toList, none⟩
  headers := tiedFields
  body := .ok []
  isUpgradable := false

def historyTarget : Gate.Target where
  path := "/api/chat/history".toList
  backendPath := "/chat/history".toList
  query := none

/-- A backend that sends back such fields as well. -/
def tyingBackend : Backend := fun _ => .ok ⟨200, tiedFields, []⟩

theorem passedOn_historyRequest :
    localRelay.Admitted historyRequest historyTarget [] ∧
      (∀ e, localRelay.endpoints.of e ≠ String.ofList historyTarget.backendPath) ∧
      ∃ kept response,
        localRelay.serve tyingBackend (.fresh "7") historyRequest = ⟨.response response,
          [.forward (historyTarget.url localRelay.backend) "GET" kept []], .fresh "7"⟩ ∧
        Header.Filtered tiedFields kept ∧ Header.Filtered tiedFields response.headers ∧
        Header.Filtered tiedFields
          [⟨"accept", "a"⟩, ⟨"x-hop", "1"⟩, ⟨"accept", "a"⟩, ⟨"accept", "b"⟩] := by
  have hpassed : localRelay.Passed historyRequest historyTarget := by
    refine ⟨?_, ?_, ?_⟩ <;> decide +kernel
  have hnone : ∀ e, localRelay.endpoints.of e ≠ String.ofList historyTarget.backendPath := by
    intro e
    cases e <;> decide +kernel
  have hadmitted : localRelay.Admitted historyRequest historyTarget [] :=
    ⟨hpassed, rfl, fun e he => absurd he (hnone e)⟩
  have hforwarded : Header.forwarded tiedFields =
      [⟨"accept", "a"⟩, ⟨"x-hop", "1"⟩, ⟨"accept", "a"⟩, ⟨"accept", "b"⟩] := by decide +kernel
  obtain ⟨hfilter, hserves⟩ := passedOn_filtered
  obtain ⟨kept, response, hserve, hkept, hreply⟩ := hserves localRelay tyingBackend (.fresh "7")
    historyRequest historyTarget [] hadmitted hnone
  refine ⟨hadmitted, hnone, kept, response, hserve, hkept, hreply ⟨200, tiedFields, []⟩ rfl, ?_⟩
  rw [← hforwarded]
  exact hfilter tiedFields

/-- A field that a message ties to its connection crosses all the same, since the filter is told
the names only. -/
theorem not_clean_forwarded :
    ¬ ∀ headers, Header.Clean headers (Header.forwarded headers) := by
  intro h
  have hkept : ⟨"x-hop", "1"⟩ ∈ Header.forwarded tiedFields := by decide +kernel
  have htied : lower "x-hop" ∈ Header.hopNamesOf tiedFields := by decide +kernel
  exact (h tiedFields).dropped ⟨"x-hop", "1"⟩ hkept htied

end Relay

end ChatRelay
