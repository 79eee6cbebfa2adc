import ChatRelay.Chat.Payload
import ChatRelay.Proofs.Json.Reading

/-!
What a chat payload says under each of its keys. The client's parameters are a table like every
JSON object, so that merging them over the defaults is a question of which table has a key.
-/

namespace ChatRelay.Chat

open Json (Members)

/-! ### The client's parameters -/

/-- An object that has been parsed has its members in order, however the text spelled, padded or
repeated their keys. -/
theorem ordered_of_parse? {text : String} {ms : Members}
    (h : Json.parse? text = some (.object ms)) : ms.Ordered := by
  obtain ⟨rest, hread, -⟩ := Json.exists_of_parse? h
  cases Json.Read.nested_of_value hread with
  | object hms ordered => exact ordered

theorem Parameters.ordered_parse (text : String) : (Parameters.parse text).Ordered := by
  unfold Parameters.parse
  apply Members.Ordered.keep
  -- Either the text is an object, or its pairs are put into a table.
  split
  · rename_i ms hparse
    exact ordered_of_parse? hparse
  · exact Members.ordered_ofList _

/-! ### The members of a payload -/

/-- The defaults before anything is put over them, their temperature being a number. -/
def defaultMembers (model : String) (temperature : Number.Double) : Members :=
  [("model", .string model), ("temperature", .number (.real temperature))]

theorem ordered_defaultMembers (model : String) (temperature : Number.Double) :
    (defaultMembers model temperature).Ordered := by
  have hkeys : "model" < "temperature" := by decide
  refine List.pairwise_cons.mpr ⟨?_, List.pairwise_singleton _ _⟩
  intro m hm
  rw [List.mem_singleton.mp hm]
  exact hkeys

/-- The table that the members are put into, whatever the defaults are. -/
def baseMembers (defaults : Defaults) : Members :=
  Members.ofList
    [("model", .string defaults.model), ("temperature", jsonOfDouble defaults.temperature)]

theorem chatMembers_eq_insertAll (defaults : Defaults) (stream : Bool) (r : Request) :
    chatMembers defaults stream r =
      (((baseMembers defaults).insertAll (Parameters.parse r.parametersText)).insert "stream"
        (.bool stream)).insert "messages" (.array ((selectedMessages r).map (·.toJson))) := by
  rw [chatMembers, ← baseMembers]
  -- What the defaults are does not matter for what is put over them.
  generalize baseMembers defaults = base
  rfl

/-- The payload's members, with the defaults as a table. -/
theorem chatMembers_eq (model : String) (temperature : Number.Double) (stream : Bool)
    (r : Request) :
    chatMembers ⟨model, .finite temperature⟩ stream r =
      (((defaultMembers model temperature).insertAll
        (Parameters.parse r.parametersText)).insert "stream" (.bool stream)).insert "messages"
          (.array ((selectedMessages r).map (·.toJson))) := by
  have hbase : baseMembers ⟨model, .finite temperature⟩ = defaultMembers model temperature :=
    (ordered_defaultMembers model temperature).ofList_eq
  rw [chatMembers_eq_insertAll, hbase]

theorem ordered_members (defaults : Defaults) (stream : Bool) (r : Request) :
    (chatMembers defaults stream r).Ordered := by
  rw [chatMembers_eq_insertAll]
  exact (((Members.ordered_ofList _).insertAll _).insert _ _).insert _ _

theorem ordered_chatMembers (model : String) (temperature : Number.Double) (stream : Bool)
    (r : Request) : (chatMembers ⟨model, .finite temperature⟩ stream r).Ordered :=
  ordered_members _ stream r

/-- The messages are put in last, whatever the defaults and the parameters say. -/
theorem get?_messages (defaults : Defaults) (stream : Bool) (r : Request) :
    (chatMembers defaults stream r).get? "messages" =
      some (.array ((selectedMessages r).map (·.toJson))) := by
  rw [chatMembers_eq_insertAll, Members.get?_insert, if_pos rfl]

/-- The two keys that the relay owns are put in last; of the others the client's come first. -/
theorem get?_chatMembers (model : String) (temperature : Number.Double) (stream : Bool)
    (r : Request) (key : String) :
    (chatMembers ⟨model, .finite temperature⟩ stream r).get? key =
      if key = "messages" then some (.array ((selectedMessages r).map (·.toJson)))
      else if key = "stream" then some (.bool stream)
      else (Members.get? key (Parameters.parse r.parametersText)).or
        (Members.get? key (defaultMembers model temperature)) := by
  have hparameters := Parameters.ordered_parse r.parametersText
  rw [chatMembers_eq, Members.get?_insert, Members.get?_insert, Members.get?_insertAll hparameters]

/-! ### The messages -/

/-- Which messages the backend is to see: with the history all of them, without it the last one
if there is one. -/
inductive Selects : Bool → List Message → List Message → Prop where
  | history (ms : List Message) : Selects true ms ms
  | last (earlier : List Message) (m : Message) : Selects false (earlier ++ [m]) [m]
  | nothing : Selects false [] []

theorem selects_selectedMessages (r : Request) :
    Selects r.useChatHistory r.messages (selectedMessages r) := by
  unfold selectedMessages
  cases r.useChatHistory with
  | true => exact .history r.messages
  | false =>
    rcases List.eq_nil_or_concat r.messages with hnil | ⟨earlier, m, hlast⟩
    · rw [hnil]
      exact .nothing
    · rw [hlast, List.concat_eq_append, List.getLast?_concat]
      exact .last earlier m

theorem Selects.eq {history : Bool} {ms selected : List Message} (h : Selects history ms selected) :
    selected = if history then ms else ms.getLast?.toList := by
  cases h with
  | history ms => rfl
  | last earlier m => rw [List.getLast?_concat]; rfl
  | nothing => rfl

/-! ### The payloads -/

/-- The payloads that ask for a whole and for a streamed answer are objects with the same members
but for `stream`. Their messages are those of the request, and whatever the parameters say, every
key but the two that the relay owns has the value of the parameters, or else of the defaults. -/
theorem chatPayload_determined (model : String) (temperature : Number.Double) (r : Request) :
    ∃ (whole streamed : Members) (selected : List Message),
      chatPayload ⟨model, .finite temperature⟩ false r = .object whole ∧
      chatPayload ⟨model, .finite temperature⟩ true r = .object streamed ∧
      whole.Ordered ∧ streamed.Ordered ∧
      streamed = whole.insert "stream" (.bool true) ∧
      Selects r.useChatHistory r.messages selected ∧
      (∀ key, whole.get? key =
        if key = "stream" then some (.bool false)
        else if key = "messages" then some (.array (selected.map (·.toJson)))
        else ((Parameters.parse r.parametersText).get? key).or
          (if key = "model" then some (.string model)
            else if key = "temperature" then some (.number (.real temperature)) else none)) ∧
      ∀ key, (whole.get? key).isSome ↔ key ∈ ["stream", "messages", "model", "temperature"] ∨
        ((Parameters.parse r.parametersText).get? key).isSome := by
  have hget (stream : Bool) (key : String) :=
    get?_chatMembers model temperature stream r key
  have hwhole := ordered_chatMembers model temperature false r
  have hstreamed := ordered_chatMembers model temperature true r
  -- Tables in order are the same when they agree on every key.
  have hdiffer : chatMembers ⟨model, .finite temperature⟩ true r =
      (chatMembers ⟨model, .finite temperature⟩ false r).insert "stream" (.bool true) := by
    apply hstreamed.ext (hwhole.insert _ _)
    intro key
    rw [Members.get?_insert, hget, hget]
    by_cases hkey : key = "stream"
    · have hne : key ≠ "messages" := by rw [hkey]; decide
      rw [if_neg hne, if_pos hkey, if_pos hkey]
    · rw [if_neg hkey, if_neg hkey, if_neg hkey]
  have hvalue (key : String) :
      (chatMembers ⟨model, .finite temperature⟩ false r).get? key =
        if key = "stream" then some (.bool false)
        else if key = "messages" then some (.array ((selectedMessages r).map (·.toJson)))
        else ((Parameters.parse r.parametersText).get? key).or
          (if key = "model" then some (.string model)
            else if key = "temperature" then some (.number (.real temperature)) else none) := by
    rw [hget]
    by_cases hkey : key = "stream"
    · have hne : key ≠ "messages" := by rw [hkey]; decide
      rw [if_neg hne, if_pos hkey, if_pos hkey]
    · rw [if_neg hkey, if_neg hkey, defaultMembers, Members.get?_cons, Members.get?_cons,
        Members.get?_nil]
  refine ⟨_, _, selectedMessages r, rfl, rfl, hwhole, hstreamed, hdiffer,
    selects_selectedMessages r, hvalue, ?_⟩
  intro key
  rw [hvalue]
  by_cases hstream : key = "stream"
  · simp [hstream]
  by_cases hmessages : key = "messages"
  · simp [hmessages]
  by_cases hmodel : key = "model"
  · simp [hmodel]
  by_cases htemperature : key = "temperature"
  · simp [htemperature]
  · simp [hstream, hmessages, hmodel, htemperature]

end ChatRelay.Chat
