import ChatRelay.Endpoint.Payload
import ChatRelay.Proofs.Chat.Payload
import ChatRelay.Proofs.Json.Records

/-!
A conversation on its way from the client to the backend. In whatever layout and order the client
writes its messages, and whatever else it says beside them, they are read as they are meant, and
the payload says those of them that the backend is to see.
-/

namespace ChatRelay.Chat

open Json.Read

/-! ### Messages -/

theorem Role.ofName?_name (role : Role) : ofName? role.name = some role := by
  cases role <;> decide

namespace Message

/-- An object that says a message: it has its role and its content, both once, and may have
anything else under other keys. -/
structure Sent (ms : List (String × Json)) (m : Message) : Prop where
  role : ("role", .string m.role.name) ∈ ms
  content : ("content", .string m.content) ∈ ms
  once : (record.knownKeys ms).Nodup

/-- What has been read of a message when the fields of some names have been filled. -/
def Draft.of (m : Message) (names : List String) : Draft where
  role := if "role" ∈ names then some m.role else none
  content := if "content" ∈ names then some m.content else none

theorem readRole_of_asWritten {depth : Nat} {bytes rest : List UInt8} {role : Role}
    (h : asWritten depth bytes = .ok (.string role.name, rest)) :
    readRole bytes = .ok (role, rest) := by
  have hmem : role.name ∈ Role.all.map Role.name := by cases role <;> decide
  rw [readRole, choice_of_asWritten h hmem]
  simp only [bind, Except.bind, Role.ofName?_name]

theorem Sent.fills {ms : List (String × Json)} {m : Message} (sent : Sent ms m) (depth : Nat) :
    record.Fills (asWritten depth) (fun names s => s = Draft.of m names) ms := by
  constructor
  · intro field hfield names s hs hnew
    simp only [record, List.mem_cons, List.not_mem_nil, or_false] at hfield
    rcases hfield with rfl | rfl
    · simpa [hs, Draft.of] using hnew
    · simpa [hs, Draft.of] using hnew
  · intro field hfield x hx names s hs
    refine ⟨_, rfl, ?_⟩
    intro bytes rest hread
    simp only [record, List.mem_cons, List.not_mem_nil, or_false] at hfield
    rcases hfield with rfl | rfl
    · rw [Record.eq_of_mem sent.once (by decide) hx sent.role] at hread
      simp only [readRole_of_asWritten hread, bind, Except.bind, hs]
      simp [Draft.of]
    · rw [Record.eq_of_mem sent.once (by decide) hx sent.content] at hread
      simp only [text_of_asWritten hread, bind, Except.bind, hs]
      simp [Draft.of]

/-- The message that an object says is read from it. -/
theorem Sent.read_eq {ms : List (String × Json)} {m : Message} (sent : Sent ms m) {depth : Nat}
    {bytes rest : List UInt8} (h : asWritten depth bytes = .ok (.object ms, rest)) :
    read bytes = .ok (m, rest) := by
  obtain ⟨inner, start, hb, hmembers⟩ := exists_object_of_asWritten h
  obtain ⟨names, s, hs, hnames, hread⟩ := (sent.fills inner).exists_read
    (fun hx => (skips_asWritten inner hx).skipValue_eq) hb hmembers
    (show (⟨none, none⟩ : Draft) = Draft.of m [] from rfl) sent.once
  have hrole : "role" ∈ names :=
    (hnames _).mpr (Record.mem_knownKeys.mpr ⟨⟨_, sent.role⟩, by decide⟩)
  have hcontent : "content" ∈ names :=
    (hnames _).mpr (Record.mem_knownKeys.mpr ⟨⟨_, sent.content⟩, by decide⟩)
  apply hread
  rw [hs, Draft.of, if_pos hrole, if_pos hcontent]
  rfl

/-- The compact text of a message, as a payload has it, says the message. -/
theorem reads_toJson (m : Message) : Reads read m.toJson.write m := by
  have hjson : m.toJson = .object [("content", .string m.content), ("role", .string m.role.name)] :=
    rfl
  have hmembers : ∀ x ∈ [("content", Json.string m.content), ("role", .string m.role.name)],
      Reads (asWritten 0) x.2.write x.2 :=
    List.forall_mem_cons.mpr ⟨reads_asWritten_string 0 _,
      List.forall_mem_singleton.mpr (reads_asWritten_string 0 _)⟩
  have sent : Sent [("content", .string m.content), ("role", .string m.role.name)] m := by
    refine ⟨List.mem_cons_of_mem _ List.mem_cons_self, List.mem_cons_self, ?_⟩
    simp only [Record.knownKeys, List.map_cons, List.map_nil]
    decide
  rw [hjson]
  exact fun rest hrest => sent.read_eq (reads_asWritten_object hmembers rest hrest)

/-- A message as its text has it, the role first. -/
def spelled (m : Message) : Json :=
  .object [("role", .string m.role.name), ("content", .string m.content)]

theorem write_spelled (m : Message) : m.spelled.write = m.write.toList := by
  rw [write, String.toList_ofList, spelled, ← Json.writeRecord_write]
  simp only [List.map_cons, List.map_nil, Json.write]

theorem sent_spelled (m : Message) :
    Sent [("role", .string m.role.name), ("content", .string m.content)] m := by
  refine ⟨List.mem_cons_self, List.mem_cons_of_mem _ List.mem_cons_self, ?_⟩
  simp only [Record.knownKeys, List.map_cons, List.map_nil]
  decide

theorem reads_spelled (m : Message) : Reads (asWritten 1) m.spelled.write m.spelled :=
  reads_asWritten_object <| List.forall_mem_cons.mpr ⟨reads_asWritten_string 0 _,
    List.forall_mem_singleton.mpr (reads_asWritten_string 0 _)⟩

end Message

/-! ### Requests -/

namespace Request

/-- An object that says a conversation: its messages are a list of objects that say them, it has
the flag for their history, and the texts that it may have as well are texts or null; each of
these comes once, and under other keys there may be anything. -/
structure Sent (ms : List (String × Json)) (messages : List Message) (flag : Bool) : Prop where
  messages : ∃ xs, ("messages", .array xs) ∈ ms ∧
    List.Forall₂ (fun x m => ∃ ms, x = .object ms ∧ Message.Sent ms m) xs messages
  history : ("useChatHistory", .bool flag) ∈ ms
  texts : ∀ key ∈ ["optionalGenerationParameters", "conversationId", "inputMessage"],
    ∀ x, (key, x) ∈ ms → x = .null ∨ ∃ s, x = .string s
  once : (record.knownKeys ms).Nodup

/-- What has been read of a request when the fields of some names have been filled. -/
structure Draft.Holds (messages : List Message) (flag : Bool) (names : List String) (d : Draft) :
    Prop where
  messages : "messages" ∈ names → d.messages = some messages
  history : "useChatHistory" ∈ names → d.useChatHistory = some flag
  filled : ∀ field ∈ record.fields, field.isFilled d = true → field.name ∈ names

theorem exists_optional_text {x : Json} (h : x = .null ∨ ∃ s, x = .string s) (depth : Nat) :
    ∃ t : Option String, ∀ bytes rest, asWritten depth bytes = .ok (x, rest) →
      optional text bytes = .ok (t, rest) := by
  rcases h with rfl | ⟨s, rfl⟩
  · exact ⟨none, fun bytes rest hread => optional_of_null hread text⟩
  · exact ⟨some s, fun bytes rest hread => optional_text_of_string hread⟩

section Sent

variable {ms : List (String × Json)} {messages : List Message} {flag : Bool}

theorem Draft.Holds.next {names : List String} {d : Draft}
    (hd : Draft.Holds messages flag names d) (field : Json.Read.Field Draft) (d' : Draft)
    (hmessages : d'.messages = if field.name = "messages" then some messages else d.messages)
    (hhistory : d'.useChatHistory =
      if field.name = "useChatHistory" then some flag else d.useChatHistory)
    (hothers : ∀ other ∈ record.fields, other.name ≠ field.name →
      other.isFilled d' = other.isFilled d) :
    Draft.Holds messages flag (field.name :: names) d' := by
  constructor
  · intro hmem
    rw [hmessages]
    split
    · rfl
    · rename_i hne
      exact hd.messages ((List.mem_cons.mp hmem).resolve_left (Ne.symm hne))
  · intro hmem
    rw [hhistory]
    split
    · rfl
    · rename_i hne
      exact hd.history ((List.mem_cons.mp hmem).resolve_left (Ne.symm hne))
  · intro other hother hfilled
    by_cases hname : other.name = field.name
    · rw [hname]
      exact List.mem_cons_self
    · rw [hothers other hother hname] at hfilled
      exact List.mem_cons_of_mem _ (hd.filled other hother hfilled)

theorem Sent.fills (sent : Sent ms messages flag) (depth : Nat) :
    record.Fills (asWritten depth) (Draft.Holds messages flag) ms := by
  obtain ⟨xs, hmem, hxs⟩ := sent.messages
  constructor
  · intro field hfield names d hd hnew
    exact Bool.eq_false_iff.mpr fun h => hnew (hd.filled field hfield h)
  · intro field hfield x hx names d hd
    have hnext := hd.next field
    simp only [record, List.mem_cons, List.not_mem_nil, or_false] at hfield
    rcases hfield with rfl | rfl | rfl | rfl | rfl
    · rw [Record.eq_of_mem sent.once (by decide) hx hmem]
      refine ⟨{ d with messages := some messages }, hnext _ rfl rfl (by simp [record]), ?_⟩
      intro bytes rest hread
      have hlist : listOf Message.read bytes = .ok (messages, rest) := by
        apply listOf_of_asWritten ?_ hread hxs
        rintro depth' _ m bytes' rest' ⟨ms', rfl, hsent⟩ hobject
        exact hsent.read_eq hobject
      simp only [hlist, bind, Except.bind]
    · rw [Record.eq_of_mem sent.once (by decide) hx sent.history]
      refine ⟨{ d with useChatHistory := some flag }, hnext _ rfl rfl (by simp [record]), ?_⟩
      intro bytes rest hread
      simp only [boolean_of_asWritten hread, bind, Except.bind]
    · obtain ⟨t, ht⟩ := exists_optional_text (sent.texts _ (by decide) x hx) depth
      refine ⟨{ d with optionalParameters := some t }, hnext _ rfl rfl (by simp [record]), ?_⟩
      intro bytes rest hread
      simp only [ht _ _ hread, bind, Except.bind]
    · obtain ⟨t, ht⟩ := exists_optional_text (sent.texts _ (by decide) x hx) depth
      refine ⟨{ d with conversationId := some t }, hnext _ rfl rfl (by simp [record]), ?_⟩
      intro bytes rest hread
      simp only [ht _ _ hread, bind, Except.bind]
    · obtain ⟨t, ht⟩ := exists_optional_text (sent.texts _ (by decide) x hx) depth
      refine ⟨{ d with inputMessage := some t }, hnext _ rfl rfl (by simp [record]), ?_⟩
      intro bytes rest hread
      simp only [ht _ _ hread, bind, Except.bind]

theorem draft_holds_blank : Draft.Holds messages flag [] {} := by
  constructor
  · exact fun h => absurd h List.not_mem_nil
  · exact fun h => absurd h List.not_mem_nil
  · simp [record]

/-- The body of a request that says a conversation is read as a request for it. -/
theorem Sent.exists_ofBody (sent : Sent ms messages flag) {depth : Nat} {body : List UInt8}
    (h : entire (asWritten depth) body = .ok (.object ms)) :
    ∃ r, ofBody body = .ok r ∧ r.messages = messages ∧ r.useChatHistory = flag := by
  obtain ⟨rest, hwritten, hrest⟩ := exists_of_entire h
  obtain ⟨inner, start, hb, hmembers⟩ := exists_object_of_asWritten hwritten
  obtain ⟨names, d, hd, hnames, hread⟩ := (sent.fills inner).exists_read
    (fun hx => (skips_asWritten inner hx).skipValue_eq) hb hmembers draft_holds_blank sent.once
  have hmessages : d.messages = some messages := by
    obtain ⟨xs, hmem, -⟩ := sent.messages
    exact hd.messages ((hnames _).mpr (Record.mem_knownKeys.mpr ⟨⟨_, hmem⟩, by decide⟩))
  have hhistory : d.useChatHistory = some flag :=
    hd.history ((hnames _).mpr (Record.mem_knownKeys.mpr ⟨⟨_, sent.history⟩, by decide⟩))
  -- A body with an opening brace in it is not blank.
  have hbrace : byte '\x7b' ∈ body := by
    have hsuffix : byte '\x7b' :: start <:+ body := hb ▸ List.dropWhile_suffix isBlank
    exact hsuffix.mem List.mem_cons_self
  have hblank : body.all isBodyBlank ≠ true :=
    fun hall => absurd (List.all_eq_true.mp hall _ hbrace) (by decide)
  obtain ⟨r, hr, hsaid⟩ : ∃ r, record.finish d = .ok r ∧ r.messages = messages ∧
      r.useChatHistory = flag :=
    ⟨_, rfl, congrArg (Option.getD · []) hmessages, congrArg (Option.getD · true) hhistory⟩
  refine ⟨r, ?_, hsaid⟩
  rw [ofBody, if_neg hblank, parse, entire, hread r hr]
  simp only [bind, Except.bind, hrest, List.isEmpty_nil, if_true]

end Sent

/-- A conversation as a body that says nothing else. -/
def spelled (messages : List Message) (flag : Bool) : List (String × Json) :=
  [("messages", .array (messages.map Message.spelled)), ("useChatHistory", .bool flag)]

/-- Every conversation is said by its own text. -/
theorem sent_spelled (messages : List Message) (flag : Bool) :
    Sent (spelled messages flag) messages flag ∧
      entire (asWritten 3) (Utf8.encode (Json.object (spelled messages flag)).write) =
        .ok (.object (spelled messages flag)) := by
  constructor
  · refine ⟨⟨_, List.mem_cons_self, ?_⟩, List.mem_cons_of_mem _ List.mem_cons_self, ?_, ?_⟩
    · exact List.forall₂_map_left_iff.mpr
        (List.forall₂_same.mpr fun m _ => ⟨_, rfl, m.sent_spelled⟩)
    · simp [spelled]
    · simp only [Record.knownKeys, spelled, List.map_cons, List.map_nil]
      decide
  · have hmessages : Reads (asWritten 2) (Json.array (messages.map Message.spelled)).write
        (.array (messages.map Message.spelled)) :=
      reads_asWritten_array (List.forall_mem_map.mpr fun m _ => m.reads_spelled)
    have hmembers : ∀ m ∈ spelled messages flag, Reads (asWritten 2) m.2.write m.2 :=
      List.forall_mem_cons.mpr ⟨hmessages, List.forall_mem_singleton.mpr
        (reads_asWritten_bool 2 flag)⟩
    exact (reads_asWritten_object hmembers).entire_eq

end Request

/-! ### Payloads -/

/-- The messages of a payload, whatever else it says. -/
def messagesRecord : Record (Option (List Message)) (List Message) where
  expected := "a chat payload"
  isOpenEnded := false
  fields := [⟨"messages", Option.isSome, fun _ bytes => do
    let (messages, rest) ← listOf Message.read bytes
    .ok (some messages, rest)⟩]
  finish
    | some messages => .ok messages
    | none => .error (.missingField "messages")

theorem listOf_toJson (messages : List Message) (rest : List UInt8) :
    listOf Message.read (Utf8.encode (Json.array (messages.map (·.toJson))).write ++ rest) =
      .ok (messages, rest) := by
  have hitems : List.Forall₂ (fun x m => Reads Message.read x.write m)
      (messages.map (·.toJson)) messages :=
    List.forall₂_map_left_iff.mpr (List.forall₂_same.mpr fun m _ => m.reads_toJson)
  rw [Json.write, Utf8.encode_enclosed (by decide) (by decide), listOf,
    skipBlanks_cons (by decide)]
  simp only [if_true]
  exact items_write hitems (length_lt_of_items _ rest) rest

/-- A value where it stands: the bytes from its beginning, and those that are left behind it. -/
def located : Reader (List UInt8 × List UInt8) := fun bytes =>
  (skipValue bytes).map fun ((), rest) => ((bytes, rest), rest)

theorem eq_of_located {bytes rest : List UInt8} {x : List UInt8 × List UInt8}
    (h : located bytes = .ok (x, rest)) :
    skipValue bytes = .ok ((), rest) ∧ x = (bytes, rest) := by
  obtain ⟨⟨⟨⟩, rest'⟩, hskip, hpair⟩ := exists_of_map_eq_ok h
  cases hpair
  exact ⟨hskip, rfl⟩

theorem located_write (v : Json) :
    ReadsAs located (fun v x => x.1 = Utf8.encode v.write ++ x.2) v := by
  intro rest hrest
  refine ⟨(Utf8.encode v.write ++ rest, rest), rfl, ?_⟩
  rw [located, reads_skipValue v rest hrest]
  rfl

theorem fills_messagesRecord {spans : List (String × List UInt8 × List UInt8)}
    {messages : List Message}
    (h : ∀ x, ("messages", x) ∈ spans →
      x.1 = Utf8.encode (Json.array (messages.map (·.toJson))).write ++ x.2) :
    messagesRecord.Fills located
      (fun names d => d = if "messages" ∈ names then some messages else none) spans := by
  constructor
  · intro field hfield names d hd hnew
    rw [List.mem_singleton.mp hfield] at hnew ⊢
    rw [hd, if_neg hnew]
    rfl
  · intro field hfield x hx names d hd
    rw [List.mem_singleton.mp hfield] at hx ⊢
    refine ⟨_, rfl, ?_⟩
    intro bytes rest hread
    obtain ⟨-, rfl⟩ := eq_of_located hread
    have hbytes : bytes = _ ++ rest := h _ hx
    rw [hbytes, if_pos List.mem_cons_self]
    simp only [listOf_toJson, bind, Except.bind]

/-- The messages are read back from the text of a payload, whatever else the payload says. -/
theorem entire_messagesRecord {ms : Json.Members} (ordered : ms.Ordered) {messages : List Message}
    (h : ms.get? "messages" = some (.array (messages.map (·.toJson)))) :
    entire (messagesRecord.read none) (Utf8.bytes (Json.object ms).compact) = .ok messages := by
  obtain ⟨spans, hspans, hread⟩ := exists_members_write (fun m _ => located_write m.2)
    (length_lt_of_members ms []) []
  have hkeys : ms.map (·.1) = spans.map (·.1) := by
    rw [← List.forall₂_eq_eq_eq, List.forall₂_map_left_iff, List.forall₂_map_right_iff]
    exact hspans.imp fun m x hm => hm.1
  have hvalue : ∀ x, ("messages", x) ∈ spans →
      x.1 = Utf8.encode (Json.array (messages.map (·.toJson))).write ++ x.2 := by
    intro x hx
    obtain ⟨⟨key, v⟩, hm, hkey, hv⟩ := exists_mem_of_forall₂ hspans hx
    cases hkey
    rw [ordered.get?_of_mem hm] at h
    cases h
    exact hv
  have once : (messagesRecord.knownKeys spans).Nodup := by
    rw [Record.knownKeys, ← hkeys]
    exact ordered.nodup.filter _
  obtain ⟨names, d, hd, hnames, hrecord⟩ := (fills_messagesRecord hvalue).exists_read
    (fun hx => (eq_of_located hx).1) (skipBlanks_cons (by decide) _) hread
    (show none = if "messages" ∈ [] then some messages else none from rfl) once
  have hmem : "messages" ∈ names := by
    have hkey : "messages" ∈ spans.map (·.1) :=
      hkeys ▸ List.mem_map_of_mem (Json.Members.mem_of_get? h)
    obtain ⟨⟨_, x⟩, hx, rfl⟩ := List.mem_map.mp hkey
    exact (hnames _).mpr (Record.mem_knownKeys.mpr ⟨⟨x, hx⟩, by decide⟩)
  rw [if_pos hmem] at hd
  have htext : Utf8.bytes (Json.object ms).compact =
      byte '\x7b' :: (Utf8.encode (Json.writeMembers ms) ++ [byte '\x7d']) := by
    rw [Utf8.bytes, Json.compact, String.toList_ofList, Json.write,
      ← List.append_nil (Utf8.encode _), Utf8.encode_enclosed (by decide) (by decide)]
  rw [htext, entire, hrecord messages (hd ▸ rfl)]
  rfl

/-- A conversation passes unchanged from the client to the backend. Whatever the layout of the body
that says it, and whatever the body and its messages say under keys of their own, the body is
accepted, and the messages that are read back from the payload of either chat endpoint are those
that the flag selects. -/
theorem conversation_passed_on {depth : Nat} {body : List UInt8} {ms : List (String × Json)}
    {messages : List Message} {flag : Bool}
    (written : entire (asWritten depth) body = .ok (.object ms))
    (sent : Request.Sent ms messages flag) :
    ∃ r selected, Request.ofBody body = .ok r ∧ r.messages = messages ∧
      r.useChatHistory = flag ∧ Selects flag messages selected ∧
      ∀ e ∈ [Endpoint.chat, .chatStream], ∀ defaults backend sessions initializer,
        ∃ payload, (e.build r defaults backend sessions initializer).result = .ok payload ∧
          entire (messagesRecord.read none) (Utf8.bytes payload.compact) = .ok selected := by
  obtain ⟨r, hbody, rfl, rfl⟩ := sent.exists_ofBody written
  refine ⟨r, selectedMessages r, hbody, rfl, rfl, selects_selectedMessages r, ?_⟩
  intro e he defaults backend sessions initializer
  have hpayload (stream : Bool) :
      entire (messagesRecord.read none) (Utf8.bytes (chatPayload defaults stream r).compact) =
        .ok (selectedMessages r) :=
    entire_messagesRecord (ordered_members defaults stream r) (get?_messages defaults stream r)
  simp only [List.mem_cons, List.not_mem_nil, or_false] at he
  rcases he with rfl | rfl
  · exact ⟨chatPayload defaults false r, rfl, hpayload false⟩
  · exact ⟨chatPayload defaults true r, rfl, hpayload true⟩

/-- A body with blanks, escapes and a pair of surrogates, a key of its own given twice, parameters
that name messages, and messages that say more than they have to. -/
def oddBody : List UInt8 :=
  Utf8.bytes (" \x7b\"extra\":[12,\x7b\"messages\":[]\x7d],\n\"useChatHistory\" : false," ++
    "\"optionalGenerationParameters\":\"messages=1\",\"messages\":[" ++
    "\x7b\"content\":\"\\u0048i\\ud83d\\ude00\",\"id\":\x7b\x7d,\"role\":\"user\"\x7d,\t" ++
    "\x7b\"role\":\"assistant\",\"content\":\"\\\"\\/\\n\"\x7d],\"extra\":null\x7d\n")

def oddMessages : List Json :=
  [.object [("content", .string "Hi😀"), ("id", .object []), ("role", .string "user")],
    .object [("role", .string "assistant"), ("content", .string "\"/\n")]]

def oddMembers : List (String × Json) :=
  [("extra", .array [.number (.int 12), .object [("messages", .array [])]]),
    ("useChatHistory", .bool false),
    ("optionalGenerationParameters", .string "messages=1"),
    ("messages", .array oddMessages),
    ("extra", .null)]

theorem sent_oddMembers :
    Request.Sent oddMembers [⟨.user, "Hi😀"⟩, ⟨.assistant, "\"/\n"⟩] false := by
  constructor
  · refine ⟨oddMessages, by decide, ?_⟩
    refine .cons ⟨_, rfl, by decide, by decide, by decide⟩ (.cons ⟨_, rfl, ?_⟩ .nil)
    exact ⟨by decide, by decide, by decide⟩
  · decide
  · simp [oddMembers]
  · decide

/-- Only the last message is sent on, and the parameters do not take its place. -/
theorem conversation_passed_on_oddBody :
    entire (asWritten 4) oddBody = .ok (.object oddMembers) ∧
      Request.Sent oddMembers [⟨.user, "Hi😀"⟩, ⟨.assistant, "\"/\n"⟩] false ∧
      ∃ r, Request.ofBody oddBody = .ok r ∧
        ∀ e ∈ [Endpoint.chat, .chatStream], ∀ defaults backend sessions initializer,
          ∃ payload, (e.build r defaults backend sessions initializer).result = .ok payload ∧
            entire (messagesRecord.read none) (Utf8.bytes payload.compact) =
              .ok [⟨.assistant, "\"/\n"⟩] := by
  have hwritten : entire (asWritten 4) oddBody = .ok (.object oddMembers) := by decide +kernel
  refine ⟨hwritten, sent_oddMembers, ?_⟩
  obtain ⟨r, selected, hbody, -, -, hselects, hpayload⟩ :=
    conversation_passed_on hwritten sent_oddMembers
  rw [hselects.eq] at hpayload
  exact ⟨r, hbody, hpayload⟩

end ChatRelay.Chat
