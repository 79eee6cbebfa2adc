import ChatRelay.Proofs.Json.Lookup
import ChatRelay.Proofs.Rag.Sessions
import ChatRelay.Rag.Question

/-!
The courses that a question to the retrieval backend can take, and what each of them answers,
calls and leaves behind.
-/

namespace ChatRelay.Rag

/-- That the user spoke last, and what the question was. -/
def Asks (messages : List Chat.Message) (question : String) : Prop :=
  messages.getLast? = some ⟨.user, question⟩

theorem question?_of_asks {messages : List Chat.Message} {question : String}
    (h : Asks messages question) : question? messages = .ok question := by
  rw [question?, h]

theorem question?_of_not_asks {messages : List Chat.Message}
    (h : ∀ question, ¬ Asks messages question) :
    question? messages = .error (.invalidInput noQuestion) := by
  unfold question?
  split
  · rename_i question hlast
    exact absurd hlast (h question)
  · rfl

theorem Asks.unique {messages : List Chat.Message} {question question' : String}
    (h : Asks messages question) (h' : Asks messages question') : question = question' :=
  congrArg Chat.Message.content (Option.some.inj (h.symm.trans h'))

theorem need_of_mem {s : Sessions} {conversation : Option String}
    (h : s.key conversation ∈ s.keys) (backend : List Char) :
    need s conversation backend = .ok .nothing := by
  simp [need, h]

theorem need_of_fault {s : Sessions} {conversation : Option String} {backend : List Char}
    {fault : Gate.BackendFault} (h : s.key conversation ∉ s.keys)
    (hbackend : Gate.checkBackend backend = .error fault) :
    need s conversation backend = .error (.invalidBackendUrl fault.message) := by
  simp [need, h, hbackend]

theorem need_of_not_mem {s : Sessions} {conversation : Option String} {backend : List Char}
    (h : s.key conversation ∉ s.keys) (hbackend : Gate.checkBackend backend = .ok ()) :
    need s conversation backend = .ok (.initialization (s.key conversation)) := by
  simp [need, h, hbackend]

/-- The reason that a failed initialization is reported with: its own, or the wording of a
failure of another kind. -/
def failureReason : Failure → String
  | .initializationFailed reason => reason
  | other => other.message

theorem initializationFailure_eq (failure : Failure) :
    initializationFailure failure = .initializationFailed (failureReason failure) := by
  cases failure <;> rfl

/-- By state, chat and question a payload leads to the text of the question, and it leads to
nothing else but the objects on the way. -/
theorem leads_payload_iff {question : String} {path : List String} {v : Json}
    (hv : ∀ ms, v ≠ .object ms) : Json.Leads path (payload question) v ↔
      path = ["state", "chat", "question"] ∧ v = .string question := by
  rw [payload, Json.leads_singleton_iff hv]
  simp only [Json.leads_singleton_iff hv, Json.leads_string_iff]
  constructor
  · rintro ⟨_, rfl, _, rfl, _, rfl, rfl, rfl⟩
    exact ⟨rfl, rfl⟩
  · rintro ⟨rfl, rfl⟩
    exact ⟨_, rfl, _, rfl, _, rfl, rfl, rfl⟩

/-- A question as it is put: the messages, the id of the conversation, the URL of the backend,
and how the backend takes an initialization at that time. -/
structure Asking where
  messages : List Chat.Message
  conversation : Option String
  backend : List Char
  initializer : Initializer

namespace Asking

def outcome (a : Asking) (s : Sessions) : Outcome :=
  build a.messages a.conversation a.backend s a.initializer

/-- The courses of a question, each with all that comes of it. -/
inductive Course (a : Asking) (s : Sessions) : Outcome → Prop
  | unasked (h : ∀ question, ¬ Asks a.messages question) :
      Course a s ⟨.error (.invalidInput noQuestion), s, []⟩
  | known {question : String} (h : Asks a.messages question)
      (hkey : s.key a.conversation ∈ s.keys) :
      Course a s ⟨.ok (payload question), s, []⟩
  | unreachable {question : String} {fault : Gate.BackendFault} (h : Asks a.messages question)
      (hkey : s.key a.conversation ∉ s.keys) (hbackend : Gate.checkBackend a.backend = .error fault) :
      Course a s ⟨.error (.invalidBackendUrl fault.message), s, []⟩
  | failed {question : String} {failure : Failure} (h : Asks a.messages question)
      (hkey : s.key a.conversation ∉ s.keys) (hbackend : Gate.checkBackend a.backend = .ok ())
      (hinit : a.initializer a.backend s.uuid = .error failure) :
      Course a s ⟨.error (.initializationFailed (failureReason failure)), s, [(a.backend, s.uuid)]⟩
  | initialized {question : String} (h : Asks a.messages question)
      (hkey : s.key a.conversation ∉ s.keys) (hbackend : Gate.checkBackend a.backend = .ok ())
      (hinit : a.initializer a.backend s.uuid = .ok ()) :
      Course a s ⟨.ok (payload question), { s with keys := s.key a.conversation :: s.keys },
        [(a.backend, s.uuid)]⟩

/-- Every question takes one of the courses. -/
theorem course_outcome (a : Asking) (s : Sessions) : a.Course s (a.outcome s) := by
  by_cases hasks : ∃ question, Asks a.messages question
  · obtain ⟨question, hasks⟩ := hasks
    by_cases hkey : s.key a.conversation ∈ s.keys
    · simp only [outcome, build, question?_of_asks hasks, need_of_mem hkey]
      exact .known hasks hkey
    · cases hbackend : Gate.checkBackend a.backend with
      | error fault =>
        simp only [outcome, build, question?_of_asks hasks, need_of_fault hkey hbackend]
        exact .unreachable hasks hkey hbackend
      | ok =>
        simp only [outcome, build, question?_of_asks hasks, need_of_not_mem hkey hbackend]
        cases hinit : a.initializer a.backend s.uuid with
        | error failure =>
          simp only [settle, Except.map, initializationFailure_eq]
          exact .failed hasks hkey hbackend hinit
        | ok =>
          simp only [settle, Except.map, Sessions.mark_of_not_mem hkey]
          exact .initialized hasks hkey hbackend hinit
  · have hnone : ∀ question, ¬ Asks a.messages question := not_exists.mp hasks
    simp only [outcome, build, question?_of_not_asks hnone]
    exact .unasked hnone

/-- What comes of a question depends on the initializer only through the calls made to it. -/
theorem outcome_congr {a : Asking} {s : Sessions} {initializer : Initializer}
    (h : ∀ call ∈ (a.outcome s).calls,
      initializer call.1 call.2 = a.initializer call.1 call.2) :
    { a with initializer := initializer }.outcome s = a.outcome s := by
  unfold outcome build at *
  cases hquestion : question? a.messages with
  | error failure => rfl
  | ok question =>
    cases hneed : need s a.conversation a.backend with
    | error failure => rfl
    | ok need =>
      cases need with
      | nothing => rfl
      | initialization key =>
        simp only [hquestion, hneed, List.mem_singleton, forall_eq] at h
        simp only [h]

/-- That a question has its conversation initialized: the user spoke last, the conversation is
not in the set, and the URL of the backend is valid. -/
structure Initializes (a : Asking) (s : Sessions) : Prop where
  asks : ∃ question, Asks a.messages question
  unknown : s.key a.conversation ∉ s.keys
  reachable : Gate.checkBackend a.backend = .ok ()

/-- That the conversation is initialized and the backend takes it. -/
def Succeeds (a : Asking) (s : Sessions) : Prop :=
  a.Initializes s ∧ a.initializer a.backend s.uuid = .ok ()

/-- What is to come of a question that finds a set. -/
structure Answered (a : Asking) (s : Sessions) (o : Outcome) : Prop where
  initializes : a.Initializes s → o.calls = [(a.backend, s.uuid)]
  quiet : ¬ a.Initializes s → o.calls = []
  succeeds : a.Succeeds s → o.sessions = { s with keys := s.key a.conversation :: s.keys }
  unchanged : ¬ a.Succeeds s → o.sessions = s
  unasked : (∀ question, ¬ Asks a.messages question) →
    o.result = .error (.invalidInput noQuestion)
  unreachable : ∀ question fault, Asks a.messages question → s.key a.conversation ∉ s.keys →
    Gate.checkBackend a.backend = .error fault →
    o.result = .error (.invalidBackendUrl fault.message)
  failed : ∀ failure, a.Initializes s → a.initializer a.backend s.uuid = .error failure →
    o.result = .error (.initializationFailed (failureReason failure))
  served : ∀ question, Asks a.messages question →
    s.key a.conversation ∈ s.keys ∨ a.Succeeds s → o.result = .ok (payload question)

variable {a : Asking} {s : Sessions}

/-- Without an initialization nothing is called and nothing changes; the answer is left. -/
theorem Answered.of_not_initializes {result : Except Failure Json} (h : ¬ a.Initializes s)
    (unasked : (∀ question, ¬ Asks a.messages question) →
      result = .error (.invalidInput noQuestion))
    (unreachable : ∀ question fault, Asks a.messages question → s.key a.conversation ∉ s.keys →
      Gate.checkBackend a.backend = .error fault →
      result = .error (.invalidBackendUrl fault.message))
    (served : ∀ question, Asks a.messages question → s.key a.conversation ∈ s.keys →
      result = .ok (payload question)) : a.Answered s ⟨result, s, []⟩ where
  initializes hinit := absurd hinit h
  quiet _ := rfl
  succeeds hsucceeds := absurd hsucceeds.1 h
  unchanged _ := rfl
  unasked := unasked
  unreachable := unreachable
  failed _ hinit := absurd hinit h
  served question hasks hcase := by
    rcases hcase with hknown | hsucceeds
    · exact served question hasks hknown
    · exact absurd hsucceeds.1 h

/-- With an initialization the backend is called once, and its answer decides. -/
theorem Answered.of_initializes {question : String} {settled : Except Failure Unit}
    (h : a.Initializes s) (hasks : Asks a.messages question)
    (hsettled : a.initializer a.backend s.uuid = settled) {result : Except Failure Json}
    {sessions : Sessions}
    (failed : ∀ failure, settled = .error failure → sessions = s ∧
      result = .error (.initializationFailed (failureReason failure)))
    (succeeds : settled = .ok () → sessions = { s with keys := s.key a.conversation :: s.keys } ∧
      result = .ok (payload question)) :
    a.Answered s ⟨result, sessions, [(a.backend, s.uuid)]⟩ where
  initializes _ := rfl
  quiet hno := absurd h hno
  succeeds hsucceeds := (succeeds (hsettled ▸ hsucceeds.2)).1
  unchanged hno := by
    cases hcase : settled with
    | error failure => exact (failed failure hcase).1
    | ok => exact absurd ⟨h, hsettled.trans hcase⟩ hno
  unasked hno := absurd hasks (hno question)
  unreachable _ fault _ _ hfault := by
    rw [h.reachable] at hfault
    cases hfault
  failed failure _ hfailure := (failed failure (hsettled ▸ hfailure)).2
  served question' hasks' hcase := by
    obtain rfl := hasks.unique hasks'
    rcases hcase with hknown | hsucceeds
    · exact absurd hknown h.unknown
    · exact (succeeds (hsettled ▸ hsucceeds.2)).2

theorem Course.answered {o : Outcome} (h : a.Course s o) : a.Answered s o := by
  cases h with
  | unasked hnone =>
    have hno : ¬ a.Initializes s := fun hinit => hinit.asks.elim hnone
    refine .of_not_initializes hno (fun _ => rfl) ?_ ?_
    · intro question _ hasks
      exact absurd hasks (hnone question)
    · intro question hasks
      exact absurd hasks (hnone question)
  | known hasks hkey =>
    have hno : ¬ a.Initializes s := fun hinit => hinit.unknown hkey
    refine .of_not_initializes hno ?_ ?_ ?_
    · intro hnone
      exact absurd hasks (hnone _)
    · intro _ _ _ hunknown
      exact absurd hkey hunknown
    · intro question' hasks' _
      rw [hasks.unique hasks']
  | unreachable hasks hkey hbackend =>
    have hno : ¬ a.Initializes s := by
      intro hinit
      rw [hinit.reachable] at hbackend
      cases hbackend
    refine .of_not_initializes hno ?_ ?_ ?_
    · intro hnone
      exact absurd hasks (hnone _)
    · intro _ fault' _ _ hbackend'
      have hfault : _ = fault' := Except.error.inj (hbackend.symm.trans hbackend')
      rw [hfault]
    · intro _ _ hknown
      exact absurd hknown hkey
  | failed hasks hkey hbackend hinit =>
    refine .of_initializes ⟨⟨_, hasks⟩, hkey, hbackend⟩ hasks hinit ?_ ?_
    · intro failure' hfailure
      rw [Except.error.inj hfailure]
      exact ⟨rfl, rfl⟩
    · intro hok
      cases hok
  | initialized hasks hkey hbackend hinit =>
    refine .of_initializes ⟨⟨_, hasks⟩, hkey, hbackend⟩ hasks hinit ?_ ?_
    · intro failure' hfailure
      cases hfailure
    · intro _
      exact ⟨rfl, rfl⟩

/-- What has been built for a question leads by state, chat and question to what the user said
last, and to nothing else. -/
theorem leads_outcome_iff {v : Json} (h : (a.outcome s).result = .ok v) {path : List String}
    {w : Json} (hw : ∀ ms, w ≠ .object ms) : Json.Leads path v w ↔
      path = ["state", "chat", "question"] ∧
        ∃ question, Asks a.messages question ∧ w = .string question := by
  have hpayload : ∃ question, Asks a.messages question ∧ v = payload question := by
    have hcourse := a.course_outcome s
    generalize a.outcome s = o at hcourse h
    cases hcourse with
    | unasked => cases h
    | known hasks => exact ⟨_, hasks, (Except.ok.inj h).symm⟩
    | unreachable => cases h
    | failed => cases h
    | initialized hasks => exact ⟨_, hasks, (Except.ok.inj h).symm⟩
  obtain ⟨question, hasks, rfl⟩ := hpayload
  rw [leads_payload_iff hw]
  refine and_congr_right fun _ => ⟨fun hw => ⟨question, hasks, hw⟩, ?_⟩
  rintro ⟨question', hasks', hw'⟩
  rw [hw', hasks.unique hasks']

/-- Every question is answered as it is to be, whatever set it finds. -/
theorem answered_outcome (a : Asking) (s : Sessions) : a.Answered s (a.outcome s) :=
  (a.course_outcome s).answered

end Asking

end ChatRelay.Rag
