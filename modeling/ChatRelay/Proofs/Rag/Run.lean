import ChatRelay.Proofs.Rag.Question

/-!
Questions put one after the other to one set of conversations: each finds the set that the one
before it left. However they fail and are tried again, no conversation is initialized twice.
-/

namespace ChatRelay.Rag

/-- A step of a run: a question, the set it found, and what came of it. -/
structure Step where
  asking : Asking
  found : Sessions
  outcome : Outcome

/-- The keys that a step had initialized: one for each call that the backend took. -/
def Step.initialized (step : Step) : List String :=
  (step.outcome.calls.filter fun (backend, uuid) => (step.asking.initializer backend uuid).isOk).map
    fun _ => step.found.key step.asking.conversation

def run (s : Sessions) : List Asking → List Step
  | [] => []
  | a :: rest => ⟨a, s, a.outcome s⟩ :: run (a.outcome s).sessions rest

/-- The set that a run leaves. -/
def after (s : Sessions) : List Asking → Sessions
  | [] => s
  | a :: rest => after (a.outcome s).sessions rest

/-- The keys that the steps had initialized, in their order. -/
def initialized (steps : List Step) : List String :=
  steps.flatMap Step.initialized

theorem initialized_cons (step : Step) (steps : List Step) :
    initialized (step :: steps) = step.initialized ++ initialized steps := rfl

/-! ### One step -/

section Step

variable (a : Asking) (s : Sessions)

/-- A step initializes the conversation of its question or none, and none that was in the set. -/
theorem initialized_step :
    (a.Succeeds s ∧ Step.initialized ⟨a, s, a.outcome s⟩ = [s.key a.conversation]) ∨
      (¬ a.Succeeds s ∧ Step.initialized ⟨a, s, a.outcome s⟩ = []) := by
  have hanswered := a.answered_outcome s
  by_cases hinit : a.Initializes s
  · have hcalls : (a.outcome s).calls = [(a.backend, s.uuid)] := hanswered.initializes hinit
    cases hsettled : a.initializer a.backend s.uuid with
    | ok =>
      left
      refine ⟨⟨hinit, hsettled⟩, ?_⟩
      simp [Step.initialized, hcalls, hsettled, Except.isOk, Except.toBool]
    | error failure =>
      right
      refine ⟨fun hsucceeds => ?_, ?_⟩
      · rw [hsucceeds.2] at hsettled
        cases hsettled
      · simp [Step.initialized, hcalls, hsettled, Except.isOk, Except.toBool]
  · right
    have hcalls : (a.outcome s).calls = [] := hanswered.quiet hinit
    exact ⟨fun hsucceeds => hinit hsucceeds.1, by simp [Step.initialized, hcalls]⟩

theorem sessions_outcome :
    (a.outcome s).sessions =
      { s with keys := (Step.initialized ⟨a, s, a.outcome s⟩).reverse ++ s.keys } := by
  have hanswered := a.answered_outcome s
  rcases initialized_step a s with ⟨hsucceeds, hstep⟩ | ⟨hno, hstep⟩
  · rw [hstep, hanswered.succeeds hsucceeds]
    rfl
  · rw [hstep, hanswered.unchanged hno]
    rfl

theorem not_mem_of_mem_initialized_step {key : String}
    (h : key ∈ Step.initialized ⟨a, s, a.outcome s⟩) : key ∉ s.keys := by
  rcases initialized_step a s with ⟨hsucceeds, hstep⟩ | ⟨-, hstep⟩
  · rw [hstep, List.mem_singleton] at h
    rw [h]
    exact hsucceeds.1.unknown
  · rw [hstep] at h
    cases h

theorem nodup_initialized_step : (Step.initialized ⟨a, s, a.outcome s⟩).Nodup := by
  rcases initialized_step a s with ⟨-, hstep⟩ | ⟨-, hstep⟩ <;> rw [hstep] <;> simp

theorem uuid_outcome : (a.outcome s).sessions.uuid = s.uuid := by
  rw [sessions_outcome]

/-- A conversation is in the set afterwards if it was before, or if it is the one of the question
and its initialization has succeeded. -/
theorem mem_keys_outcome_iff (c : Option String) :
    s.key c ∈ (a.outcome s).sessions.keys ↔
      s.key c ∈ s.keys ∨ a.Succeeds s ∧ SameConversation c a.conversation := by
  have hanswered := a.answered_outcome s
  by_cases hsucceeds : a.Succeeds s
  · rw [hanswered.succeeds hsucceeds, List.mem_cons, Sessions.key_eq_key_iff rfl, or_comm]
    simp only [hsucceeds, true_and]
  · rw [hanswered.unchanged hsucceeds]
    simp only [hsucceeds, false_and, or_false]

/-- A question leaves all conversations but its own as they were. -/
theorem mem_keys_outcome_of_other {c : Option String} (h : ¬ SameConversation c a.conversation) :
    s.key c ∈ (a.outcome s).sessions.keys ↔ s.key c ∈ s.keys := by
  rw [mem_keys_outcome_iff]
  simp only [h, and_false, or_false]

end Step

/-! ### A run -/

/-- What a run leaves is what it found and what it had initialized, the latest first. -/
theorem after_eq (s : Sessions) (askings : List Asking) :
    after s askings = { s with keys := (initialized (run s askings)).reverse ++ s.keys } := by
  -- The induction is on the questions, for every set that a run may find.
  induction askings generalizing s with
  | nil => rfl
  | cons a rest ih =>
    rw [after, ih, run, initialized_cons, sessions_outcome]
    simp

theorem nodup_initialized (s : Sessions) (askings : List Asking) :
    (initialized (run s askings)).Nodup ∧ ∀ key ∈ initialized (run s askings), key ∉ s.keys := by
  induction askings generalizing s with
  | nil => exact ⟨List.nodup_nil, fun key h => absurd h List.not_mem_nil⟩
  | cons a rest ih =>
    obtain ⟨hnodup, hfresh⟩ := ih (a.outcome s).sessions
    -- What the rest of the run has initialized is new to the set that this step has left.
    have hrest : ∀ key ∈ initialized (run (a.outcome s).sessions rest),
        key ∉ Step.initialized ⟨a, s, a.outcome s⟩ ∧ key ∉ s.keys := by
      intro key hkey
      have hleft := hfresh key hkey
      rw [sessions_outcome] at hleft
      simpa [not_or] using hleft
    rw [run, initialized_cons]
    constructor
    · apply List.nodup_append.mpr ⟨nodup_initialized_step a s, hnodup, ?_⟩
      rintro key hstep _ hkey rfl
      exact (hrest key hkey).1 hstep
    · intro key hkey
      rcases List.mem_append.mp hkey with hstep | hkey
      · exact not_mem_of_mem_initialized_step a s hstep
      · exact (hrest key hkey).2

/-- What holds of a question whatever set of the session it finds holds of every step. -/
theorem forall_mem_run {P : Step → Prop} {s : Sessions}
    (h : ∀ (a : Asking) (found : Sessions), found.uuid = s.uuid → P ⟨a, found, a.outcome found⟩)
    (askings : List Asking) : ∀ step ∈ run s askings, P step := by
  induction askings generalizing s with
  | nil => exact fun step hstep => absurd hstep List.not_mem_nil
  | cons a rest ih =>
    intro step hstep
    rcases List.mem_cons.mp hstep with rfl | hstep
    · exact h a s rfl
    · apply ih (s := (a.outcome s).sessions) ?_ step hstep
      intro a' found hfound
      exact h a' found (hfound.trans (uuid_outcome a s))

/-- A conversation is in the set after a run if it was before, or if a question of it has
succeeded to have it initialized. -/
theorem mem_keys_after_iff (s : Sessions) (askings : List Asking) (c : Option String) :
    s.key c ∈ (after s askings).keys ↔ s.key c ∈ s.keys ∨
      ∃ step ∈ run s askings, step.asking.Succeeds step.found ∧
        SameConversation c step.asking.conversation := by
  induction askings generalizing s with
  | nil => simp [after, run]
  | cons a rest ih =>
    -- The key of a conversation stays the same, since a question leaves the session as it is.
    have hkey : (a.outcome s).sessions.key c = s.key c :=
      (Sessions.key_eq_key_iff (uuid_outcome a s)).mpr (.refl c)
    have hrest := ih (a.outcome s).sessions
    rw [hkey, mem_keys_outcome_iff] at hrest
    simp only [after, run, hrest, List.exists_mem_cons_iff, or_assoc]

/-- Each question of a run calls, answers and leaves what it is to, calls nothing else, and leaves
every other conversation as it was; each key is initialized at most once, and never one that the
run found; and what the run leaves is what it found and what it had initialized, so that the
conversations known in the end are those known at the start and those of the questions whose
initialization succeeded. -/
theorem run_initializes_once (s : Sessions) (askings : List Asking) :
    (∀ step ∈ run s askings,
        step.found.uuid = s.uuid ∧ step.asking.Answered step.found step.outcome ∧
          (∀ initializer : Initializer, (∀ call ∈ step.outcome.calls,
              initializer call.1 call.2 = step.asking.initializer call.1 call.2) →
            { step.asking with initializer := initializer }.outcome step.found = step.outcome) ∧
          ∀ c, ¬ SameConversation c step.asking.conversation →
            (s.key c ∈ step.outcome.sessions.keys ↔ s.key c ∈ step.found.keys)) ∧
      (initialized (run s askings)).Nodup ∧
      (∀ key ∈ initialized (run s askings), key ∉ s.keys) ∧
      after s askings = { s with keys := (initialized (run s askings)).reverse ++ s.keys } ∧
      ∀ c, s.key c ∈ (after s askings).keys ↔ s.key c ∈ s.keys ∨
        ∃ step ∈ run s askings, step.asking.Succeeds step.found ∧
          SameConversation c step.asking.conversation := by
  obtain ⟨hnodup, hfresh⟩ := nodup_initialized s askings
  refine ⟨forall_mem_run ?_ askings, hnodup, hfresh, after_eq s askings,
    mem_keys_after_iff s askings⟩
  intro a found hfound
  refine ⟨hfound, a.answered_outcome found, fun initializer h => Asking.outcome_congr h, ?_⟩
  intro c hother
  have hkey : s.key c = found.key c := (Sessions.key_eq_key_iff hfound.symm).mpr (.refl c)
  rw [hkey]
  exact mem_keys_outcome_of_other a found hother

/-- A question to a backend on this machine, with what an initialization there comes to. -/
def attempt (conversation : Option String) (settled : Except Failure Unit) : Asking :=
  ⟨[⟨.user, "Hi"⟩], conversation, "http://[::1]".toList, fun _ _ => settled⟩

/-- A failure, a second try under another id of the same conversation, a third id, and one of
another conversation at a backend that is none. -/
def attempts : List Asking :=
  [attempt none (.error (.backendFailed "down")), attempt (some "") (.ok ()),
    attempt (some "default") (.ok ()), { attempt (some "a") (.ok ()) with backend := [] }]

theorem run_attempts :
    (run (.fresh "7") attempts).map (·.outcome.calls.length) = [1, 1, 0, 0] ∧
      initialized (run (.fresh "7") attempts) = ["7-default"] ∧
      after (.fresh "7") attempts = ⟨"7", ["7-default"]⟩ ∧
      (initialized (run (.fresh "7") attempts)).Nodup :=
  ⟨by decide +kernel, by decide +kernel, by decide +kernel,
    (run_initializes_once (.fresh "7") attempts).2.1⟩

end ChatRelay.Rag
