import ChatRelay.Proofs.Rag.Question
import Mathlib.Data.List.Induction
import Mathlib.Logic.Function.Basic

/-!
Questions that share a set of conversations. Each looks up the key of its conversation and, if it
is not in the set, waits for the backend; meanwhile other questions move on. The moves of a
question that nothing interrupts are what building its payload does.
-/

namespace ChatRelay.Rag

/-- A call whose messages end with a question. -/
structure Call where
  question : String
  conversation : Option String
  backend : List Char

/-- How far a call has come: it has yet to look its key up, waits for the key's initialization, or
has been answered. -/
inductive Stage where
  | asked
  | waiting (key : String)
  | answered (result : Except Failure Json)

/-- What a call or the backend does next: the call looks its key up, or the backend settles the
initialization for which it waits. -/
inductive Move (ι : Type) where
  | lookUp (i : ι)
  | settled (i : ι) (verdict : Except Failure Unit)

/-- Calls that share a set of conversations. -/
structure Shared (ι : Type) where
  sessions : Sessions
  stage : ι → Stage

namespace Shared

variable {ι : Type} [DecidableEq ι]

def start (s : Sessions) : Shared ι := ⟨s, fun _ => .asked⟩

/-- One call goes on to a stage, and leaves a set. -/
def proceed (t : Shared ι) (i : ι) (sessions : Sessions) (stage : Stage) : Shared ι :=
  ⟨sessions, Function.update t.stage i stage⟩

theorem stage_proceed_self (t : Shared ι) (i : ι) (sessions : Sessions) (stage : Stage) :
    (t.proceed i sessions stage).stage i = stage := by
  change Function.update t.stage i stage i = stage
  exact Function.update_self i stage t.stage

theorem stage_proceed_of_ne (t : Shared ι) {i j : ι} (h : j ≠ i) (sessions : Sessions)
    (stage : Stage) : (t.proceed i sessions stage).stage j = t.stage j := by
  change Function.update t.stage i stage j = t.stage j
  exact Function.update_of_ne h stage t.stage

/-- One move, if the call it is about is at the stage for it. -/
def move? (calls : ι → Call) (t : Shared ι) : Move ι → Option (Shared ι)
  | .lookUp i =>
    match t.stage i with
    | .asked =>
      match need t.sessions (calls i).conversation (calls i).backend with
      | .error failure => some (t.proceed i t.sessions (.answered (.error failure)))
      | .ok .nothing => some (t.proceed i t.sessions (.answered (.ok (payload (calls i).question))))
      | .ok (.initialization key) => some (t.proceed i t.sessions (.waiting key))
    | _ => none
  | .settled i verdict =>
    match t.stage i with
    | .waiting key =>
      let (settled, sessions) := settle t.sessions key verdict
      some (t.proceed i sessions (.answered (settled.map fun () => payload (calls i).question)))
    | _ => none

/-- The moves one after the other, whichever calls they are about. -/
def follow? (calls : ι → Call) (t : Shared ι) (moves : List (Move ι)) : Option (Shared ι) :=
  moves.foldlM (move? calls) t

theorem follow?_append {calls : ι → Call} {t t' : Shared ι} {moves more : List (Move ι)} :
    follow? calls t (moves ++ more) = some t' ↔
      ∃ u, follow? calls t moves = some u ∧ follow? calls u more = some t' := by
  rw [follow?, List.foldlM_append, Option.bind_eq_bind, Option.bind_eq_some_iff]
  rfl

theorem follow?_concat {calls : ι → Call} {t t' : Shared ι} {moves : List (Move ι)}
    {move : Move ι} : follow? calls t (moves ++ [move]) = some t' ↔
      ∃ u, follow? calls t moves = some u ∧ move? calls u move = some t' := by
  have hsingle (u : Shared ι) : follow? calls u [move] = move? calls u move := by
    rw [follow?, List.foldlM_cons]
    cases move? calls u move <;> rfl
  rw [follow?_append]
  simp only [hsingle]

/-! ### One move -/

/-- What a move can do. -/
inductive Moved (calls : ι → Call) (t : Shared ι) : Move ι → Shared ι → Prop where
  | known {i : ι} (asked : t.stage i = .asked)
      (present : t.sessions.key (calls i).conversation ∈ t.sessions.keys) :
      Moved calls t (.lookUp i)
        (t.proceed i t.sessions (.answered (.ok (payload (calls i).question))))
  | unreachable {i : ι} {fault : Gate.BackendFault} (asked : t.stage i = .asked)
      (absent : t.sessions.key (calls i).conversation ∉ t.sessions.keys)
      (refused : Gate.checkBackend (calls i).backend = .error fault) :
      Moved calls t (.lookUp i)
        (t.proceed i t.sessions (.answered (.error (.invalidBackendUrl fault.message))))
  | starts {i : ι} (asked : t.stage i = .asked)
      (absent : t.sessions.key (calls i).conversation ∉ t.sessions.keys)
      (reachable : Gate.checkBackend (calls i).backend = .ok ()) :
      Moved calls t (.lookUp i)
        (t.proceed i t.sessions (.waiting (t.sessions.key (calls i).conversation)))
  | failed {i : ι} {key : String} {failure : Failure} (waiting : t.stage i = .waiting key) :
      Moved calls t (.settled i (.error failure))
        (t.proceed i t.sessions (.answered (.error (initializationFailure failure))))
  | succeeded {i : ι} {key : String} (waiting : t.stage i = .waiting key) :
      Moved calls t (.settled i (.ok ()))
        (t.proceed i (t.sessions.mark key) (.answered (.ok (payload (calls i).question))))

theorem moved_of_move? {calls : ι → Call} {t t' : Shared ι} {move : Move ι}
    (h : move? calls t move = some t') : Moved calls t move t' := by
  cases move with
  | lookUp i =>
    cases hstage : t.stage i with
    | asked =>
      simp only [move?, hstage] at h
      by_cases hkey : t.sessions.key (calls i).conversation ∈ t.sessions.keys
      · rw [need_of_mem hkey] at h
        cases h
        exact .known hstage hkey
      · cases hbackend : Gate.checkBackend (calls i).backend with
        | error fault =>
          rw [need_of_fault hkey hbackend] at h
          cases h
          exact .unreachable hstage hkey hbackend
        | ok =>
          rw [need_of_not_mem hkey hbackend] at h
          cases h
          exact .starts hstage hkey hbackend
    | waiting key => simp only [move?, hstage, reduceCtorEq] at h
    | answered result => simp only [move?, hstage, reduceCtorEq] at h
  | settled i verdict =>
    cases hstage : t.stage i with
    | waiting key =>
      simp only [move?, hstage] at h
      cases verdict with
      | error failure =>
        cases h
        exact .failed hstage
      | ok =>
        cases h
        exact .succeeded hstage
    | asked => simp only [move?, hstage, reduceCtorEq] at h
    | answered result => simp only [move?, hstage, reduceCtorEq] at h

/-- What holds at the start and is kept by each move holds after all of them. -/
theorem invariant_of_follow? {calls : ι → Call} {start : Shared ι}
    {P : List (Move ι) → Shared ι → Prop} (hstart : P [] start)
    (hmove : ∀ moves t move t', follow? calls start moves = some t → P moves t →
      Moved calls t move t' → P (moves ++ [move]) t') {moves : List (Move ι)} {t : Shared ι}
    (h : follow? calls start moves = some t) : P moves t := by
  induction moves using List.reverseRecOn generalizing t with
  | nil =>
    cases h
    exact hstart
  | append_singleton moves move ih =>
    obtain ⟨u, hu, hmoved⟩ := follow?_concat.mp h
    exact hmove moves u move t hu (ih hu) (moved_of_move? hmoved)

/-! ### One call by itself -/

theorem proceed_proceed (t : Shared ι) (i : ι) (sessions sessions' : Sessions)
    (stage stage' : Stage) :
    (t.proceed i sessions stage).proceed i sessions' stage' = t.proceed i sessions' stage' := by
  rw [proceed, proceed, proceed, Function.update_idem]

theorem follow?_cons {calls : ι → Call} {t u : Shared ι} {move : Move ι}
    (h : move? calls t move = some u) (moves : List (Move ι)) :
    follow? calls t (move :: moves) = follow? calls u moves := by
  rw [follow?, List.foldlM_cons, h]
  rfl

/-- The moves of a call that nothing interrupts do what building its payload does: it looks its
key up, and each initialization that is asked for is settled. -/
theorem follow?_build (calls : ι → Call) (t : Shared ι) {i : ι} (hi : t.stage i = .asked)
    {messages : List Chat.Message} (hasks : Asks messages (calls i).question)
    (initializer : Initializer) :
    let o := build messages (calls i).conversation (calls i).backend t.sessions initializer
    follow? calls t (.lookUp i :: o.calls.map fun call => .settled i (initializer call.1 call.2)) =
      some (t.proceed i o.sessions (.answered o.result)) := by
  intro o
  -- What the key needs decides how the call goes on, and whether there is a second move.
  cases hneed : need t.sessions (calls i).conversation (calls i).backend with
  | error failure =>
    have hmove : move? calls t (.lookUp i) =
        some (t.proceed i t.sessions (.answered (.error failure))) := by
      simp only [move?, hi, hneed]
    have ho : o = ⟨.error failure, t.sessions, []⟩ := by
      simp only [o, build, question?_of_asks hasks, hneed]
    rw [follow?_cons hmove, ho]
    rfl
  | ok n =>
    cases n with
    | nothing =>
      have hmove : move? calls t (.lookUp i) =
          some (t.proceed i t.sessions (.answered (.ok (payload (calls i).question)))) := by
        simp only [move?, hi, hneed]
      have ho : o = ⟨.ok (payload (calls i).question), t.sessions, []⟩ := by
        simp only [o, build, question?_of_asks hasks, hneed]
      rw [follow?_cons hmove, ho]
      rfl
    | initialization key =>
      have hmove : move? calls t (.lookUp i) = some (t.proceed i t.sessions (.waiting key)) := by
        simp only [move?, hi, hneed]
      have hcalls : o.calls = [((calls i).backend, t.sessions.uuid)] := by
        simp only [o, build, question?_of_asks hasks, hneed]
      have hsettled : move? calls (t.proceed i t.sessions (.waiting key))
            (.settled i (initializer (calls i).backend t.sessions.uuid)) =
          some (t.proceed i o.sessions (.answered o.result)) := by
        simp only [move?, stage_proceed_self, proceed_proceed, o, build, question?_of_asks hasks,
          hneed]
        rfl
      rw [hcalls, List.map_singleton, follow?_cons hmove, follow?_cons hsettled]
      rfl

end Shared

end ChatRelay.Rag
