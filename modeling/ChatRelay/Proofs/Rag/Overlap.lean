import ChatRelay.Proofs.Rag.Shared

/-!
Questions that overlap. The look-up of a key and its insertion are two moves, so that a
conversation is initialized once for each question that looked before the first insertion, and
only once if no question looks while another one of its conversation waits.
-/

namespace ChatRelay.Rag

/-! ### Successful initializations -/

section Successes

variable {ι : Type} (calls : ι → Call) (s : Sessions) (key : String)

/-- The call for which a move settles an initialization of a key well. -/
def Move.success? : Move ι → Option ι
  | .settled i (.ok ()) => if s.key (calls i).conversation = key then some i else none
  | _ => none

/-- The calls that have had a key initialized, in their order. -/
def successes (moves : List (Move ι)) : List ι :=
  moves.filterMap (Move.success? calls s key)

/-- A call that looks its key up before any call has had it initialized. -/
def LooksEarly (i : ι) (moves : List (Move ι)) : Prop :=
  ∃ front back, moves = front ++ .lookUp i :: back ∧ successes calls s key front = []

variable {calls s key}

theorem successes_concat (moves : List (Move ι)) (move : Move ι) :
    successes calls s key (moves ++ [move]) =
      successes calls s key moves ++ (move.success? calls s key).toList := by
  rw [successes, List.filterMap_append, successes]
  cases hmove : move.success? calls s key <;> simp [hmove]

theorem successes_settled {i : ι} {key' : String} (hi : key' = s.key (calls i).conversation)
    (moves : List (Move ι)) : successes calls s key (moves ++ [.settled i (.ok ())]) =
      successes calls s key moves ++ if key' = key then [i] else [] := by
  rw [successes_concat, Move.success?, ← hi]
  split <;> rfl

theorem key_of_mem_successes {i : ι} {moves : List (Move ι)}
    (h : i ∈ successes calls s key moves) : key = s.key (calls i).conversation := by
  obtain ⟨move, -, hmove⟩ := List.mem_filterMap.mp h
  unfold Move.success? at hmove
  split at hmove
  · split at hmove
    · rename_i hkey
      cases hmove
      exact hkey.symm
    · cases hmove
  · cases hmove

theorem LooksEarly.concat {i : ι} {moves : List (Move ι)} (h : LooksEarly calls s key i moves)
    (move : Move ι) : LooksEarly calls s key i (moves ++ [move]) := by
  obtain ⟨front, back, rfl, hfront⟩ := h
  exact ⟨front, back ++ [move], by simp, hfront⟩

end Successes

/-! ### Overlapping calls -/

section Overlap

variable {ι : Type} [DecidableEq ι] {calls : ι → Call} {s : Sessions}

/-- What is known after any moves: the set holds what has been initialized, a call that waits has
looked early, and so has every call that has had its key initialized. -/
structure Overlapped (calls : ι → Call) (s : Sessions) (moves : List (Move ι)) (t : Shared ι) :
    Prop where
  uuid : t.sessions.uuid = s.uuid
  keys : ∀ key, key ∈ t.sessions.keys ↔ key ∈ s.keys ∨ successes calls s key moves ≠ []
  waiting : ∀ i key, t.stage i = .waiting key → key = s.key (calls i).conversation ∧
    key ∉ s.keys ∧ LooksEarly calls s key i moves
  succeeded : ∀ key, ∀ i ∈ successes calls s key moves, key ∉ s.keys ∧
    LooksEarly calls s key i moves ∧ ∃ result, t.stage i = .answered result
  distinct : ∀ key, (successes calls s key moves).Nodup

omit [DecidableEq ι] in
theorem overlapped_start : Overlapped calls s [] (.start s) where
  uuid := rfl
  keys key := by simp [Shared.start, successes]
  waiting i key h := by cases h
  succeeded key i h := by cases h
  distinct key := List.nodup_nil

/-- A move that initializes nothing takes one call further and leaves the set. -/
theorem Overlapped.quiet {moves : List (Move ι)} {t : Shared ι} (h : Overlapped calls s moves t)
    {move : Move ι} {i : ι} {stage : Stage}
    (hnone : ∀ key, move.success? calls s key = none)
    (hopen : ∀ result, t.stage i ≠ .answered result)
    (hwaiting : ∀ key, stage = .waiting key → key = s.key (calls i).conversation ∧
      key ∉ s.keys ∧ LooksEarly calls s key i (moves ++ [move])) :
    Overlapped calls s (moves ++ [move]) (t.proceed i t.sessions stage) := by
  have hsame (key : String) :
      successes calls s key (moves ++ [move]) = successes calls s key moves := by
    rw [successes_concat, hnone, Option.toList_none, List.append_nil]
  constructor
  · exact h.uuid
  · intro key
    rw [hsame]
    exact h.keys key
  · intro j key hj
    by_cases hji : j = i
    · subst hji
      rw [Shared.stage_proceed_self] at hj
      exact hwaiting key hj
    · rw [Shared.stage_proceed_of_ne t hji] at hj
      obtain ⟨hkey, habsent, hearly⟩ := h.waiting j key hj
      exact ⟨hkey, habsent, hearly.concat move⟩
  · intro key j hj
    rw [hsame] at hj
    obtain ⟨habsent, hearly, result, hresult⟩ := h.succeeded key j hj
    have hji : j ≠ i := by
      rintro rfl
      exact hopen result hresult
    refine ⟨habsent, hearly.concat move, result, ?_⟩
    rw [Shared.stage_proceed_of_ne t hji]
    exact hresult
  · intro key
    rw [hsame]
    exact h.distinct key

omit [DecidableEq ι] in
/-- A call that waits has not had any key initialized. -/
theorem Overlapped.not_mem_of_waiting {moves : List (Move ι)} {t : Shared ι}
    (h : Overlapped calls s moves t) {i : ι} {key : String} (waiting : t.stage i = .waiting key)
    (key' : String) : i ∉ successes calls s key' moves := by
  intro hi
  obtain ⟨-, -, result, hresult⟩ := h.succeeded key' i hi
  rw [waiting] at hresult
  cases hresult

/-- A call that waits has its key put into the set. -/
theorem Overlapped.success {moves : List (Move ι)} {t : Shared ι} (h : Overlapped calls s moves t)
    {i : ι} {key : String} (waiting : t.stage i = .waiting key) :
    Overlapped calls s (moves ++ [.settled i (.ok ())])
      (t.proceed i (t.sessions.mark key) (.answered (.ok (payload (calls i).question)))) := by
  obtain ⟨hi, habsent, hearly⟩ := h.waiting i key waiting
  constructor
  · exact (Sessions.uuid_mark t.sessions key).trans h.uuid
  · intro k
    have hmark : k ∈ (t.sessions.mark key).keys ↔ k = key ∨ k ∈ t.sessions.keys :=
      Sessions.mem_keys_mark
    rw [successes_settled hi]
    refine hmark.trans ?_
    rw [h.keys]
    by_cases hk : key = k
    · simp [hk]
    · simp [hk, Ne.symm hk]
  · intro j k hj
    by_cases hji : j = i
    · rw [hji, Shared.stage_proceed_self] at hj
      cases hj
    · rw [Shared.stage_proceed_of_ne t hji] at hj
      obtain ⟨hk, habsent', hearly'⟩ := h.waiting j k hj
      exact ⟨hk, habsent', hearly'.concat _⟩
  · -- Either the call has succeeded before, or it is this one.
    intro k j hj
    rw [successes_settled hi, List.mem_append] at hj
    rcases hj with hold | hnew
    · obtain ⟨habsent', hearly', result, hresult⟩ := h.succeeded k j hold
      have hji : j ≠ i := fun hji => h.not_mem_of_waiting waiting k (hji ▸ hold)
      refine ⟨habsent', hearly'.concat _, result, ?_⟩
      rw [Shared.stage_proceed_of_ne t hji]
      exact hresult
    · split at hnew
      · rename_i hk
        rw [List.mem_singleton.mp hnew, ← hk]
        exact ⟨habsent, hearly.concat _, _, Shared.stage_proceed_self t i _ _⟩
      · cases hnew
  · intro k
    rw [successes_settled hi]
    split
    · refine List.nodup_append.mpr ⟨h.distinct k, List.pairwise_singleton _ i, ?_⟩
      rintro j hj j' hj' rfl
      rw [List.mem_singleton.mp hj'] at hj
      exact h.not_mem_of_waiting waiting k hj
    · rw [List.append_nil]
      exact h.distinct k

/-- Each move keeps what is known. -/
theorem Overlapped.moved {moves : List (Move ι)} {t t' : Shared ι} {move : Move ι}
    (h : Overlapped calls s moves t) (hmoved : t.Moved calls move t') :
    Overlapped calls s (moves ++ [move]) t' := by
  have hkey (i : ι) : t.sessions.key (calls i).conversation = s.key (calls i).conversation :=
    (Sessions.key_eq_key_iff h.uuid).mpr (.refl _)
  cases hmoved with
  | @known i asked present =>
    apply h.quiet
    · exact fun key => rfl
    · rw [asked]
      exact fun result hresult => nomatch hresult
    · exact fun key hstage => nomatch hstage
  | @unreachable i fault asked absent refused =>
    apply h.quiet
    · exact fun key => rfl
    · rw [asked]
      exact fun result hresult => nomatch hresult
    · exact fun key hstage => nomatch hstage
  | @starts i asked absent reachable =>
    apply h.quiet
    · exact fun key => rfl
    · rw [asked]
      exact fun result hresult => nomatch hresult
    · -- The key is not in the set, so that no call has had it initialized before.
      intro key hstage
      obtain rfl := Stage.waiting.inj hstage
      rw [h.keys, not_or, not_ne_iff] at absent
      exact ⟨hkey i, absent.1, moves, [], rfl, absent.2⟩
  | @failed i key failure waiting =>
    apply h.quiet
    · exact fun key => rfl
    · rw [waiting]
      exact fun result hresult => nomatch hresult
    · exact fun key hstage => nomatch hstage
  | succeeded waiting => exact h.success waiting

theorem overlapped_of_follow? {moves : List (Move ι)} {t : Shared ι}
    (h : Shared.follow? calls (.start s) moves = some t) : Overlapped calls s moves t := by
  refine Shared.invariant_of_follow? overlapped_start ?_ h
  intro moves u move u' _ hu hmoved
  exact hu.moved hmoved

/-! ### Calls that keep apart -/

/-- That no call looks a key up while another call waits for its initialization. -/
def Apart (calls : ι → Call) (s : Sessions) (key : String) (moves : List (Move ι)) : Prop :=
  ∀ front j back t, moves = front ++ .lookUp j :: back → s.key (calls j).conversation = key →
    Shared.follow? calls (.start s) front = some t → ∀ i, t.stage i ≠ .waiting key

theorem Apart.of_concat {key : String} {moves : List (Move ι)} {move : Move ι}
    (h : Apart calls s key (moves ++ [move])) : Apart calls s key moves := by
  intro front j back t hmoves
  exact h front j (back ++ [move]) t (by simp [hmoves])

/-- One call at most waits for a key, and none when the key has been initialized. -/
structure Alone (calls : ι → Call) (s : Sessions) (key : String) (moves : List (Move ι))
    (t : Shared ι) : Prop where
  one : ∀ i j, t.stage i = .waiting key → t.stage j = .waiting key → i = j
  settled : successes calls s key moves ≠ [] → ∀ i, t.stage i ≠ .waiting key
  once : (successes calls s key moves).length ≤ 1

/-- A move that does not initialize the key keeps calls alone, if it leaves no call waiting for the key. -/
theorem Alone.quiet {key : String} {moves : List (Move ι)} {t : Shared ι}
    (h : Alone calls s key moves t) {move : Move ι} {i : ι}
    {sessions : Sessions} {stage : Stage} (hnone : move.success? calls s key = none)
    (hstage : stage ≠ .waiting key) :
    Alone calls s key (moves ++ [move]) (t.proceed i sessions stage) := by
  have hsame : successes calls s key (moves ++ [move]) = successes calls s key moves := by
    rw [successes_concat, hnone, Option.toList_none, List.append_nil]
  have hold {j : ι} (hj : (t.proceed i sessions stage).stage j = .waiting key) :
      t.stage j = .waiting key := by
    by_cases hji : j = i
    · rw [hji, Shared.stage_proceed_self] at hj
      exact absurd hj hstage
    · rwa [Shared.stage_proceed_of_ne t hji] at hj
  constructor
  · exact fun j j' hj hj' => h.one j j' (hold hj) (hold hj')
  · intro hne j hj
    rw [hsame] at hne
    exact h.settled hne j (hold hj)
  · rw [hsame]
    exact h.once

omit [DecidableEq ι] in
theorem alone_of_none {key : String} {moves : List (Move ι)} {t : Shared ι}
    (hnone : successes calls s key moves = [])
    (one : ∀ i j, t.stage i = .waiting key → t.stage j = .waiting key → i = j) :
    Alone calls s key moves t where
  one := one
  settled hne := absurd hnone hne
  once := by
    rw [hnone]
    exact Nat.zero_le 1

omit [DecidableEq ι] in
theorem alone_start (key : String) : Alone calls s key [] (.start s) := by
  apply alone_of_none rfl
  intro i j hi
  cases hi

/-- A call that waits, with no other one beside it, has the key initialized for the first time. -/
theorem Alone.success {key : String} {moves : List (Move ι)} {t : Shared ι}
    (h : Alone calls s key moves t) {i : ι} (hi : key = s.key (calls i).conversation)
    (waiting : t.stage i = .waiting key) {sessions : Sessions} {result : Except Failure Json} :
    Alone calls s key (moves ++ [.settled i (.ok ())])
      (t.proceed i sessions (.answered result)) := by
  have hnone : successes calls s key moves = [] := by
    by_contra hne
    exact h.settled hne i waiting
  have hfree (j : ι) : (t.proceed i sessions (.answered result)).stage j ≠ .waiting key := by
    intro hj
    by_cases hji : j = i
    · rw [hji, Shared.stage_proceed_self] at hj
      cases hj
    · rw [Shared.stage_proceed_of_ne t hji] at hj
      exact hji (h.one j i hj waiting)
  constructor
  · exact fun j j' hj => absurd hj (hfree j)
  · exact fun _ => hfree
  · rw [successes_settled hi, hnone, if_pos rfl]
    exact Nat.le_refl 1

theorem Alone.moved {key : String} {moves : List (Move ι)} {t t' : Shared ι} {move : Move ι}
    (h : Alone calls s key moves t) (hknown : Overlapped calls s moves t)
    (hapart : ∀ j, move = .lookUp j → s.key (calls j).conversation = key →
      ∀ i, t.stage i ≠ .waiting key)
    (hmoved : t.Moved calls move t') : Alone calls s key (moves ++ [move]) t' := by
  have hkey (i : ι) : t.sessions.key (calls i).conversation = s.key (calls i).conversation :=
    (Sessions.key_eq_key_iff hknown.uuid).mpr (.refl _)
  cases hmoved with
  | known asked present => exact h.quiet rfl fun hstage => nomatch hstage
  | unreachable asked absent refused => exact h.quiet rfl fun hstage => nomatch hstage
  | @starts i asked absent reachable =>
    by_cases hi : s.key (calls i).conversation = key
    · -- The call is the first that waits, and the key has not been initialized.
      have hnone : successes calls s key (moves ++ [.lookUp i]) = [] := by
        rw [hkey, hi, hknown.keys, not_or, not_ne_iff] at absent
        rw [successes_concat, absent.2]
        rfl
      have hself {j : ι} (hj : (t.proceed i t.sessions (.waiting
          (t.sessions.key (calls i).conversation))).stage j = .waiting key) : j = i := by
        by_contra hji
        rw [Shared.stage_proceed_of_ne t hji] at hj
        exact hapart i rfl hi j hj
      exact alone_of_none hnone fun j j' hj hj' => (hself hj).trans (hself hj').symm
    · apply h.quiet rfl
      intro hstage
      exact hi ((hkey i).symm.trans (Stage.waiting.inj hstage))
  | failed waiting => exact h.quiet rfl fun hstage => nomatch hstage
  | @succeeded i key' waiting =>
    obtain ⟨hi, -, -⟩ := hknown.waiting i key' waiting
    by_cases hk : key' = key
    · subst hk
      exact h.success hi waiting
    · have hnone : Move.success? calls s key (.settled i (.ok ())) = none := by
        rw [Move.success?, ← hi, if_neg hk]
      exact h.quiet hnone fun hstage => nomatch hstage

theorem once_of_apart {key : String} {moves : List (Move ι)} {t : Shared ι}
    (hapart : Apart calls s key moves) (h : Shared.follow? calls (.start s) moves = some t) :
    (successes calls s key moves).length ≤ 1 := by
  have halone : Apart calls s key moves → Alone calls s key moves t := by
    apply Shared.invariant_of_follow? (P := fun moves t => Apart calls s key moves →
      Alone calls s key moves t) (fun _ => alone_start key) ?_ h
    intro moves u move u' hu ih hmoved hapart
    apply (ih hapart.of_concat).moved (overlapped_of_follow? hu) ?_ hmoved
    rintro j rfl hj
    exact hapart moves j [] u rfl hj hu
  exact (halone hapart).once

/-! ### Calls that all overlap -/

/-- Calls whose key is not in the set all wait when they have looked it up. -/
theorem follow?_lookUps {is : List ι} (hnodup : is.Nodup) {t : Shared ι}
    (hstages : ∀ i ∈ is, t.stage i = .asked)
    (habsent : ∀ i ∈ is, t.sessions.key (calls i).conversation ∉ t.sessions.keys)
    (hbackends : ∀ i ∈ is, Gate.checkBackend (calls i).backend = .ok ()) :
    ∃ u, Shared.follow? calls t (is.map .lookUp) = some u ∧
      (∀ i ∈ is, ∃ key, u.stage i = .waiting key) ∧ ∀ i ∉ is, u.stage i = t.stage i := by
  induction is generalizing t with
  | nil => exact ⟨t, rfl, fun i hi => absurd hi List.not_mem_nil, fun i _ => rfl⟩
  | cons i is ih =>
    obtain ⟨hi, hnodup⟩ := List.nodup_cons.mp hnodup
    obtain ⟨hstage, hstages⟩ := List.forall_mem_cons.mp hstages
    obtain ⟨hkey, habsent⟩ := List.forall_mem_cons.mp habsent
    obtain ⟨hbackend, hbackends⟩ := List.forall_mem_cons.mp hbackends
    have hmove : Shared.move? calls t (.lookUp i) = some (t.proceed i t.sessions
        (.waiting (t.sessions.key (calls i).conversation))) := by
      simp only [Shared.move?, hstage, need_of_not_mem hkey hbackend]
    have hlater : ∀ j ∈ is, (t.proceed i t.sessions
        (.waiting (t.sessions.key (calls i).conversation))).stage j = .asked := by
      intro j hj
      have hji : j ≠ i := fun hji => hi (hji ▸ hj)
      rw [Shared.stage_proceed_of_ne t hji]
      exact hstages j hj
    -- Looking a key up leaves the set as it is, so that the others find it the same.
    obtain ⟨u, hu, hwaiting, hothers⟩ := ih hnodup hlater habsent hbackends
    refine ⟨u, (Shared.follow?_cons hmove _).trans hu, ?_, ?_⟩
    · have hself : u.stage i = .waiting (t.sessions.key (calls i).conversation) := by
        rw [hothers i hi]
        exact Shared.stage_proceed_self t i _ _
      exact List.forall_mem_cons.mpr ⟨⟨_, hself⟩, hwaiting⟩
    · intro j hj
      obtain ⟨hji, hj⟩ := not_or.mp (mt List.mem_cons.mpr hj)
      rw [hothers j hj]
      exact Shared.stage_proceed_of_ne t hji _ _

theorem follow?_settled {is : List ι} (hnodup : is.Nodup) {t : Shared ι}
    (hstages : ∀ i ∈ is, ∃ key, t.stage i = .waiting key) :
    ∃ u, Shared.follow? calls t (is.map fun i => .settled i (.ok ())) = some u := by
  induction is generalizing t with
  | nil => exact ⟨t, rfl⟩
  | cons i is ih =>
    obtain ⟨hi, hnodup⟩ := List.nodup_cons.mp hnodup
    obtain ⟨⟨key, hkey⟩, hstages⟩ := List.forall_mem_cons.mp hstages
    have hmove : Shared.move? calls t (.settled i (.ok ())) = some (t.proceed i
        (t.sessions.mark key) (.answered (.ok (payload (calls i).question)))) := by
      simp only [Shared.move?, hkey]
      rfl
    rw [List.map_cons, Shared.follow?_cons hmove]
    apply ih hnodup
    -- The other calls wait as before.
    intro j hj
    have hji : j ≠ i := fun hji => hi (hji ▸ hj)
    rw [Shared.stage_proceed_of_ne t hji]
    exact hstages j hj

/-- Nothing bounds the initializations of a key but the number of calls: when all of them look it
up before the first is settled, each of them has it initialized. -/
theorem exists_all_initialized (calls : ι → Call) {s : Sessions} {key : String} {is : List ι}
    (hnodup : is.Nodup) (hkeys : ∀ i ∈ is, s.key (calls i).conversation = key)
    (hbackends : ∀ i ∈ is, Gate.checkBackend (calls i).backend = .ok ()) (habsent : key ∉ s.keys) :
    ∃ moves t, Shared.follow? calls (.start s) moves = some t ∧
      successes calls s key moves = is := by
  obtain ⟨u, hu, hwaiting, -⟩ := @follow?_lookUps _ _ calls is hnodup (.start s)
    (fun i _ => rfl) (fun i hi => hkeys i hi ▸ habsent) hbackends
  obtain ⟨t, ht⟩ := @follow?_settled _ _ calls is hnodup u hwaiting
  have hnone : successes calls s key (is.map .lookUp) = [] := by
    rw [successes, List.filterMap_map, List.filterMap_eq_nil_iff]
    exact fun i _ => rfl
  have hall : successes calls s key (is.map fun i => .settled i (.ok ())) = is := by
    rw [successes, List.filterMap_map]
    refine (List.filterMap_congr fun i hi => ?_).trans List.filterMap_some
    rw [Function.comp_apply, Move.success?, if_pos (hkeys i hi)]
  refine ⟨_, t, Shared.follow?_append.mpr ⟨u, hu, ht⟩, ?_⟩
  rw [successes, List.filterMap_append]
  exact (congrArg₂ (· ++ ·) hnone hall).trans (List.nil_append is)

/-! ### Main results -/

/-- However calls overlap: no call initializes twice, and none a key that was in the set; each call
that initializes a key has looked it up before the key was first initialized; the set holds what
it held and what has been initialized; and calls that do not look a key up while another call
waits for it initialize it once at most. -/
theorem follow_initializes_early (calls : ι → Call) (s : Sessions) (moves : List (Move ι))
    (t : Shared ι) (h : Shared.follow? calls (.start s) moves = some t) :
    (∀ key, (successes calls s key moves).Nodup) ∧
      (∀ key, ∀ i ∈ successes calls s key moves, key = s.key (calls i).conversation ∧
        key ∉ s.keys ∧ LooksEarly calls s key i moves) ∧
      (∀ key, key ∈ t.sessions.keys ↔ key ∈ s.keys ∨ successes calls s key moves ≠ []) ∧
      ∀ key, Apart calls s key moves → (successes calls s key moves).length ≤ 1 := by
  have hknown := overlapped_of_follow? h
  refine ⟨hknown.distinct, ?_, hknown.keys, fun key hapart => once_of_apart hapart h⟩
  intro key i hi
  obtain ⟨habsent, hearly, -⟩ := hknown.succeeded key i hi
  exact ⟨key_of_mem_successes hi, habsent, hearly⟩

end Overlap

/-- A question to a backend on this machine, in a conversation of its own. -/
def localCall : Call := ⟨"q", some "a", "http://[::1]".toList⟩

/-- Both calls look the key up, and both initializations succeed. -/
def overlappingMoves : List (Move (Fin 2)) :=
  [.lookUp 0, .lookUp 1, .settled 0 (.ok ()), .settled 1 (.ok ())]

/-- Two calls of one conversation with valid backends may both have it initialized. -/
theorem not_initialized_once :
    ¬ ∀ (calls : Fin 2 → Call) (s : Sessions) (key : String) (moves : List (Move (Fin 2)))
      (t : Shared (Fin 2)), (∀ i, s.key (calls i).conversation = key) →
      (∀ i, Gate.checkBackend (calls i).backend = .ok ()) →
      Shared.follow? calls (.start s) moves = some t →
      (successes calls s key moves).length ≤ 1 := by
  intro h
  have hsome : (Shared.follow? (fun _ => localCall) (.start (.fresh "7"))
      overlappingMoves).isSome = true := by decide +kernel
  obtain ⟨t, ht⟩ := Option.isSome_iff_exists.mp hsome
  have hkey : ∀ _ : Fin 2, (Sessions.fresh "7").key localCall.conversation = "7-a" := by
    decide +kernel
  have hbackend : ∀ _ : Fin 2, Gate.checkBackend localCall.backend = .ok () := by decide +kernel
  have honce := h (fun _ => localCall) (.fresh "7") "7-a" overlappingMoves t hkey hbackend ht
  have htwo : (successes (fun _ => localCall) (.fresh "7") "7-a" overlappingMoves).length = 2 := by
    decide +kernel
  omega

def Stage.isWaiting : Stage → Bool
  | .waiting _ => true
  | _ => false

/-- Three calls of one conversation one after the other: the first fails, the second initializes
it, the third finds the key. -/
def separateMoves : List (Move (Fin 3)) :=
  [.lookUp 0, .settled 0 (.error (.backendFailed "down")), .lookUp 1, .settled 1 (.ok ()),
    .lookUp 2]

/-- The calls keep apart, and the second of them is the only one to initialize the key. -/
theorem follow_separateMoves :
    ∃ t, Shared.follow? (fun _ => localCall) (.start (.fresh "7")) separateMoves = some t ∧
      Apart (fun _ => localCall) (.fresh "7") "7-a" separateMoves ∧
      (successes (fun _ => localCall) (.fresh "7") "7-a" separateMoves).length ≤ 1 ∧
      successes (fun _ => localCall) (.fresh "7") "7-a" separateMoves = [1] ∧
      LooksEarly (fun _ => localCall) (.fresh "7") "7-a" 1 separateMoves ∧
      "7-a" ∈ t.sessions.keys := by
  have hsome : (Shared.follow? (fun _ => localCall) (.start (.fresh "7"))
      separateMoves).isSome = true := by decide +kernel
  obtain ⟨t, ht⟩ := Option.isSome_iff_exists.mp hsome
  -- The look-ups stand at the even places, and no call waits before one of them.
  have hplaces : ∀ (n : Fin 5) (j : Fin 3), separateMoves[n.val]? = some (.lookUp j) →
      n.val % 2 = 0 := by
    intro n j hn
    match n with
    | 0 | 2 | 4 => rfl
    | 1 | 3 => cases hn
  have hquiet : ∀ (n : Fin 5) (i : Fin 3), n.val % 2 = 0 →
      ((Shared.follow? (fun _ => localCall) (.start (.fresh "7")) (separateMoves.take n)).any
        fun u => (u.stage i).isWaiting) = false := by decide +kernel
  have hapart : Apart (fun _ => localCall) (.fresh "7") "7-a" separateMoves := by
    intro front j back u hmoves _ hu i hi
    have hlength : front.length < 5 := by
      have hall := congrArg List.length hmoves
      rw [List.length_append, List.length_cons, separateMoves] at hall
      simp only [List.length_cons, List.length_nil] at hall
      omega
    have hplace : separateMoves[front.length]? = some (.lookUp j) := by
      rw [hmoves, List.getElem?_append_right (Nat.le_refl _), Nat.sub_self]
      rfl
    have hfront : separateMoves.take front.length = front := by
      rw [hmoves, List.take_left]
    have hnone := hquiet ⟨front.length, hlength⟩ i (hplaces ⟨front.length, hlength⟩ j hplace)
    rw [hfront, hu, Option.any_some, hi] at hnone
    cases hnone
  have hone : successes (fun _ => localCall) (.fresh "7") "7-a" separateMoves = [1] := by
    decide +kernel
  obtain ⟨-, hearly, hkeys, honce⟩ := follow_initializes_early _ _ _ t ht
  have hlooks := hearly "7-a" 1 (hone ▸ List.mem_singleton_self 1)
  exact ⟨t, ht, hapart, honce "7-a" hapart, hone, hlooks.2.2, (hkeys "7-a").mpr (.inr (by
    rw [hone]; exact List.cons_ne_nil _ _))⟩

end ChatRelay.Rag
