import ChatRelay.Rag.Sessions
import Mathlib.Data.List.Basic

/-!
The set of conversations: which ids name the same conversation, and what a mark changes.
-/

namespace ChatRelay.Rag

/-- No id, the empty one and the name of the conversation without an id all mean that one. -/
def IsDefault (conversation : Option String) : Prop :=
  conversation = none ∨ conversation = some "" ∨
    conversation = some Sessions.defaultConversation

/-- Ids of the same conversation. -/
def SameConversation (c c' : Option String) : Prop :=
  c = c' ∨ IsDefault c ∧ IsDefault c'

theorem SameConversation.refl (c : Option String) : SameConversation c c :=
  .inl rfl

namespace Sessions

/-- The name that a conversation goes by in its key. -/
def nameOf (conversation : Option String) : String :=
  (conversation.filter (· != "")).getD defaultConversation

theorem key_eq (s : Sessions) (c : Option String) : s.key c = s.uuid ++ "-" ++ nameOf c := rfl

theorem nameOf_of_isDefault {c : Option String} (h : IsDefault c) :
    nameOf c = defaultConversation := by
  rcases h with rfl | rfl | rfl <;> decide

theorem nameOf_some {name : String} (h : name ≠ "") : nameOf (some name) = name := by
  simp [nameOf, Option.filter, h]

theorem eq_some_nameOf {c : Option String} (h : ¬ IsDefault c) : c = some (nameOf c) := by
  cases c with
  | none => exact absurd (.inl rfl) h
  | some name =>
    have hne : name ≠ "" := fun hname => h (.inr (.inl (congrArg some hname)))
    rw [nameOf_some hne]

theorem isDefault_iff {c : Option String} : IsDefault c ↔ nameOf c = defaultConversation := by
  refine ⟨nameOf_of_isDefault, fun h => ?_⟩
  by_contra hno
  exact hno (.inr (.inr (h ▸ eq_some_nameOf hno)))

/-- Two ids have one name only if they name the same conversation. -/
theorem nameOf_eq_iff {c c' : Option String} : nameOf c = nameOf c' ↔ SameConversation c c' := by
  constructor
  · intro h
    by_cases hc : IsDefault c
    · exact .inr ⟨hc, isDefault_iff.mpr (h ▸ nameOf_of_isDefault hc)⟩
    · have hc' : ¬ IsDefault c' := fun hc' =>
        hc (isDefault_iff.mpr (h.trans (nameOf_of_isDefault hc')))
      exact .inl (by rw [eq_some_nameOf hc, eq_some_nameOf hc', h])
  · rintro (rfl | ⟨hc, hc'⟩)
    · rfl
    · rw [nameOf_of_isDefault hc, nameOf_of_isDefault hc']

/-- Sets of one session agree on the keys, and a key belongs to one conversation. -/
theorem key_eq_key_iff {s s' : Sessions} (h : s.uuid = s'.uuid) {c c' : Option String} :
    s.key c = s'.key c' ↔ SameConversation c c' := by
  rw [key_eq, key_eq, h, String.append_right_inj, nameOf_eq_iff]

@[simp] theorem isInitialized_eq_true {s : Sessions} {key : String} :
    s.isInitialized key = true ↔ key ∈ s.keys :=
  List.contains_iff_mem

theorem mark_of_not_mem {s : Sessions} {key : String} (h : key ∉ s.keys) :
    s.mark key = { s with keys := key :: s.keys } :=
  if_neg (mt isInitialized_eq_true.mp h)

theorem mem_keys_mark {s : Sessions} {key k : String} :
    k ∈ (s.mark key).keys ↔ k = key ∨ k ∈ s.keys := by
  by_cases h : key ∈ s.keys
  · rw [mark, if_pos (isInitialized_eq_true.mpr h)]
    exact ⟨.inr, fun hk => hk.elim (fun heq => heq ▸ h) id⟩
  · rw [mark_of_not_mem h, List.mem_cons]

theorem uuid_mark (s : Sessions) (key : String) : (s.mark key).uuid = s.uuid := by
  unfold mark
  split <;> rfl

end Sessions

end ChatRelay.Rag
