import ChatRelay.Chat.Answer
import ChatRelay.Proofs.Json.Lookup

/-!
The answer in a body. It is what the first of the paths leads to that says something, and the body
itself where no path does, so that an answer is never lost and is empty for an empty body only.
-/

namespace ChatRelay.Chat

open Json (Leads Nested Occurs SaysNothing)
open Json.Read (NumberReadsBack)

/-- That a path leads nowhere, or to what says nothing. -/
def Silent (v : Json) (path : List String) : Prop := ∀ x, Leads path v x → SaysNothing x

theorem exists_of_not_silent {v : Json} {path : List String} (h : ¬ Silent v path) :
    ∃ x, Leads path v x ∧ ¬ SaysNothing x := by
  simp only [Silent, not_forall, exists_prop] at h
  exact h

/-- What the first path leads to that does not stay silent. -/
inductive FirstSaid (v : Json) : List (List String) → Json → Prop where
  | here {path : List String} {paths : List (List String)} {x : Json} (h : Leads path v x)
      (said : ¬ SaysNothing x) : FirstSaid v (path :: paths) x
  | later {path : List String} {paths : List (List String)} {x : Json} (silent : Silent v path)
      (h : FirstSaid v paths x) : FirstSaid v (path :: paths) x

/-- The answer in a body: the body itself if it is no JSON or all paths stay silent, and else what
is said first, a string as it is, and another value as JSON that is read as that value if its
doubles are. -/
inductive Answers (paths : List (List String)) (body : String) : String → Prop where
  | unreadable (h : Json.parse? body = none) : Answers paths body body
  | silent {v : Json} (h : Json.parse? body = some v) (silent : ∀ path ∈ paths, Silent v path) :
      Answers paths body body
  | text {v : Json} {s : String} (h : Json.parse? body = some v)
      (first : FirstSaid v paths (.string s)) : Answers paths body s
  | value {v x : Json} (h : Json.parse? body = some v) (first : FirstSaid v paths x)
      (no_text : ∀ s, x ≠ .string s)
      (reads : (∀ d, Occurs (.real d) x → NumberReadsBack (.real d)) →
        Json.parse? x.compact = some x) : Answers paths body x.compact

theorem FirstSaid.said {v x : Json} {paths : List (List String)} (h : FirstSaid v paths x) :
    ¬ SaysNothing x := by
  induction h with
  | here _ said => exact said
  | later _ _ ih => exact ih

theorem FirstSaid.exists_leads {v x : Json} {paths : List (List String)}
    (h : FirstSaid v paths x) : ∃ path ∈ paths, Leads path v x := by
  induction h with
  | here h _ => exact ⟨_, List.mem_cons_self, h⟩
  | later _ _ ih =>
    obtain ⟨path, hpath, h⟩ := ih
    exact ⟨path, List.mem_cons_of_mem _ hpath, h⟩

/-! ### The search -/

/-- A path of one step names no position with it. -/
def Keyed (path : List String) : Prop :=
  path.length = 1 → ∀ key ∈ path, Json.position? key = none

instance : DecidablePred Keyed := fun _ => inferInstanceAs (Decidable (_ → _))

theorem candidate?_eq_at? {path : List String} (keyed : Keyed path) (v : Json) :
    candidate? v path = v.at? path := by
  unfold candidate?
  split
  · exact Json.get?_eq_at? (keyed rfl _ (List.mem_singleton_self _)) v
  · rfl

section Search

variable {depth : Nat} {v : Json} (nested : Nested depth v) {path : List String}
  {paths : List (List String)}

include nested

theorem candidate?_eq_some_iff (keyed : Keyed path) {x : Json} :
    candidate? v path = some x ↔ Leads path v x := by
  rw [candidate?_eq_at? keyed]
  exact Json.at?_eq_some_iff nested

theorem firstTruthy?_of_silent (keyed : Keyed path) (silent : Silent v path) :
    firstTruthy? (path :: paths) v = firstTruthy? paths v := by
  rw [firstTruthy?, List.filterMap_cons]
  split
  · rfl
  · rename_i x hx
    have hnothing := silent x ((candidate?_eq_some_iff nested keyed).mp hx)
    rw [List.find?_cons_of_neg (Bool.eq_false_iff.mp (Json.isTruthy_eq_false_iff.mpr hnothing))]
    rfl

theorem firstTruthy?_of_said (keyed : Keyed path) {x : Json} (h : Leads path v x)
    (said : ¬ SaysNothing x) : firstTruthy? (path :: paths) v = some x := by
  have htruthy : x.isTruthy = true := by
    rw [← Bool.not_eq_false, Json.isTruthy_eq_false_iff]
    exact said
  rw [firstTruthy?, List.filterMap_cons, (candidate?_eq_some_iff nested keyed).mpr h]
  exact List.find?_cons_of_pos htruthy

theorem firstTruthy?_eq_none_iff (keyed : ∀ path ∈ paths, Keyed path) :
    firstTruthy? paths v = none ↔ ∀ path ∈ paths, Silent v path := by
  induction paths with
  | nil => exact iff_of_true rfl (List.forall_mem_nil _)
  | cons path paths ih =>
    obtain ⟨hpath, hpaths⟩ := List.forall_mem_cons.mp keyed
    rw [List.forall_mem_cons]
    by_cases hsilent : Silent v path
    · rw [firstTruthy?_of_silent nested hpath hsilent, ih hpaths, and_iff_right hsilent]
    · obtain ⟨x, hx, hsaid⟩ := exists_of_not_silent hsilent
      rw [firstTruthy?_of_said nested hpath hx hsaid]
      exact iff_of_false (Option.some_ne_none x) fun h => hsilent h.1

theorem firstTruthy?_eq_some_iff (keyed : ∀ path ∈ paths, Keyed path) {x : Json} :
    firstTruthy? paths v = some x ↔ FirstSaid v paths x := by
  induction paths with
  | nil => exact iff_of_false (fun h => nomatch h) fun h => nomatch h
  | cons path paths ih =>
    obtain ⟨hpath, hpaths⟩ := List.forall_mem_cons.mp keyed
    by_cases hsilent : Silent v path
    · rw [firstTruthy?_of_silent nested hpath hsilent, ih hpaths]
      constructor
      · exact .later hsilent
      · intro h
        cases h with
        | here h said => exact absurd (hsilent x h) said
        | later _ h => exact h
    · -- A path that does not stay silent leads to one value only, which the search stops at.
      obtain ⟨y, hy, hsaid⟩ := exists_of_not_silent hsilent
      rw [firstTruthy?_of_said nested hpath hy hsaid, Option.some.injEq]
      constructor
      · rintro rfl
        exact .here hy hsaid
      · intro h
        cases h with
        | here h _ =>
          have hsame := (candidate?_eq_some_iff nested hpath).mpr hy
          exact Option.some.inj (hsame.symm.trans ((candidate?_eq_some_iff nested hpath).mpr h))
        | later silent _ => exact absurd silent hsilent

end Search

/-! ### The answer -/

theorem render_of_no_text {x : Json} (h : ∀ s, x ≠ .string s) : render x = x.compact := by
  cases x with
  | string s => exact absurd rfl (h s)
  | null => rfl
  | bool b => rfl
  | number n => rfl
  | array xs => rfl
  | object ms => rfl

theorem answers_extract {paths : List (List String)} (keyed : ∀ path ∈ paths, Keyed path)
    (body : String) : Answers paths body (extract paths body) := by
  rw [extract]
  cases hparse : Json.parse? body with
  | none => exact .unreadable hparse
  | some v =>
    -- What has been read is nested and has its members in order, so that paths are unambiguous.
    obtain ⟨rest, hread, -⟩ := Json.exists_of_parse? hparse
    have hnested := Json.Read.nested_of_value hread
    rw [Option.bind_some]
    cases hfirst : firstTruthy? paths v with
    | none => exact .silent hparse ((firstTruthy?_eq_none_iff hnested keyed).mp hfirst)
    | some x =>
      have hsaid := (firstTruthy?_eq_some_iff hnested keyed).mp hfirst
      dsimp only
      by_cases htext : ∃ s, x = .string s
      · obtain ⟨s, rfl⟩ := htext
        exact .text hparse hsaid
      · rw [not_exists] at htext
        obtain ⟨path, -, hleads⟩ := hsaid.exists_leads
        rw [render_of_no_text htext]
        exact .value hparse hsaid htext (hleads.parse?_compact hparse)

theorem compact_ne_empty (v : Json) : v.compact ≠ "" := by
  obtain ⟨c, rest, hwrite, -⟩ := Json.exists_write v
  rw [Json.compact, hwrite]
  exact fun h => List.cons_ne_nil c rest (String.ofList_eq_empty_iff.mp h)

/-- What is said first is never an empty text, so that only an empty body has an empty answer. -/
theorem Answers.eq_empty {paths : List (List String)} {body answer : String}
    (h : Answers paths body answer) (empty : answer = "") : body = "" := by
  cases h with
  | unreadable => exact empty
  | silent => exact empty
  | text _ first =>
    rw [empty] at first
    exact absurd .empty first.said
  | value => exact absurd empty (compact_ne_empty _)

theorem extract_eq_empty_iff {paths : List (List String)} (keyed : ∀ path ∈ paths, Keyed path)
    (body : String) : extract paths body = "" ↔ body = "" := by
  constructor
  · exact (answers_extract keyed body).eq_empty
  · intro h
    have hnone : Json.parse? "" = none := by decide +kernel
    rw [h, extract, hnone]
    rfl

/-- The answers of chat and of questions with a context, each with the paths that count for it. -/
theorem answers_first_said (body : String) :
    (Answers [["choices", "0", "message", "content"], ["message"], ["answer"], ["value"]] body
        (chatAnswer body) ∧ (chatAnswer body = "" ↔ body = "")) ∧
      (Answers [["state", "chat", "answer"], ["answer"]] body (ragAnswer body) ∧
        (ragAnswer body = "" ↔ body = "")) := by
  have hchat : ∀ path ∈ chatPaths, Keyed path := by decide +kernel
  have hrag : ∀ path ∈ ragPaths, Keyed path := by decide +kernel
  exact ⟨⟨answers_extract hchat body, extract_eq_empty_iff hchat body⟩,
    ⟨answers_extract hrag body, extract_eq_empty_iff hrag body⟩⟩

/-- A body with an object where a list is expected, two zeros, and members out of their order. -/
def crowdedBody : String :=
  "\x7b\"choices\":\x7b\"0\":\x7b\"message\":\x7b\"content\":-0.0\x7d\x7d\x7d,\"message\":0," ++
    "\"answer\":\x7b\"b\":[],\"a\":\"\\u0041\"\x7d,\"value\":\"x\"\x7d"

/-- Both zeros are passed over, and the member behind them is written in the order of its keys. -/
theorem answers_crowdedBody :
    Answers [["choices", "0", "message", "content"], ["message"], ["answer"], ["value"]] crowdedBody
        "\x7b\"a\":\"A\",\"b\":[]\x7d" ∧
      Answers [["state", "chat", "answer"], ["answer"]] crowdedBody
        "\x7b\"a\":\"A\",\"b\":[]\x7d" := by
  have hchat : chatAnswer crowdedBody = "\x7b\"a\":\"A\",\"b\":[]\x7d" := by decide +kernel
  have hrag : ragAnswer crowdedBody = "\x7b\"a\":\"A\",\"b\":[]\x7d" := by decide +kernel
  have hanswers := answers_first_said crowdedBody
  rw [hchat, hrag] at hanswers
  exact ⟨hanswers.1.1, hanswers.2.1⟩

end ChatRelay.Chat
