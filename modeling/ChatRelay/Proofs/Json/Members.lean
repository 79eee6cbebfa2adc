import ChatRelay.Json.Basic
import Mathlib.Data.List.Nodup
import Mathlib.Data.String.Basic

/-!
The members of an object as a table: what a key has is what was put in last for it, and the order
of the keys leaves a table only one form.
-/

namespace ChatRelay.Json.Members

/-- Each key once, and in the order of the keys. -/
def Ordered (ms : Members) : Prop := ms.Pairwise fun m m' => m.1 < m'.1

theorem ordered_nil : Ordered [] := List.Pairwise.nil

@[simp] theorem get?_nil (key : String) : get? key [] = none := rfl

theorem get?_cons (key k : String) (v : Json) (ms : Members) :
    get? key ((k, v) :: ms) = if key = k then some v else get? key ms := by
  rw [get?, List.lookup_cons]
  by_cases h : key = k
  · rw [if_pos h, beq_iff_eq.mpr h]
  · rw [if_neg h, beq_false_of_ne h]
    rfl

/-- Only the key that is put in has another value afterwards. -/
theorem get?_insert (key k : String) (v : Json) (ms : Members) :
    get? key (ms.insert k v) = if key = k then some v else get? key ms := by
  induction ms with
  | nil => exact get?_cons key k v []
  | cons m ms ih =>
    obtain ⟨k', v'⟩ := m
    rw [insert]
    split
    · exact get?_cons key k v ((k', v') :: ms)
    split
    · -- The member that is replaced has the key that is put in.
      rename_i hkey
      rw [get?_cons, get?_cons, ← hkey]
      split <;> rfl
    · rename_i hkey
      rw [get?_cons, get?_cons, ih]
      by_cases h : key = k'
      · have hne : key ≠ k := fun h' => hkey (h'.symm.trans h)
        rw [if_pos h, if_pos h, if_neg hne]
      · rw [if_neg h, if_neg h]

theorem mem_of_get? {key : String} {v : Json} {ms : Members} (h : get? key ms = some v) :
    (key, v) ∈ ms := by
  induction ms with
  | nil => cases h
  | cons m ms ih =>
    obtain ⟨k, w⟩ := m
    rw [get?_cons] at h
    split at h
    · rename_i hkey
      cases h
      rw [hkey]
      exact List.mem_cons_self
    · exact List.mem_cons_of_mem _ (ih h)

theorem get?_eq_none {key : String} {ms : Members} (h : ∀ m ∈ ms, m.1 ≠ key) :
    get? key ms = none := by
  cases hfound : get? key ms with
  | none => rfl
  | some v => exact absurd rfl (h _ (mem_of_get? hfound))

/-! ### Order -/

theorem Ordered.head_lt {m : String × Json} {ms : Members} (h : Ordered (m :: ms)) :
    ∀ m' ∈ ms, m.1 < m'.1 :=
  (List.pairwise_cons.mp h).1

theorem Ordered.tail {m : String × Json} {ms : Members} (h : Ordered (m :: ms)) : Ordered ms :=
  (List.pairwise_cons.mp h).2

theorem Ordered.get?_head {m : String × Json} {ms : Members} (h : Ordered (m :: ms)) :
    get? m.1 ms = none := by
  apply get?_eq_none
  intro m' hm'
  exact (h.head_lt m' hm').ne'

theorem Ordered.keep {ms : Members} (h : Ordered ms) (p : String → Bool) : Ordered (ms.keep p) :=
  List.Pairwise.filter _ h

theorem mem_insert {k : String} {v : Json} {ms : Members} {m : String × Json}
    (h : m ∈ ms.insert k v) : m = (k, v) ∨ m ∈ ms := by
  induction ms with
  | nil => exact .inl (List.mem_singleton.mp h)
  | cons m' ms ih =>
    obtain ⟨k', v'⟩ := m'
    rw [insert] at h
    split at h
    · exact List.mem_cons.mp h
    split at h
    · exact (List.mem_cons.mp h).imp_right (List.mem_cons_of_mem _)
    · rcases List.mem_cons.mp h with rfl | h
      · exact .inr List.mem_cons_self
      · exact (ih h).imp_right (List.mem_cons_of_mem _)

theorem Ordered.insert {ms : Members} (h : Ordered ms) (k : String) (v : Json) :
    Ordered (ms.insert k v) := by
  induction ms with
  | nil => exact List.pairwise_singleton _ _
  | cons m ms ih =>
    obtain ⟨k', v'⟩ := m
    have hhead := h.head_lt
    rw [Members.insert]
    split
    · rename_i hlt
      refine List.pairwise_cons.mpr ⟨?_, h⟩
      intro m hm
      rcases List.mem_cons.mp hm with rfl | hm
      · exact hlt
      · exact hlt.trans (hhead m hm)
    split
    · rename_i heq
      refine List.pairwise_cons.mpr ⟨?_, h.tail⟩
      intro m hm
      rw [heq]
      exact hhead m hm
    · -- The key neither comes before the first one nor is it, so that it comes behind.
      rename_i hlt heq
      have hgt : k' < k := lt_of_le_of_ne (not_lt.mp hlt) (Ne.symm heq)
      refine List.pairwise_cons.mpr ⟨?_, ih h.tail⟩
      intro m hm
      rcases mem_insert hm with rfl | hm
      · exact hgt
      · exact hhead m hm

/-- Members in order are the same if every key has the same value. -/
theorem Ordered.ext {ms ms' : Members} (h : Ordered ms) (h' : Ordered ms')
    (hget : ∀ key, get? key ms = get? key ms') : ms = ms' := by
  induction ms generalizing ms' with
  | nil =>
    cases ms' with
    | nil => rfl
    | cons m' ms' =>
      have hfirst := hget m'.1
      rw [get?_nil, get?_cons, if_pos rfl] at hfirst
      cases hfirst
  | cons m ms ih =>
    cases ms' with
    | nil =>
      have hfirst := hget m.1
      rw [get?_nil, get?_cons, if_pos rfl] at hfirst
      cases hfirst
    | cons m' ms' =>
      obtain ⟨k, v⟩ := m
      obtain ⟨k', v'⟩ := m'
      have hfirst := hget k
      have hfirst' := hget k'
      rw [get?_cons, if_pos rfl] at hfirst
      rw [get?_cons k' k', if_pos rfl] at hfirst'
      -- Of two different first keys the lesser one could not stand in the other list.
      have hkey : k = k' := by
        by_contra hne
        have hlt : k' < k := h'.head_lt _ <| by
          rw [get?_cons, if_neg hne] at hfirst
          exact mem_of_get? hfirst.symm
        have hgt : k < k' := h.head_lt _ <| by
          rw [get?_cons, if_neg (Ne.symm hne)] at hfirst'
          exact mem_of_get? hfirst'
        exact lt_asymm hlt hgt
      subst hkey
      rw [get?_cons, if_pos rfl] at hfirst
      have hrest : ∀ key, get? key ms = get? key ms' := by
        intro key
        by_cases hk : key = k
        · rw [hk, h.get?_head, h'.get?_head]
        · have hall := hget key
          rwa [get?_cons, get?_cons, if_neg hk, if_neg hk] at hall
      rw [ih h.tail h'.tail hrest, Option.some.inj hfirst]

/-! ### Several members put in -/

/-- Puts members in one after the other. -/
def insertAll (base : Members) (ms : List (String × Json)) : Members :=
  ms.foldl (fun members (key, value) => members.insert key value) base

theorem insertAll_cons (base : Members) (m : String × Json) (ms : List (String × Json)) :
    insertAll base (m :: ms) = insertAll (base.insert m.1 m.2) ms := rfl

theorem ofList_eq_insertAll (pairs : List (String × Json)) : ofList pairs = insertAll [] pairs :=
  rfl

theorem mem_insertAll {base : Members} {ms : List (String × Json)} {m : String × Json}
    (h : m ∈ insertAll base ms) : m ∈ ms ∨ m ∈ base := by
  induction ms generalizing base with
  | nil => exact .inr h
  | cons m' ms ih =>
    rcases ih h with hm | hm
    · exact .inl (List.mem_cons_of_mem _ hm)
    · refine (mem_insert hm).imp_left ?_
      rintro rfl
      exact List.mem_cons_self

theorem mem_of_mem_ofList {pairs : List (String × Json)} {m : String × Json}
    (h : m ∈ ofList pairs) : m ∈ pairs :=
  (mem_insertAll h).resolve_right List.not_mem_nil

theorem Ordered.insertAll {base : Members} (h : Ordered base) (ms : List (String × Json)) :
    Ordered (insertAll base ms) := by
  induction ms generalizing base with
  | nil => exact h
  | cons m ms ih => exact ih (h.insert m.1 m.2)

theorem ordered_ofList (pairs : List (String × Json)) : Ordered (ofList pairs) :=
  ordered_nil.insertAll pairs

/-- A key has the value that is put in for it, or else the one that it had. -/
theorem get?_insertAll {ms : Members} (h : Ordered ms) (base : Members) (key : String) :
    get? key (insertAll base ms) = (get? key ms).or (get? key base) := by
  -- The induction is on what is put in, for every table that is there before.
  induction ms generalizing base with
  | nil => rfl
  | cons m ms ih =>
    rw [insertAll_cons, ih h.tail, get?_insert, get?_cons]
    by_cases hk : key = m.1
    · rw [if_pos hk, if_pos hk, hk, h.get?_head]
      rfl
    · rw [if_neg hk, if_neg hk]

/-- Members in order are what writing them one after the other gives. -/
theorem Ordered.ofList_eq {ms : Members} (h : Ordered ms) : ofList ms = ms := by
  apply (ordered_ofList ms).ext h
  intro key
  rw [ofList_eq_insertAll, get?_insertAll h, get?_nil, Option.or_none]

/-! ### Pairs in any order -/

theorem keep_cons (p : String → Bool) (k : String) (v : Json) (ms : Members) :
    keep p ((k, v) :: ms) = if p k then (k, v) :: keep p ms else keep p ms :=
  List.filter_cons

/-- Only the keys that are kept have a value. -/
theorem get?_keep (p : String → Bool) (key : String) (ms : Members) :
    get? key (ms.keep p) = if p key then get? key ms else none := by
  induction ms with
  | nil => exact (ite_self none).symm
  | cons m ms ih =>
    obtain ⟨k, v⟩ := m
    rw [keep_cons, get?_cons]
    by_cases hkey : key = k
    · rw [if_pos hkey, ← hkey]
      split
      · rw [get?_cons, if_pos rfl]
      · rename_i hp
        rw [ih, if_neg hp]
    · rw [if_neg hkey, ← ih]
      split
      · rw [get?_cons, if_neg hkey]
      · rfl

/-- A key has the last of the values that are put in for it, or else the one that it had. -/
theorem get?_insertAll_reverse (base : Members) (pairs : List (String × Json)) (key : String) :
    get? key (insertAll base pairs) = (pairs.reverse.lookup key).or (get? key base) := by
  induction pairs generalizing base with
  | nil => rfl
  | cons m pairs ih =>
    rw [insertAll_cons, ih, get?_insert, List.reverse_cons, List.lookup_append, Option.or_assoc]
    congr 1
    rw [← get?, get?_cons, get?_nil]
    split <;> rfl

theorem get?_ofList (pairs : List (String × Json)) (key : String) :
    get? key (ofList pairs) = pairs.reverse.lookup key := by
  rw [ofList_eq_insertAll, get?_insertAll_reverse, get?_nil, Option.or_none]

theorem isSome_get?_ofList_iff {pairs : List (String × Json)} {key : String} :
    (get? key (ofList pairs)).isSome = true ↔ ∃ v, (key, v) ∈ pairs := by
  constructor
  · intro h
    obtain ⟨v, hv⟩ := Option.isSome_iff_exists.mp h
    exact ⟨v, mem_of_mem_ofList (mem_of_get? hv)⟩
  · rintro ⟨v, hv⟩
    rw [get?_ofList, Option.isSome_iff_ne_none]
    intro hnone
    have hne := List.lookup_eq_none_iff.mp hnone _ (List.mem_reverse.mpr hv)
    exact bne_iff_ne.mp hne rfl

/-- The last pair of a key counts. -/
theorem get?_ofList_append_cons {earlier later : List (String × Json)} {key : String} {v : Json}
    (h : ∀ m ∈ later, m.1 ≠ key) :
    get? key (ofList (earlier ++ (key, v) :: later)) = some v := by
  have hlater : later.reverse.lookup key = none := by
    apply List.lookup_eq_none_iff.mpr
    intro m hm
    exact bne_iff_ne.mpr (h m (List.mem_reverse.mp hm)).symm
  rw [get?_ofList, List.reverse_append, List.reverse_cons, List.append_assoc,
    List.lookup_append, hlater, Option.none_or, List.singleton_append, List.lookup_cons,
    beq_self_eq_true]

/-- What a key has depends on its own pairs only. -/
theorem get?_ofList_filter (pairs : List (String × Json)) (key : String) :
    get? key (ofList (pairs.filter (·.1 = key))) = get? key (ofList pairs) := by
  have hkept := get?_keep (· = key) key pairs.reverse
  rw [if_pos (decide_eq_true rfl), keep, List.filter_reverse] at hkept
  rw [get?_ofList, get?_ofList]
  exact hkept

/-- Values may be changed before the pairs are put in or afterwards. -/
theorem get?_ofList_map (pairs : List (String × Json)) (f : Json → Json) (key : String) :
    get? key (ofList (pairs.map fun m => (m.1, f m.2))) = (get? key (ofList pairs)).map f := by
  have hlookup (ms : List (String × Json)) :
      get? key (ms.map fun m => (m.1, f m.2)) = (get? key ms).map f := by
    induction ms with
    | nil => rfl
    | cons m ms ih =>
      rw [List.map_cons, get?_cons, get?_cons, ih]
      split <;> rfl
  rw [get?_ofList, get?_ofList, ← List.map_reverse]
  exact hlookup pairs.reverse

/-! ### Pairs with different keys -/

theorem get?_ofList_of_mem {pairs : List (String × Json)} (h : (pairs.map (·.1)).Nodup)
    {key : String} {v : Json} (hm : (key, v) ∈ pairs) : get? key (ofList pairs) = some v := by
  obtain ⟨w, hw⟩ := Option.isSome_iff_exists.mp (isSome_get?_ofList_iff.mpr ⟨v, hm⟩)
  have hpair := List.inj_on_of_nodup_map h (mem_of_mem_ofList (mem_of_get? hw)) hm rfl
  rw [hw, (Prod.mk.inj hpair).2]

theorem Ordered.nodup {ms : Members} (h : Ordered ms) : (ms.map (·.1)).Nodup :=
  List.pairwise_map.mpr (h.imp fun hlt => hlt.ne)

theorem Ordered.get?_of_mem {ms : Members} (h : Ordered ms) {key : String} {v : Json}
    (hm : (key, v) ∈ ms) : get? key ms = some v := by
  rw [← h.ofList_eq]
  exact get?_ofList_of_mem h.nodup hm

theorem get?_ofList_of_not_mem {pairs : List (String × Json)} {key : String}
    (h : ∀ v, (key, v) ∉ pairs) : get? key (ofList pairs) = none := by
  rw [Option.eq_none_iff_forall_ne_some]
  intro v hv
  exact h v (mem_of_mem_ofList (mem_of_get? hv))

/-- Pairs with different keys may be put in in any order. -/
theorem ofList_perm {pairs pairs' : List (String × Json)} (h : (pairs.map (·.1)).Nodup)
    (hperm : pairs'.Perm pairs) : ofList pairs' = ofList pairs := by
  have h' : (pairs'.map (·.1)).Nodup := (hperm.map _).nodup_iff.mpr h
  apply (ordered_ofList _).ext (ordered_ofList _)
  intro key
  by_cases hkey : ∃ v, (key, v) ∈ pairs
  · obtain ⟨v, hv⟩ := hkey
    rw [get?_ofList_of_mem h hv, get?_ofList_of_mem h' (hperm.mem_iff.mpr hv)]
  · rw [not_exists] at hkey
    rw [get?_ofList_of_not_mem hkey,
      get?_ofList_of_not_mem fun v hv => hkey v (hperm.mem_iff.mp hv)]

end ChatRelay.Json.Members
