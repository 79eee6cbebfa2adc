import ChatRelay.Proofs.Json.Reading
import ChatRelay.Proofs.Json.Numbers
import ChatRelay.Proofs.Number.Numeral

/-!
Looking into a value. A path goes into objects by the keys of their members and into lists by the
positions of their items, and in a value that has been read it leads to one place at most. What it
leads to may say nothing, as null, false, a zero and the empty string do.
-/

namespace ChatRelay.Json

/-! ### Values that say nothing -/

/-- A value in whose stead a default is told: null, false, a zero of either sign and of any
number format, and the empty string. -/
inductive SaysNothing : Json → Prop where
  | null : SaysNothing .null
  | false : SaysNothing (.bool false)
  | zero : SaysNothing (.number (.int 0))
  | real {x : ChatRelay.Number.Double} (h : x.mantissa = 0) : SaysNothing (.number (.real x))
  | empty : SaysNothing (.string "")

theorem isTruthy_eq_false_iff {v : Json} : v.isTruthy = false ↔ SaysNothing v := by
  constructor
  · intro h
    cases v with
    | null => exact .null
    | bool b =>
      cases b with
      | false => exact .false
      | true => cases h
    | number n =>
      cases n with
      | int n =>
        rw [isTruthy, bne_eq_false_iff_eq] at h
        rw [h]
        exact .zero
      | real x =>
        rw [isTruthy, Bool.not_eq_false', ChatRelay.Number.Double.isZero, beq_iff_eq] at h
        exact .real h
    | string s =>
      rw [isTruthy, bne_eq_false_iff_eq] at h
      rw [h]
      exact .empty
    | array xs => cases h
    | object ms => cases h
  · rintro (- | - | - | h | -)
    · rfl
    · rfl
    · rfl
    · rw [isTruthy, ChatRelay.Number.Double.isZero, h]
      rfl
    · rfl

/-! ### Paths -/

/-- A step names a position by the digits of its number. -/
theorem position?_eq_some_iff {step : String} {n : Nat} :
    position? step = some n ↔ step = toString n := by
  have hstring : step = toString n ↔ step.toList = Nat.toDigits 10 n := by
    rw [Nat.toString_eq_repr, ← String.toList_inj, Nat.toList_repr]
  rw [hstring, position?]
  constructor
  · intro h
    split at h
    · cases h
    · rename_i hzero
      obtain ⟨hne, hdigits, rfl⟩ := ChatRelay.Number.readNat?_eq_some_iff.mp h
      -- A zero in front stands alone, or else the step would have been turned down.
      have hwhole : ChatRelay.Number.WholePart step.toList := by
        obtain ⟨c, rest, hstep⟩ := List.exists_cons_of_ne_nil hne
        rw [hstep] at hzero hdigits ⊢
        obtain ⟨hc, hrest⟩ := List.forall_mem_cons.mp hdigits
        by_cases hfirst : c = '0'
        · subst hfirst
          cases rest with
          | nil => exact .zero
          | cons d rest => exact absurd rfl (hzero d rest)
        · exact .digits hc hfirst hrest
      rw [ChatRelay.Number.ofDigits_eq hdigits, ChatRelay.Number.toDigits_ofDigitChars hwhole]
  · intro h
    have hwhole := ChatRelay.Number.wholePart_toDigits n
    rw [h]
    split
    · rename_i d rest hdigits
      rw [hdigits] at hwhole
      cases hwhole with
      | digits _ nonzero _ => exact absurd rfl nonzero
    · exact ChatRelay.Number.readNat?_toDigits n

/-- Where a path leads: into an object by the key of a member, and into a list by the position of
an item. -/
inductive Leads : List String → Json → Json → Prop where
  | here {v : Json} : Leads [] v v
  | member {key : String} {path : List String} {ms : Members} {v w : Json} (hv : (key, v) ∈ ms)
      (h : Leads path v w) : Leads (key :: path) (.object ms) w
  | item {n : Nat} {path : List String} {xs : List Json} {v w : Json} (hv : xs[n]? = some v)
      (h : Leads path v w) : Leads (toString n :: path) (.array xs) w

/-- Into an object of one member a path leads by the key of that member alone. -/
theorem leads_singleton_iff {key : String} {x v : Json} {path : List String}
    (hv : ∀ ms, v ≠ .object ms) :
    Leads path (.object [(key, x)]) v ↔ ∃ later, path = key :: later ∧ Leads later x v := by
  constructor
  · intro h
    cases h with
    | here => exact absurd rfl (hv _)
    | member hm hlater =>
      cases List.mem_singleton.mp hm
      exact ⟨_, rfl, hlater⟩
  · rintro ⟨later, rfl, hlater⟩
    exact .member (List.mem_singleton_self _) hlater

theorem leads_string_iff {s : String} {v : Json} {path : List String} :
    Leads path (.string s) v ↔ path = [] ∧ v = .string s := by
  constructor
  · rintro ⟨⟩
    exact ⟨rfl, rfl⟩
  · rintro ⟨rfl, rfl⟩
    exact .here

theorem child?_array_eq_some_iff {step : String} {xs : List Json} {v : Json} :
    (array xs).child? step = some v ↔ ∃ n : Nat, step = toString n ∧ xs[n]? = some v := by
  rw [child?, Option.bind_eq_some_iff]
  simp only [position?_eq_some_iff]

theorem child?_object_eq_some_iff {step : String} {ms : Members} {v : Json} (ordered : ms.Ordered) :
    (object ms).child? step = some v ↔ (step, v) ∈ ms :=
  ⟨Members.mem_of_get?, ordered.get?_of_mem⟩

/-- What is looked up is what the path leads to. -/
theorem at?_eq_some_iff {depth : Nat} {path : List String} {v w : Json} (nested : Nested depth v) :
    v.at? path = some w ↔ Leads path v w := by
  -- The induction is on the path; each step goes to a part, which is less deeply nested.
  induction path generalizing depth v with
  | nil =>
    rw [at?, Option.some.injEq]
    constructor
    · intro h
      rw [h]
      exact .here
    · rintro ⟨⟩
      rfl
  | cons step path ih =>
    rw [at?, Option.bind_eq_some_iff]
    constructor
    · rintro ⟨x, hx, hpath⟩
      cases nested with
      | array hxs =>
        obtain ⟨n, rfl, hn⟩ := child?_array_eq_some_iff.mp hx
        exact .item hn ((ih (hxs x (List.mem_of_getElem? hn))).mp hpath)
      | object hms ordered =>
        have hm := (child?_object_eq_some_iff ordered).mp hx
        exact .member hm ((ih (hms _ hm)).mp hpath)
      | null => cases hx
      | bool => cases hx
      | number => cases hx
      | string => cases hx
    · intro h
      cases h with
      | member hm hpath =>
        cases nested with
        | object hms ordered =>
          exact ⟨_, (child?_object_eq_some_iff ordered).mpr hm, (ih (hms _ hm)).mpr hpath⟩
      | item hn hpath =>
        cases nested with
        | array hxs =>
          exact ⟨_, child?_array_eq_some_iff.mpr ⟨_, rfl, hn⟩,
            (ih (hxs _ (List.mem_of_getElem? hn))).mpr hpath⟩

/-- A key that names no position leads into objects only. -/
theorem get?_eq_at? {key : String} (h : position? key = none) (v : Json) :
    v.get? key = v.at? [key] := by
  have hone : v.at? [key] = v.child? key := Option.bind_fun_some _
  rw [hone]
  cases v with
  | array xs =>
    rw [child?, h]
    rfl
  | object ms => rfl
  | null => rfl
  | bool b => rfl
  | number n => rfl
  | string s => rfl

theorem Leads.nested {depth : Nat} {path : List String} {v w : Json} (h : Leads path v w)
    (nested : Nested depth v) : Nested depth w := by
  induction h generalizing depth with
  | here => exact nested
  | member hm _ ih =>
    cases nested with
    | object hms _ => exact (ih (hms _ hm)).mono (Nat.le_succ _)
  | item hn _ ih =>
    cases nested with
    | array hxs => exact (ih (hxs _ (List.mem_of_getElem? hn))).mono (Nat.le_succ _)

theorem Leads.occurs {n : Number} {path : List String} {v w : Json} (h : Leads path v w)
    (hn : Occurs n w) : Occurs n v := by
  induction h with
  | here => exact hn
  | member hm _ ih => exact .member hm (ih hn)
  | item hx _ ih => exact .item (List.mem_of_getElem? hx) (ih hn)

/-- A part of a text that has been read is written so that it is read again, if its doubles are. -/
theorem Leads.parse?_compact {text : String} {path : List String} {v w : Json}
    (parsed : parse? text = some v) (h : Leads path v w)
    (doubles : ∀ x, Occurs (.real x) w → Read.NumberReadsBack (.real x)) :
    parse? w.compact = some w := by
  -- What makes a value readable again holds of the whole, and so of each of its parts.
  obtain ⟨rest, hread, -⟩ := exists_of_parse? parsed
  have hback : Read.ReadsBack Read.depthLimit w := by
    apply Read.readsBack_of_nested (h.nested (Read.nested_of_value hread)) ?_ doubles
    intro n hn
    exact Read.fits_of_value hread n (h.occurs hn)
  rw [parse?, Read.parse_compact hback]
  rfl

end ChatRelay.Json
