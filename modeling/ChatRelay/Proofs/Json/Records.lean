import ChatRelay.Json.Shape
import ChatRelay.Proofs.Json.Written

/-!
Records that are read from objects. In whatever order the members of an object stand, each field of
a record is filled by the member of its name, and members of other names are passed over.
-/

namespace ChatRelay.Json.Read

/-! ### Scalars and lists -/

section Scalar

variable {depth : Nat} {bytes rest : List UInt8}

theorem textAs_quote (expected : String) (start : List UInt8) :
    textAs expected (byte '"' :: start) = string start := by
  rw [textAs, skipBlanks_cons (by decide)]
  simp only [if_true]

theorem text_of_asWritten {s : String} (h : asWritten depth bytes = .ok (.string s, rest)) :
    text bytes = .ok (s, rest) := by
  cases reading_of_asWritten h nofun nofun with
  | string hb h =>
    rw [text, textAs, hb]
    simp only [if_true]
    exact h

theorem boolean_of_asWritten {b : Bool} (h : asWritten depth bytes = .ok (.bool b, rest)) :
    boolean bytes = .ok (b, rest) := by
  cases reading_of_asWritten h nofun nofun with
  | yes hb h =>
    rw [boolean, hb]
    simp only [if_true, h]
    rfl
  | no hb h =>
    rw [boolean, hb]
    simp only [h]
    rfl

theorem optional_of_null (h : asWritten depth bytes = .ok (.null, rest)) (reader : Reader α) :
    optional reader bytes = .ok (none, rest) := by
  cases reading_of_asWritten h nofun nofun with
  | null hb h =>
    rw [optional, hb]
    simp only [if_true, h]
    rfl

theorem optional_text_of_string {s : String} (h : asWritten depth bytes = .ok (.string s, rest)) :
    optional text bytes = .ok (some s, rest) := by
  cases reading_of_asWritten h nofun nofun with
  | string hb h =>
    rw [optional, hb]
    simp only [if_neg (show byte '"' ≠ byte 'n' by decide)]
    rw [text, textAs_quote, h]
    rfl

theorem choice_of_asWritten {s : String} (h : asWritten depth bytes = .ok (.string s, rest))
    {names : List String} (hs : s ∈ names) : choice names bytes = .ok (s, rest) := by
  cases reading_of_asWritten h nofun nofun with
  | string hb h =>
    rw [choice, hb]
    simp only [if_true]
    rw [known, textAs_quote, h]
    exact if_pos hs

end Scalar

/-- What is read item by item is read as a list. -/
theorem items_transfer {item : Reader α} {item' : Reader β} {R : α → β → Prop}
    (hitem : ∀ {x y bytes rest}, R x y → item bytes = .ok (x, rest) → item' bytes = .ok (y, rest))
    {fuel : Nat} {first : Bool} {bytes rest : List UInt8} {xs : List α} {ys : List β}
    (h : items item fuel first bytes = .ok (xs, rest)) (hxs : List.Forall₂ R xs ys) :
    items item' fuel first bytes = .ok (ys, rest) := by
  induction fuel generalizing first bytes xs ys with
  | zero => cases h
  | succ fuel ih =>
    obtain ⟨_, heq, ⟨start, hend, hclose, rfl⟩ | ⟨start, x, later, xs', hmore, hx, hlater, rfl⟩⟩ :=
      items_cases h
    · cases hxs
      rw [items, hend]
      simp only [bind, Except.bind, Bool.false_eq_true, if_false, hclose]
    · cases heq
      cases hxs with
      | cons hxy hxs => exact items_more hmore (hitem hxy hx) (ih hlater hxs)

theorem listOf_of_asWritten {depth : Nat} {bytes rest : List UInt8} {xs : List Json} {ys : List β}
    {item : Reader β} {R : Json → β → Prop}
    (hitem : ∀ {d x y bytes rest}, R x y → asWritten d bytes = .ok (x, rest) →
      item bytes = .ok (y, rest))
    (h : asWritten depth bytes = .ok (.array xs, rest)) (hxs : List.Forall₂ R xs ys) :
    listOf item bytes = .ok (ys, rest) := by
  obtain ⟨inner, start, hb, hitems⟩ := exists_list_of_asWritten h
  rw [listOf, hb]
  simp only [if_true]
  exact items_transfer hitem hitems hxs

namespace Record

variable {σ : Type}

/-- The keys of some members that a record has fields for. -/
def knownKeys (r : Record σ α) (ms : List (String × β)) : List String :=
  (ms.map (·.1)).filter fun key => (r.fields.find? (·.name == key)).isSome

theorem knownKeys_cons_of_none {r : Record σ α} {key : String}
    (h : r.fields.find? (·.name == key) = none) (x : β) (ms : List (String × β)) :
    r.knownKeys ((key, x) :: ms) = r.knownKeys ms := by
  rw [knownKeys, List.map_cons, List.filter_cons_of_neg (by simp [h]), knownKeys]

theorem knownKeys_cons_of_some {r : Record σ α} {key : String} {field : Field σ}
    (h : r.fields.find? (·.name == key) = some field) (x : β) (ms : List (String × β)) :
    r.knownKeys ((key, x) :: ms) = key :: r.knownKeys ms := by
  rw [knownKeys, List.map_cons, List.filter_cons_of_pos (by rw [h]; rfl), knownKeys]

theorem mem_knownKeys {r : Record σ α} {key : String} {ms : List (String × β)} :
    key ∈ r.knownKeys ms ↔ (∃ x, (key, x) ∈ ms) ∧ (r.fields.find? (·.name == key)).isSome := by
  rw [knownKeys, List.mem_filter]
  simp

/-- A key that comes once has one value. -/
theorem eq_of_mem {r : Record σ α} {key : String} {x y : β} {ms : List (String × β)}
    (once : (r.knownKeys ms).Nodup) (known : (r.fields.find? (·.name == key)).isSome)
    (hx : (key, x) ∈ ms) (hy : (key, y) ∈ ms) : x = y := by
  rw [knownKeys, List.filter_map] at once
  have hpair := List.inj_on_of_nodup_map once (List.mem_filter.mpr ⟨hx, known⟩)
    (List.mem_filter.mpr ⟨hy, known⟩) rfl
  exact (Prod.mk.inj hpair).2

/-- A record is filled by members one after the other, `P` being what holds when the fields of some
names have been filled. -/
structure Fills (r : Record σ α) (value : Reader β) (P : List String → σ → Prop)
    (ms : List (String × β)) : Prop where
  unfilled : ∀ field ∈ r.fields, ∀ names s, P names s → field.name ∉ names →
    field.isFilled s = false
  fill : ∀ field ∈ r.fields, ∀ x, (field.name, x) ∈ ms → ∀ names s, P names s →
    ∃ s', P (field.name :: names) s' ∧
      ∀ bytes rest, value bytes = .ok (x, rest) → field.fill s bytes = .ok (s', rest)

variable {r : Record σ α} {value : Reader β} {P : List String → σ → Prop}

theorem Fills.tail {m : String × β} {ms : List (String × β)} (h : r.Fills value P (m :: ms)) :
    r.Fills value P ms :=
  ⟨h.unfilled, fun field hfield x hx => h.fill field hfield x (List.mem_cons_of_mem m hx)⟩

/-- Members of which each known key comes once fill the fields of their names. -/
theorem Fills.exists_fromMembers {ms : List (String × β)} (h : r.Fills value P ms)
    (skips : ∀ {bytes rest x}, value bytes = .ok (x, rest) → skipValue bytes = .ok ((), rest))
    {fuel : Nat} {first : Bool} {bytes rest : List UInt8}
    (hread : members value fuel first bytes = .ok (ms, rest)) {names : List String} {s : σ}
    (hs : P names s) (once : (r.knownKeys ms ++ names).Nodup) :
    ∃ names' s' close, r.fromMembers fuel first s bytes = .ok (s', close) ∧
      closeObject close = .ok ((), rest) ∧ P names' s' ∧
      ∀ name, name ∈ names' ↔ name ∈ r.knownKeys ms ∨ name ∈ names := by
  -- The induction is on the members, for everything that may have been filled before them.
  induction fuel generalizing first bytes ms names s with
  | zero => cases hread
  | succ fuel ih =>
    obtain ⟨_, heq, ⟨start, hend, hclose, rfl⟩ |
      ⟨start, key, afterKey, afterColon, x, later, ms', hmore, hkey, hcolon, hx, hlater, rfl⟩⟩ :=
      members_cases hread
    · refine ⟨names, s, start, ?_, hclose, hs, ?_⟩
      · rw [fromMembers, hend]
        rfl
      · intro name
        simp [knownKeys]
    cases heq
    cases hfield : r.fields.find? (·.name == key) with
    | none =>
      rw [knownKeys_cons_of_none hfield] at once ⊢
      obtain ⟨names', s', close, hfrom, hrest⟩ := ih h.tail hlater hs once
      refine ⟨names', s', close, ?_, hrest⟩
      rw [fromMembers, hmore]
      simp only [bind, Except.bind, Bool.not_true, Bool.false_eq_true, if_false, hkey, hfield,
        hcolon, skips hx]
      exact hfrom
    | some field =>
      rw [knownKeys_cons_of_some hfield] at once ⊢
      have hname : field.name = key := by simpa using List.find?_some hfield
      have hmem := List.mem_of_find?_eq_some hfield
      have hkeys : (r.knownKeys ms' ++ key :: names).Nodup := List.nodup_middle.mpr once
      have hnew : key ∉ names := by
        intro hold
        have hcons := (List.nodup_append.mp hkeys).2.1
        exact (List.nodup_cons.mp hcons).1 hold
      have hunfilled := h.unfilled field hmem names s hs (hname ▸ hnew)
      obtain ⟨s1, hs1, hfill⟩ := h.fill field hmem x (hname ▸ List.mem_cons_self) names s hs
      rw [hname] at hs1
      obtain ⟨names', s', close, hfrom, hclose, hs', hnames⟩ := ih h.tail hlater hs1 hkeys
      refine ⟨names', s', close, ?_, hclose, hs', ?_⟩
      · rw [fromMembers, hmore]
        simp only [bind, Except.bind, Bool.not_true, Bool.false_eq_true, if_false, hkey, hfield,
          hunfilled, hcolon, hfill _ _ hx]
        exact hfrom
      · intro name
        rw [hnames, List.mem_cons, List.mem_cons]
        exact or_left_comm.trans or_assoc.symm

/-- A record is read from an object whose members fill it. -/
theorem Fills.exists_read {ms : List (String × β)} (h : r.Fills value P ms)
    (skips : ∀ {bytes rest x}, value bytes = .ok (x, rest) → skipValue bytes = .ok ((), rest))
    {bytes start rest : List UInt8} (hb : skipBlanks bytes = byte '\x7b' :: start)
    (hread : members value bytes.length true start = .ok (ms, rest)) {blank : σ}
    (hblank : P [] blank) (once : (r.knownKeys ms).Nodup) :
    ∃ names s, P names s ∧ (∀ name, name ∈ names ↔ name ∈ r.knownKeys ms) ∧
      ∀ x, r.finish s = .ok x → r.read blank bytes = .ok (x, rest) := by
  obtain ⟨names, s, close, hfrom, hclose, hs, hnames⟩ :=
    h.exists_fromMembers skips hread hblank (by rwa [List.append_nil])
  refine ⟨names, s, hs, fun name => ?_, fun x hx => ?_⟩
  · rw [hnames, or_iff_left List.not_mem_nil]
  · rw [read, hb]
    simp only [bind, Except.bind, if_neg (show byte '\x7b' ≠ byte '[' by decide), if_true, hfrom,
      hx, hclose]

end Record

end ChatRelay.Json.Read
