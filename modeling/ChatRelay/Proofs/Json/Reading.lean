import ChatRelay.Json.Reader
import ChatRelay.Proofs.Json.Members
import ChatRelay.Proofs.Success
import Mathlib.Data.List.TakeWhile

/-!
What a reader has read. A value that has been read is of one of a few kinds, each with the reading
of its parts, so that it is no deeper than allowed and all its objects have their members in order.
-/

namespace ChatRelay.Json

/-- The values that a text can be read as, by the number of lists and objects that may be open:
the members of each object are in order. -/
inductive Nested : Nat → Json → Prop where
  | null {depth : Nat} : Nested depth .null
  | bool {depth : Nat} (b : Bool) : Nested depth (.bool b)
  | number {depth : Nat} (n : Number) : Nested depth (.number n)
  | string {depth : Nat} (s : String) : Nested depth (.string s)
  | array {depth : Nat} {xs : List Json} (hxs : ∀ x ∈ xs, Nested depth x) :
      Nested (depth + 1) (.array xs)
  | object {depth : Nat} {ms : Members} (hms : ∀ m ∈ ms, Nested depth m.2)
      (ordered : ms.Ordered) : Nested (depth + 1) (.object ms)

theorem Nested.mono {depth depth' : Nat} {v : Json} (h : Nested depth v) (hle : depth ≤ depth') :
    Nested depth' v := by
  induction h generalizing depth' with
  | null => exact .null
  | bool b => exact .bool b
  | number n => exact .number n
  | string s => exact .string s
  | array _ ih =>
    obtain ⟨depth', rfl⟩ := Nat.exists_eq_add_of_lt hle
    exact .array fun x hx => ih x hx (Nat.le_add_right _ depth')
  | object _ ordered ih =>
    obtain ⟨depth', rfl⟩ := Nat.exists_eq_add_of_lt hle
    exact .object (fun m hm => ih m hm (Nat.le_add_right _ depth')) ordered

namespace Read

/-! ### Readings and their parts -/

/-- A list that has been read is at its end, or an item has been read and then the others. -/
theorem items_cases {item : Reader α} {fuel : Nat} {first : Bool} {bytes rest : List UInt8}
    {xs : List α} (h : items item fuel first bytes = .ok (xs, rest)) :
    ∃ fuel', fuel = fuel' + 1 ∧
      ((∃ start, anotherItem first bytes = .ok (false, start) ∧
          closeList start = .ok ((), rest) ∧ xs = []) ∨
        ∃ start x later xs', anotherItem first bytes = .ok (true, start) ∧
          item start = .ok (x, later) ∧ items item fuel' false later = .ok (xs', rest) ∧
          xs = x :: xs') := by
  cases fuel with
  | zero => cases h
  | succ fuel =>
    refine ⟨fuel, rfl, ?_⟩
    rw [items] at h
    obtain ⟨⟨more, start⟩, hmore, h⟩ := exists_of_bind_eq_ok h
    cases more with
    | false =>
      obtain ⟨⟨⟨⟩, rest'⟩, hclose, h⟩ := exists_of_bind_eq_ok h
      cases h
      exact .inl ⟨start, hmore, hclose, rfl⟩
    | true =>
      obtain ⟨⟨x, later⟩, hitem, h⟩ := exists_of_bind_eq_ok h
      obtain ⟨⟨xs', rest'⟩, hlater, h⟩ := exists_of_bind_eq_ok h
      cases h
      exact .inr ⟨start, x, later, xs', hmore, hitem, hlater, rfl⟩

theorem members_cases {value : Reader α} {fuel : Nat} {first : Bool} {bytes rest : List UInt8}
    {ms : List (String × α)} (h : members value fuel first bytes = .ok (ms, rest)) :
    ∃ fuel', fuel = fuel' + 1 ∧
      ((∃ start, anotherMember first bytes = .ok (false, start) ∧
          closeObject start = .ok ((), rest) ∧ ms = []) ∨
        ∃ start key afterKey afterColon x later ms',
          anotherMember first bytes = .ok (true, start) ∧ string start = .ok (key, afterKey) ∧
          colon afterKey = .ok ((), afterColon) ∧ value afterColon = .ok (x, later) ∧
          members value fuel' false later = .ok (ms', rest) ∧ ms = (key, x) :: ms') := by
  cases fuel with
  | zero => cases h
  | succ fuel =>
    refine ⟨fuel, rfl, ?_⟩
    rw [members] at h
    obtain ⟨⟨more, start⟩, hmore, h⟩ := exists_of_bind_eq_ok h
    cases more with
    | false =>
      obtain ⟨⟨⟨⟩, rest'⟩, hclose, h⟩ := exists_of_bind_eq_ok h
      cases h
      exact .inl ⟨start, hmore, hclose, rfl⟩
    | true =>
      obtain ⟨⟨key, afterKey⟩, hkey, h⟩ := exists_of_bind_eq_ok h
      obtain ⟨⟨⟨⟩, afterColon⟩, hcolon, h⟩ := exists_of_bind_eq_ok h
      obtain ⟨⟨x, later⟩, hvalue, h⟩ := exists_of_bind_eq_ok h
      obtain ⟨⟨ms', rest'⟩, hlater, h⟩ := exists_of_bind_eq_ok h
      cases h
      exact .inr ⟨start, key, afterKey, afterColon, x, later, ms', hmore, hkey, hcolon, hvalue,
        hlater, rfl⟩

/-- A value that has been read, by the first byte of its text, with the reading of its parts. -/
inductive Reading : (depth : Nat) → List UInt8 → Json → List UInt8 → Prop where
  | null {depth : Nat} {bytes start rest : List UInt8} (hb : skipBlanks bytes = byte 'n' :: start)
      (h : name ['u', 'l', 'l'] start = .ok ((), rest)) : Reading depth bytes .null rest
  | yes {depth : Nat} {bytes start rest : List UInt8} (hb : skipBlanks bytes = byte 't' :: start)
      (h : name ['r', 'u', 'e'] start = .ok ((), rest)) : Reading depth bytes (.bool true) rest
  | no {depth : Nat} {bytes start rest : List UInt8} (hb : skipBlanks bytes = byte 'f' :: start)
      (h : name ['a', 'l', 's', 'e'] start = .ok ((), rest)) :
      Reading depth bytes (.bool false) rest
  | negative {depth : Nat} {bytes start rest : List UInt8} {n : Number}
      (hb : skipBlanks bytes = byte '-' :: start) (h : number true start = .ok (n, rest)) :
      Reading depth bytes (.number n) rest
  | number {depth : Nat} {bytes start rest : List UInt8} {b : UInt8} {n : Number}
      (hb : skipBlanks bytes = b :: start) (digit : isDigit b = true)
      (h : number false (b :: start) = .ok (n, rest)) : Reading depth bytes (.number n) rest
  | string {depth : Nat} {bytes start rest : List UInt8} {s : String}
      (hb : skipBlanks bytes = byte '"' :: start) (h : string start = .ok (s, rest)) :
      Reading depth bytes (.string s) rest
  | array {depth : Nat} {bytes start rest : List UInt8} {xs : List Json}
      (hb : skipBlanks bytes = byte '[' :: start)
      (h : items (value depth) bytes.length true start = .ok (xs, rest)) :
      Reading (depth + 1) bytes (.array xs) rest
  | object {depth : Nat} {bytes start rest : List UInt8} {ms : List (String × Json)}
      (hb : skipBlanks bytes = byte '\x7b' :: start)
      (h : members (value depth) bytes.length true start = .ok (ms, rest)) :
      Reading (depth + 1) bytes (ofMembers ms) rest

theorem reading_of_value {depth : Nat} {bytes rest : List UInt8} {v : Json}
    (h : value depth bytes = .ok (v, rest)) : Reading depth bytes v rest := by
  rw [value.eq_def] at h
  split at h
  · cases h
  rename_i b start hbytes
  -- The reader goes by the first byte, and each kind of value has its own.
  split at h
  · rename_i hb
    obtain ⟨⟨⟨⟩, rest'⟩, hname, h⟩ := exists_of_map_eq_ok h
    cases h
    exact .null (hb ▸ hbytes) hname
  split at h
  · rename_i hb
    obtain ⟨⟨⟨⟩, rest'⟩, hname, h⟩ := exists_of_map_eq_ok h
    cases h
    exact .yes (hb ▸ hbytes) hname
  split at h
  · rename_i hb
    obtain ⟨⟨⟨⟩, rest'⟩, hname, h⟩ := exists_of_map_eq_ok h
    cases h
    exact .no (hb ▸ hbytes) hname
  split at h
  · rename_i hb
    obtain ⟨⟨n, rest'⟩, hnumber, h⟩ := exists_of_map_eq_ok h
    cases h
    exact .negative (hb ▸ hbytes) hnumber
  split at h
  · rename_i hb
    obtain ⟨⟨n, rest'⟩, hnumber, h⟩ := exists_of_map_eq_ok h
    cases h
    exact .number hbytes hb hnumber
  split at h
  · rename_i hb
    obtain ⟨⟨s, rest'⟩, hstring, h⟩ := exists_of_map_eq_ok h
    cases h
    exact .string (hb ▸ hbytes) hstring
  split at h
  · rename_i hb
    split at h
    · cases h
    · obtain ⟨⟨xs, rest'⟩, hitems, h⟩ := exists_of_map_eq_ok h
      cases h
      exact .array (hb ▸ hbytes) hitems
  split at h
  · rename_i hb
    split at h
    · cases h
    · obtain ⟨⟨ms, rest'⟩, hmembers, h⟩ := exists_of_map_eq_ok h
      cases h
      exact .object (hb ▸ hbytes) hmembers
  · cases h

theorem ne_byte_of_isDigit {b : UInt8} (h : isDigit b = true) :
    b ≠ byte 'n' ∧ b ≠ byte 't' ∧ b ≠ byte 'f' ∧ b ≠ byte '-' := by
  refine ⟨?_, ?_, ?_, ?_⟩
  all_goals
    rintro rfl
    revert h
    decide

theorem Reading.value_eq {depth : Nat} {bytes rest : List UInt8} {v : Json}
    (h : Reading depth bytes v rest) : value depth bytes = .ok (v, rest) := by
  cases h with
  | null hb h =>
    rw [value.eq_def, hb]
    simp only [if_true, h]
    rfl
  | yes hb h =>
    rw [value.eq_def, hb]
    simp only [h]
    rfl
  | no hb h =>
    rw [value.eq_def, hb]
    simp only [h]
    rfl
  | negative hb h =>
    rw [value.eq_def, hb]
    simp only [h]
    rfl
  | number hb digit h =>
    obtain ⟨hn, ht, hf, hminus⟩ := ne_byte_of_isDigit digit
    rw [value.eq_def, hb]
    simp only [if_neg hn, if_neg ht, if_neg hf, if_neg hminus, if_pos digit, h]
    rfl
  | string hb h =>
    rw [value.eq_def, hb]
    simp only [h]
    rfl
  | array hb h =>
    rw [value.eq_def, hb]
    simp only [h]
    rfl
  | object hb h =>
    rw [value.eq_def, hb]
    simp only [h]
    rfl

/-! ### What has been read -/

theorem forall_mem_of_items {item : Reader α} {P : α → Prop}
    (hitem : ∀ bytes x rest, item bytes = .ok (x, rest) → P x) {fuel : Nat} {first : Bool}
    {bytes rest : List UInt8} {xs : List α} (h : items item fuel first bytes = .ok (xs, rest)) :
    ∀ x ∈ xs, P x := by
  induction fuel generalizing first bytes xs with
  | zero => cases h
  | succ fuel ih =>
    obtain ⟨fuel', hfuel, ⟨start, -, -, rfl⟩ | ⟨start, x, later, xs', -, hx, hlater, rfl⟩⟩ :=
      items_cases h
    · exact fun x hx => absurd hx List.not_mem_nil
    · cases hfuel
      exact List.forall_mem_cons.mpr ⟨hitem _ _ _ hx, ih hlater⟩

theorem forall_mem_of_members {value : Reader α} {P : α → Prop}
    (hvalue : ∀ bytes x rest, value bytes = .ok (x, rest) → P x) {fuel : Nat} {first : Bool}
    {bytes rest : List UInt8} {ms : List (String × α)}
    (h : members value fuel first bytes = .ok (ms, rest)) : ∀ m ∈ ms, P m.2 := by
  induction fuel generalizing first bytes ms with
  | zero => cases h
  | succ fuel ih =>
    obtain ⟨fuel', hfuel, ⟨start, -, -, rfl⟩ |
      ⟨start, key, afterKey, afterColon, x, later, ms', -, -, -, hx, hlater, rfl⟩⟩ :=
      members_cases h
    · exact fun m hm => absurd hm List.not_mem_nil
    · cases hfuel
      exact List.forall_mem_cons.mpr ⟨hvalue _ _ _ hx, ih hlater⟩

theorem Reading.nested {depth : Nat} {bytes rest : List UInt8} {v : Json}
    (h : Reading depth bytes v rest)
    (inner : ∀ d, depth = d + 1 → ∀ bytes x rest, value d bytes = .ok (x, rest) → Nested d x) :
    Nested depth v := by
  cases h with
  | null => exact .null
  | yes => exact .bool true
  | no => exact .bool false
  | negative => exact .number _
  | number => exact .number _
  | string => exact .string _
  | array hb hitems => exact .array (forall_mem_of_items (inner _ rfl) hitems)
  | object hb hmembers =>
    have hms := forall_mem_of_members (inner _ rfl) hmembers
    refine .object ?_ (Members.ordered_ofList _)
    intro m hm
    -- A member of the object is one of those that have been read.
    exact hms m (Members.mem_of_mem_ofList hm)

/-- What is read is no deeper than allowed, and all its objects have their members in order. -/
theorem nested_of_value {depth : Nat} {bytes rest : List UInt8} {v : Json}
    (h : value depth bytes = .ok (v, rest)) : Nested depth v := by
  induction depth generalizing bytes rest v with
  | zero => exact (reading_of_value h).nested fun d hd => nomatch hd
  | succ depth ih =>
    apply (reading_of_value h).nested
    intro d hd bytes x rest hx
    cases hd
    exact ih hx

/-! ### Whole texts -/

/-- Behind a whole text that has been read there are blanks only. -/
theorem exists_of_entire {reader : Reader α} {bytes : List UInt8} {x : α}
    (h : entire reader bytes = .ok x) :
    ∃ rest, reader bytes = .ok (x, rest) ∧ skipBlanks rest = [] := by
  obtain ⟨⟨y, rest⟩, hread, hrest⟩ := exists_of_bind_eq_ok h
  dsimp only at hrest
  split at hrest
  · rename_i hblank
    cases hrest
    exact ⟨rest, hread, List.isEmpty_iff.mp hblank⟩
  · cases hrest

end Read

theorem exists_of_parse? {text : String} {v : Json} (h : parse? text = some v) :
    ∃ rest, Read.value Read.depthLimit (Utf8.bytes text) = .ok (v, rest) ∧
      Read.skipBlanks rest = [] :=
  Read.exists_of_entire (eq_ok_of_toOption_eq_some h)

end ChatRelay.Json
