import ChatRelay.Proofs.Json.Strings
import ChatRelay.Text.Blank
import Mathlib.Data.List.Forall2

/-!
Reading the compact text of a value gives the value. Lists and objects read one item after the
other, so that the induction is on the value and, inside it, on the items; a number is only known
to have ended when the byte behind it is none of a number.
-/

namespace ChatRelay.Json.Read

/-- No byte that would go on with a number comes first. -/
def EndsNumber (rest : List UInt8) : Prop :=
  ∀ b ∈ rest.head?, isDigit b = false ∧ b ≠ byte '.' ∧ b ≠ byte 'e' ∧ b ≠ byte 'E'

/-- A reader gives a value for a text and stops behind it. -/
def Reads (reader : Reader α) (text : List Char) (x : α) : Prop :=
  ∀ rest, EndsNumber rest → reader (Utf8.encode text ++ rest) = .ok (x, rest)

theorem EndsNumber.not_digit {rest : List UInt8} (h : EndsNumber rest) :
    ∀ b ∈ rest.head?, isDigit b = false :=
  fun b hb => (h b hb).1

theorem EndsNumber.not_exponent {b : UInt8} {rest : List UInt8} (h : EndsNumber (b :: rest)) :
    ¬ (b = byte 'e' || b = byte 'E') = true := by
  obtain ⟨-, -, he, hE⟩ := h b rfl
  rw [Bool.or_eq_true, decide_eq_true_iff, decide_eq_true_iff, not_or]
  exact ⟨he, hE⟩

theorem endsNumber_nil : EndsNumber [] := fun _ h => nomatch h

theorem endsNumber_byte {c : Char} (h : c ∈ [',', ']', '\x7d']) (rest : List UInt8) :
    EndsNumber (byte c :: rest) := by
  intro b hb
  rw [List.head?_cons, Option.mem_some_iff] at hb
  subst hb
  simp only [List.mem_cons, List.not_mem_nil, or_false] at h
  rcases h with rfl | rfl | rfl <;> decide

/-- What stands behind an item or a member: another comma, or what closes the list or object. -/
theorem endsNumber_commas (close : Char) (hclose : close ∈ [',', ']', '\x7d'])
    (texts : List (List Char)) (rest : List UInt8) :
    EndsNumber (Utf8.encode (texts.flatMap ([','] ++ ·)) ++ byte close :: rest) := by
  cases texts with
  | nil => exact endsNumber_byte hclose rest
  | cons text texts =>
    rw [List.flatMap_cons, List.append_assoc, List.singleton_append,
      Utf8.encode_ascii_cons (by decide)]
    exact endsNumber_byte (by decide) _

theorem skipBlanks_cons {b : UInt8} (h : isBlank b = false) (rest : List UInt8) :
    skipBlanks (b :: rest) = b :: rest :=
  List.dropWhile_cons_of_neg (by rw [h]; decide)

/-- A byte of a character that JSON takes for a blank belongs to a blank of the text. -/
theorem isBlank_of_byte {b : UInt8} {c : Char} (hb : b.toNat = c.toNat ∨ 0x80 ≤ b.toNat)
    (h : isBlank b = true) : Text.isBlank c = true := by
  have hcases : b.toNat = 0x20 ∨ b.toNat = 0x09 ∨ b.toNat = 0x0A ∨ b.toNat = 0x0D := by
    simp only [isBlank, Bool.or_eq_true, beq_iff_eq, or_assoc] at h
    rcases h with rfl | rfl | rfl | rfl <;> decide
  -- A blank byte is ASCII, so that the character is that byte.
  have hc : c.toNat = b.toNat := by omega
  unfold Text.isBlank
  rw [hc]
  rcases hcases with hn | hn | hn | hn <;> (rw [hn]; decide)

/-! ### The first byte of a value -/

theorem exists_digitChar {c : Char} (h : c.isDigit = true) : ∃ n < 10, Nat.digitChar n = c := by
  simp only [Char.isDigit, Bool.and_eq_true, decide_eq_true_eq] at h
  have hlow : (0x30 : Nat) ≤ c.toNat := h.1
  have hhigh : c.toNat ≤ (0x39 : Nat) := h.2
  refine ⟨c.toNat - 0x30, by omega, Char.toNat_inj.mp ?_⟩
  have hdigit : ∀ n < 10, (Nat.digitChar n).toNat = n + 0x30 := by decide
  rw [hdigit _ (by omega)]
  omega

theorem startsValue_byte {c : Char} (h : StartsValue c) : c.toNat < 0x80 ∧
    isBlank (byte c) = false ∧ byte c ≠ byte ']' ∧ byte c ≠ byte '\x7d' := by
  rcases h with h | rfl | h
  · simp only [List.mem_cons, List.not_mem_nil, or_false] at h
    rcases h with rfl | rfl | rfl | rfl | rfl | rfl <;> decide
  · decide
  · obtain ⟨n, hn, rfl⟩ := exists_digitChar h
    revert n
    decide

theorem exists_encode_write (v : Json) (rest : List UInt8) : ∃ b more,
    Utf8.encode v.write ++ rest = b :: more ∧ isBlank b = false ∧ b ≠ byte ']' ∧
      b ≠ byte '\x7d' := by
  obtain ⟨c, cs, hv, hc⟩ := exists_write v
  obtain ⟨hascii, hbyte⟩ := startsValue_byte hc
  exact ⟨byte c, Utf8.encode cs ++ rest, by rw [hv, Utf8.encode_ascii_cons hascii]; rfl, hbyte⟩

/-! ### Lists -/

theorem anotherItem_close (first : Bool) (rest : List UInt8) :
    anotherItem first (byte ']' :: rest) = .ok (false, byte ']' :: rest) := by
  rw [anotherItem, skipBlanks_cons (by decide)]
  simp only [if_true]

theorem anotherItem_first {b : UInt8} (hb : isBlank b = false) (hclose : b ≠ byte ']')
    (rest : List UInt8) : anotherItem true (b :: rest) = .ok (true, b :: rest) := by
  rw [anotherItem, skipBlanks_cons hb]
  simp only [if_neg hclose, if_true]

theorem anotherItem_comma {b : UInt8} (hb : isBlank b = false) (hclose : b ≠ byte ']')
    (rest : List UInt8) : anotherItem false (byte ',' :: b :: rest) = .ok (true, b :: rest) := by
  rw [anotherItem, skipBlanks_cons (by decide)]
  simp only [if_neg (show byte ',' ≠ byte ']' by decide), Bool.false_eq_true, if_false, if_true,
    skipBlanks_cons hb, if_neg hclose]

theorem closeList_close (rest : List UInt8) : closeList (byte ']' :: rest) = .ok ((), rest) := by
  rw [closeList, skipBlanks_cons (by decide)]
  simp only [if_true]

theorem items_close (item : Reader α) (fuel : Nat) (first : Bool) (rest : List UInt8) :
    items item (fuel + 1) first (byte ']' :: rest) = .ok ([], rest) := by
  rw [items, anotherItem_close]
  simp only [bind, Except.bind, Bool.false_eq_true, if_false, closeList_close]

theorem items_more {item : Reader α} {first : Bool} {bytes start later rest : List UInt8} {x : α}
    {xs : List α} {fuel : Nat} (hmore : anotherItem first bytes = .ok (true, start))
    (hitem : item start = .ok (x, later)) (hlater : items item fuel false later = .ok (xs, rest)) :
    items item (fuel + 1) first bytes = .ok (x :: xs, rest) := by
  rw [items, hmore]
  simp only [bind, Except.bind, if_true, hitem, hlater]

section Items

variable {item : Reader α} {xs : List Json} {ys : List α}

theorem items_commas (hitem : List.Forall₂ (fun x y => Reads item x.write y) xs ys) {fuel : Nat}
    (hfuel : xs.length < fuel) (rest : List UInt8) :
    items item fuel false (Utf8.encode ((xs.map write).flatMap ([','] ++ ·)) ++ byte ']' :: rest) =
      .ok (ys, rest) := by
  -- The induction is on the items; each takes one unit of the fuel and leaves enough for the rest.
  induction hitem generalizing fuel with
  | nil =>
    obtain ⟨fuel, rfl⟩ := Nat.exists_eq_add_of_lt hfuel
    exact items_close item _ false rest
  | @cons x y xs ys hx _ ih =>
    rw [List.length_cons] at hfuel
    obtain ⟨fuel, rfl⟩ : ∃ n, fuel = n + 1 := ⟨fuel - 1, by omega⟩
    rw [List.map_cons, List.flatMap_cons, List.append_assoc, List.singleton_append,
      Utf8.encode_ascii_cons (by decide), Utf8.encode_append, List.cons_append, List.append_assoc]
    have hread := hx _ (endsNumber_commas ']' (by decide) (xs.map write) rest)
    -- Behind the comma the reader looks at the first byte of the item.
    obtain ⟨b, more, hb, hblank, hclose, -⟩ := exists_encode_write x
      (Utf8.encode ((xs.map write).flatMap ([','] ++ ·)) ++ byte ']' :: rest)
    rw [hb] at hread ⊢
    exact items_more (anotherItem_comma hblank hclose more) hread (ih (by omega))

/-- Items that are read one by one are read as a list. -/
theorem items_write (hitem : List.Forall₂ (fun x y => Reads item x.write y) xs ys) {fuel : Nat}
    (hfuel : xs.length < fuel) (rest : List UInt8) :
    items item fuel true (Utf8.encode (writeItems xs) ++ byte ']' :: rest) = .ok (ys, rest) := by
  obtain ⟨fuel, rfl⟩ : ∃ n, fuel = n + 1 := ⟨fuel - 1, by omega⟩
  cases hitem with
  | nil => exact items_close item fuel true rest
  | @cons x y xs ys hx hxs =>
    rw [List.length_cons] at hfuel
    rw [writeItems_eq, List.map_cons, intercalate_cons, Utf8.encode_append, List.append_assoc]
    have hread := hx _ (endsNumber_commas ']' (by decide) (xs.map write) rest)
    obtain ⟨b, more, hb, hblank, hclose, -⟩ := exists_encode_write x
      (Utf8.encode ((xs.map write).flatMap ([','] ++ ·)) ++ byte ']' :: rest)
    rw [hb] at hread ⊢
    exact items_more (anotherItem_first hblank hclose more) hread
      (items_commas hxs (by omega) rest)

end Items

/-! ### Objects -/

theorem anotherMember_close (first : Bool) (rest : List UInt8) :
    anotherMember first (byte '\x7d' :: rest) = .ok (false, byte '\x7d' :: rest) := by
  rw [anotherMember, skipBlanks_cons (by decide)]
  simp only [if_true]

theorem anotherMember_first (rest : List UInt8) :
    anotherMember true (byte '"' :: rest) = .ok (true, rest) := by
  rw [anotherMember, skipBlanks_cons (by decide)]
  simp only [if_neg (show byte '"' ≠ byte '\x7d' by decide), if_true]

theorem anotherMember_comma (rest : List UInt8) :
    anotherMember false (byte ',' :: byte '"' :: rest) = .ok (true, rest) := by
  rw [anotherMember, skipBlanks_cons (by decide)]
  simp only [if_neg (show byte ',' ≠ byte '\x7d' by decide), Bool.false_eq_true, if_false, if_true,
    skipBlanks_cons (show isBlank (byte '"') = false by decide)]

theorem colon_colon (rest : List UInt8) : colon (byte ':' :: rest) = .ok ((), rest) := by
  rw [colon, skipBlanks_cons (by decide)]
  simp only [if_true]

theorem closeObject_close (rest : List UInt8) :
    closeObject (byte '\x7d' :: rest) = .ok ((), rest) := by
  rw [closeObject, skipBlanks_cons (by decide)]
  simp only [if_true]

theorem members_close (value : Reader α) (fuel : Nat) (first : Bool) (rest : List UInt8) :
    members value (fuel + 1) first (byte '\x7d' :: rest) = .ok ([], rest) := by
  rw [members, anotherMember_close]
  simp only [bind, Except.bind, Bool.false_eq_true, if_false, closeObject_close]

theorem members_more {value : Reader α} {first : Bool}
    {bytes start afterKey later rest : List UInt8} {key : String} {x : α} {xs : List (String × α)}
    {fuel : Nat}
    (hmore : anotherMember first bytes = .ok (true, start))
    (hkey : string start = .ok (key, byte ':' :: afterKey))
    (hvalue : value afterKey = .ok (x, later))
    (hlater : members value fuel false later = .ok (xs, rest)) :
    members value (fuel + 1) first bytes = .ok ((key, x) :: xs, rest) := by
  rw [members, hmore]
  simp only [bind, Except.bind, if_true, hkey, colon_colon, hvalue, hlater]

/-- A member begins with a quote; behind it its key is read, and then its value stands. -/
theorem exists_encode_writeMember (m : String × Json) (rest : List UInt8) :
    ∃ start, Utf8.encode (writeMember m) ++ rest = byte '"' :: start ∧
      string start = .ok (m.1, byte ':' :: (Utf8.encode m.2.write ++ rest)) := by
  obtain ⟨start, hstart, hstring⟩ := string_quote m.1
    (byte ':' :: (Utf8.encode m.2.write ++ rest))
  refine ⟨start, ?_, hstring⟩
  rw [← hstart, writeMember, Utf8.encode_append, Utf8.encode_ascii_cons (by decide),
    List.append_assoc, List.cons_append]

section Members

variable {value : Reader α} {R : Json → α → Prop} {ms : List (String × Json)}

/-- A value is read behind its key as something that it is in relation with. -/
def ReadsAs (value : Reader α) (R : Json → α → Prop) (v : Json) : Prop :=
  ∀ rest, EndsNumber rest → ∃ x, R v x ∧ value (Utf8.encode v.write ++ rest) = .ok (x, rest)

theorem members_commas (hvalue : ∀ m ∈ ms, ReadsAs value R m.2) {fuel : Nat}
    (hfuel : ms.length < fuel) (rest : List UInt8) :
    ∃ xs, List.Forall₂ (fun m x => m.1 = x.1 ∧ R m.2 x.2) ms xs ∧
      members value fuel false
          (Utf8.encode ((ms.map writeMember).flatMap ([','] ++ ·)) ++ byte '\x7d' :: rest) =
        .ok (xs, rest) := by
  induction ms generalizing fuel with
  | nil =>
    obtain ⟨fuel, rfl⟩ := Nat.exists_eq_add_of_lt hfuel
    exact ⟨[], .nil, members_close value _ false rest⟩
  | cons m ms ih =>
    obtain ⟨hm, hms⟩ := List.forall_mem_cons.mp hvalue
    rw [List.length_cons] at hfuel
    obtain ⟨fuel, rfl⟩ : ∃ n, fuel = n + 1 := ⟨fuel - 1, by omega⟩
    obtain ⟨xs, hxs, hlater⟩ := ih hms (show ms.length < fuel by omega)
    rw [List.map_cons, List.flatMap_cons, List.append_assoc, List.singleton_append,
      Utf8.encode_ascii_cons (by decide), Utf8.encode_append, List.cons_append, List.append_assoc]
    obtain ⟨x, hx, hread⟩ := hm _ (endsNumber_commas '\x7d' (by decide) (ms.map writeMember) rest)
    obtain ⟨start, hstart, hkey⟩ := exists_encode_writeMember m
      (Utf8.encode ((ms.map writeMember).flatMap ([','] ++ ·)) ++ byte '\x7d' :: rest)
    rw [hstart]
    exact ⟨(m.1, x) :: xs, .cons ⟨rfl, hx⟩ hxs,
      members_more (anotherMember_comma start) hkey hread hlater⟩

theorem exists_members_write (hvalue : ∀ m ∈ ms, ReadsAs value R m.2) {fuel : Nat}
    (hfuel : ms.length < fuel) (rest : List UInt8) :
    ∃ xs, List.Forall₂ (fun m x => m.1 = x.1 ∧ R m.2 x.2) ms xs ∧
      members value fuel true (Utf8.encode (writeMembers ms) ++ byte '\x7d' :: rest) =
        .ok (xs, rest) := by
  obtain ⟨fuel, rfl⟩ : ∃ n, fuel = n + 1 := ⟨fuel - 1, by omega⟩
  cases ms with
  | nil => exact ⟨[], .nil, members_close value fuel true rest⟩
  | cons m ms =>
    obtain ⟨hm, hms⟩ := List.forall_mem_cons.mp hvalue
    rw [List.length_cons] at hfuel
    obtain ⟨xs, hxs, hlater⟩ := members_commas hms (show ms.length < fuel by omega) rest
    rw [writeMembers_eq, List.map_cons, intercalate_cons, Utf8.encode_append, List.append_assoc]
    obtain ⟨x, hx, hread⟩ := hm _ (endsNumber_commas '\x7d' (by decide) (ms.map writeMember) rest)
    obtain ⟨start, hstart, hkey⟩ := exists_encode_writeMember m
      (Utf8.encode ((ms.map writeMember).flatMap ([','] ++ ·)) ++ byte '\x7d' :: rest)
    rw [hstart]
    exact ⟨(m.1, x) :: xs, .cons ⟨rfl, hx⟩ hxs,
      members_more (anotherMember_first start) hkey hread hlater⟩

end Members

theorem members_write {value : Reader Json} {ms : List (String × Json)}
    (hvalue : ∀ m ∈ ms, Reads value m.2.write m.2) {fuel : Nat} (hfuel : ms.length < fuel)
    (rest : List UInt8) :
    members value fuel true (Utf8.encode (writeMembers ms) ++ byte '\x7d' :: rest) =
      .ok (ms, rest) := by
  have hreads : ∀ m ∈ ms, ReadsAs value Eq m.2 :=
    fun m hm rest hrest => ⟨m.2, rfl, hvalue m hm rest hrest⟩
  obtain ⟨xs, hxs, hread⟩ := exists_members_write hreads hfuel rest
  have hsame : ms = xs := by
    rw [← List.forall₂_eq_eq_eq]
    exact hxs.imp fun m x hm => Prod.ext hm.1 hm.2
  rw [hread, hsame]

/-! ### Values -/

def NumberReadsBack (n : Number) : Prop := ∀ depth, Reads (value depth) n.write (.number n)

/-- The values whose text reads back, by the number of lists and objects that may be open: their
numbers read back, and the members of each object are in their order. -/
inductive ReadsBack : Nat → Json → Prop where
  | null {depth : Nat} : ReadsBack depth .null
  | bool {depth : Nat} (b : Bool) : ReadsBack depth (.bool b)
  | number {depth : Nat} {n : Number} (hn : NumberReadsBack n) : ReadsBack depth (.number n)
  | string {depth : Nat} (s : String) : ReadsBack depth (.string s)
  | array {depth : Nat} {xs : List Json} (hxs : ∀ x ∈ xs, ReadsBack depth x) :
      ReadsBack (depth + 1) (.array xs)
  | object {depth : Nat} {ms : List (String × Json)} (hms : ∀ m ∈ ms, ReadsBack depth m.2)
      (ordered : Members.ofList ms = ms) : ReadsBack (depth + 1) (.object ms)

/-- Between items there are commas, so that a text is as long as its number of items allows. -/
theorem length_le_length_intercalate (texts : List (List Char)) :
    texts.length ≤ ([','].intercalate texts).length + 1 := by
  have hcommas (more : List (List Char)) : more.length ≤ (more.flatMap ([','] ++ ·)).length := by
    induction more with
    | nil => exact Nat.le_refl 0
    | cons text more ih =>
      rw [List.flatMap_cons, List.length_append, List.length_append, List.length_singleton,
        List.length_cons]
      omega
  cases texts with
  | nil => exact Nat.zero_le _
  | cons text texts =>
    have h := hcommas texts
    rw [intercalate_cons, List.length_append, List.length_cons]
    omega

theorem length_lt_of_items (xs : List Json) (rest : List UInt8) :
    xs.length < (byte '[' :: (Utf8.encode (writeItems xs) ++ byte ']' :: rest)).length := by
  have hitems := length_le_length_intercalate (xs.map write)
  have hbytes := Utf8.length_le_length_encode (writeItems xs)
  rw [List.length_map, ← writeItems_eq] at hitems
  rw [List.length_cons, List.length_append, List.length_cons]
  omega

theorem length_lt_of_members (ms : List (String × Json)) (rest : List UInt8) :
    ms.length < (byte '\x7b' :: (Utf8.encode (writeMembers ms) ++ byte '\x7d' :: rest)).length := by
  have hitems := length_le_length_intercalate (ms.map writeMember)
  have hbytes := Utf8.length_le_length_encode (writeMembers ms)
  rw [List.length_map, ← writeMembers_eq] at hitems
  rw [List.length_cons, List.length_append, List.length_cons]
  omega

theorem value_list {bytes start : List UInt8} (hb : skipBlanks bytes = byte '[' :: start)
    (depth : Nat) :
    value (depth + 1) bytes =
      (items (value depth) bytes.length true start).map fun (xs, rest) => (array xs, rest) := by
  rw [value.eq_def, hb]
  rfl

theorem value_object {bytes start : List UInt8} (hb : skipBlanks bytes = byte '\x7b' :: start)
    (depth : Nat) :
    value (depth + 1) bytes =
      (members (value depth) bytes.length true start).map
        fun (ms, rest) => (ofMembers ms, rest) := by
  rw [value.eq_def, hb]
  rfl

/-- Members in any order are read in theirs, the last one of a key. -/
theorem reads_object {depth : Nat} {ms : List (String × Json)}
    (hms : ∀ m ∈ ms, Reads (value depth) m.2.write m.2) :
    Reads (value (depth + 1)) (object ms).write (ofMembers ms) := by
  intro rest _
  rw [write, Utf8.encode_enclosed (by decide) (by decide),
    value_object (skipBlanks_cons (by decide) _),
    members_write hms (length_lt_of_members ms rest) rest]
  rfl

/-- The text of a value reads as the value, whatever stands behind it. -/
theorem ReadsBack.reads {depth : Nat} {v : Json} (h : ReadsBack depth v) :
    Reads (value depth) v.write v := by
  -- Only a number needs what stands behind it: all other texts show by themselves where they end.
  induction h with
  | null =>
    intro rest _
    rw [write, value.eq_def]
    rfl
  | bool b =>
    intro rest _
    cases b <;> (rw [write, value.eq_def]; rfl)
  | @number depth n hn =>
    rw [write]
    exact hn depth
  | string s =>
    intro rest _
    obtain ⟨bytes, hbytes, hstring⟩ := string_quote s rest
    rw [write, hbytes, value.eq_def, skipBlanks_cons (by decide)]
    simp only [hstring]
    rfl
  | @array depth xs _ ih =>
    -- The fuel is the number of bytes left, and each item has one at least.
    intro rest _
    rw [write, Utf8.encode_enclosed (by decide) (by decide),
      value_list (skipBlanks_cons (by decide) _),
      items_write (List.forall₂_same.mpr ih) (length_lt_of_items xs rest) rest]
    rfl
  | @object depth ms _ ordered ih =>
    have hread := reads_object ih
    rwa [ofMembers, ordered] at hread

theorem Reads.entire_eq {reader : Reader α} {text : List Char} {x : α}
    (h : Reads reader text x) : entire reader (Utf8.encode text) = .ok x := by
  have hread := h [] endsNumber_nil
  rw [List.append_nil] at hread
  rw [entire, hread]
  rfl

theorem parse_compact {v : Json} (h : ReadsBack depthLimit v) : parse v.compact = .ok v := by
  rw [parse, parseBytes, Utf8.bytes, compact, String.toList_ofList]
  exact h.reads.entire_eq

end ChatRelay.Json.Read
