import ChatRelay.Proofs.Json.Brackets

/-!
Texts as they are written. A value is read once more with the members of its objects in the order
of the text and with all those that have the same key; put in order, it is what is read of the text
otherwise.
-/

namespace ChatRelay.Json

/-! ### Order -/

mutual

/-- A value with the members of all its objects in order, the last one of each key. -/
def inOrder : Json → Json
  | null => null
  | bool b => bool b
  | number n => number n
  | string s => string s
  | array xs => array (inOrderItems xs)
  | object ms => ofMembers (inOrderMembers ms)

def inOrderItems : List Json → List Json
  | [] => []
  | x :: xs => inOrder x :: inOrderItems xs

def inOrderMembers : List (String × Json) → List (String × Json)
  | [] => []
  | (key, x) :: ms => (key, inOrder x) :: inOrderMembers ms

end

theorem inOrderItems_eq (xs : List Json) : inOrderItems xs = xs.map inOrder := by
  induction xs with
  | nil => rfl
  | cons x xs ih => rw [inOrderItems, ih, List.map_cons]

theorem inOrderMembers_eq (ms : List (String × Json)) :
    inOrderMembers ms = ms.map fun m => (m.1, m.2.inOrder) := by
  induction ms with
  | nil => rfl
  | cons m ms ih => rw [inOrderMembers, ih, List.map_cons]

namespace Read

/-- A value as it is written, in which `depth` more lists and objects may be opened inside one
another. -/
def asWritten (depth : Nat) : Reader Json := fun bytes =>
  match skipBlanks bytes with
  | [] => .error .endInValue
  | b :: rest =>
    if b = byte '[' then
      match depth with
      | 0 => .error .tooDeep
      | inner + 1 =>
        (items (asWritten inner) bytes.length true rest).map fun (xs, rest) => (array xs, rest)
    else if b = byte '\x7b' then
      match depth with
      | 0 => .error .tooDeep
      | inner + 1 =>
        (members (asWritten inner) bytes.length true rest).map fun (ms, rest) => (object ms, rest)
    else value 0 bytes

/-! ### Values in order -/

/-- A reader that works up what another one reads. -/
def mapRead (f : α → β) (reader : Reader α) (bytes : List UInt8) : Except Fault (β × List UInt8) :=
  (reader bytes).map fun (x, rest) => (f x, rest)

theorem items_mapRead (f : α → β) (item : Reader α) (fuel : Nat) (first : Bool)
    (bytes : List UInt8) :
    items (mapRead f item) fuel first bytes =
      mapRead (List.map f) (items item fuel first) bytes := by
  induction fuel generalizing first bytes with
  | zero => rfl
  | succ fuel ih =>
    rw [mapRead, items, items]
    cases anotherItem first bytes with
    | error fault => rfl
    | ok p =>
      obtain ⟨more, start⟩ := p
      cases more with
      | false =>
        simp only [bind, Except.bind, Bool.false_eq_true, if_false]
        cases closeList start <;> rfl
      | true =>
        simp only [bind, Except.bind, if_true]
        rw [mapRead]
        cases item start with
        | error fault => rfl
        | ok q =>
          simp only [Except.map, ih]
          rw [mapRead]
          cases items item fuel false q.2 <;> rfl

theorem members_mapRead (f : α → β) (value : Reader α) (fuel : Nat) (first : Bool)
    (bytes : List UInt8) :
    members (mapRead f value) fuel first bytes =
      mapRead (List.map fun m => (m.1, f m.2)) (members value fuel first) bytes := by
  induction fuel generalizing first bytes with
  | zero => rfl
  | succ fuel ih =>
    rw [mapRead, members, members]
    cases anotherMember first bytes with
    | error fault => rfl
    | ok p =>
      obtain ⟨more, start⟩ := p
      cases more with
      | false =>
        simp only [bind, Except.bind, Bool.false_eq_true, if_false]
        cases closeObject start <;> rfl
      | true =>
        simp only [bind, Except.bind, if_true]
        cases string start with
        | error fault => rfl
        | ok q =>
          dsimp only
          cases colon q.2 with
          | error fault => rfl
          | ok c =>
            dsimp only
            rw [mapRead]
            cases value c.2 with
            | error fault => rfl
            | ok v =>
              simp only [Except.map, ih]
              rw [mapRead]
              cases members value fuel false v.2 <;> rfl

section Parts

variable {bytes start : List UInt8}

theorem asWritten_of_list (hb : skipBlanks bytes = byte '[' :: start) (depth : Nat) :
    asWritten (depth + 1) bytes =
      mapRead array (items (asWritten depth) bytes.length true) start := by
  rw [asWritten.eq_def, hb]
  rfl

theorem asWritten_of_object (hb : skipBlanks bytes = byte '\x7b' :: start) (depth : Nat) :
    asWritten (depth + 1) bytes =
      mapRead object (members (asWritten depth) bytes.length true) start := by
  rw [asWritten.eq_def, hb]
  rfl

theorem tooDeep_of_bracket {b : UInt8} (hb : skipBlanks bytes = b :: start)
    (h : b = byte '[' ∨ b = byte '\x7b') :
    value 0 bytes = .error .tooDeep ∧ asWritten 0 bytes = .error .tooDeep := by
  rw [value.eq_def, asWritten.eq_def, hb]
  rcases h with rfl | rfl <;> exact ⟨rfl, rfl⟩

theorem value_of_ne_brackets {b : UInt8} (hb : skipBlanks bytes = b :: start)
    (hlist : b ≠ byte '[') (hobject : b ≠ byte '\x7b') (depth : Nat) :
    value depth bytes = value 0 bytes ∧ asWritten depth bytes = value 0 bytes := by
  constructor
  · rw [value.eq_def, value.eq_def, hb]
    simp only [if_neg hlist, if_neg hobject]
  · rw [asWritten.eq_def, hb]
    simp only [if_neg hlist, if_neg hobject]

end Parts

theorem mapRead_of_eq {whole : Reader β} {part : Reader α} {f : α → β} {bytes start : List UInt8}
    (h : whole bytes = mapRead f part start) (g : β → γ) :
    mapRead g whole bytes = mapRead (g ∘ f) part start := by
  rw [mapRead, h, mapRead, mapRead]
  cases part start <;> rfl

theorem mapRead_inOrder_value (bytes : List UInt8) :
    mapRead inOrder (value 0) bytes = value 0 bytes := by
  rw [mapRead]
  cases h : value 0 bytes with
  | error fault => rfl
  | ok p =>
    obtain ⟨v, rest⟩ := p
    have hsame : v.inOrder = v := by cases reading_of_value h <;> rfl
    simp only [Except.map, hsame]

theorem inOrder_comp_array : inOrder ∘ array = array ∘ List.map inOrder := by
  funext xs
  rw [Function.comp_apply, inOrder, inOrderItems_eq]
  rfl

theorem inOrder_comp_object :
    inOrder ∘ object = ofMembers ∘ List.map fun m => (m.1, m.2.inOrder) := by
  funext ms
  rw [Function.comp_apply, inOrder, inOrderMembers_eq]
  rfl

/-- What is read of a text is what is written there, put in order. -/
theorem value_eq_mapRead_asWritten (depth : Nat) :
    value depth = mapRead inOrder (asWritten depth) := by
  -- The induction is on the depth; the parts of a list or an object are read one level less deep.
  induction depth with
  | zero =>
    funext bytes
    cases hb : skipBlanks bytes with
    | nil =>
      rw [mapRead, value.eq_def, asWritten.eq_def, hb]
      rfl
    | cons b start =>
      by_cases hbracket : b = byte '[' ∨ b = byte '\x7b'
      · obtain ⟨hvalue, hwritten⟩ := tooDeep_of_bracket hb hbracket
        rw [mapRead, hvalue, hwritten]
        rfl
      · obtain ⟨hlist, hobject⟩ := not_or.mp hbracket
        rw [mapRead, (value_of_ne_brackets hb hlist hobject 0).2, ← mapRead, mapRead_inOrder_value]
  | succ depth ih =>
    funext bytes
    cases hb : skipBlanks bytes with
    | nil =>
      rw [mapRead, value.eq_def, asWritten.eq_def, hb]
      rfl
    | cons b start =>
      by_cases hlist : b = byte '['
      · rw [hlist] at hb
        rw [mapRead_of_eq (asWritten_of_list hb depth), inOrder_comp_array, value_list hb, ih]
        exact mapRead_of_eq (items_mapRead inOrder _ _ _ start) array
      by_cases hobject : b = byte '\x7b'
      · rw [hobject] at hb
        rw [mapRead_of_eq (asWritten_of_object hb depth), inOrder_comp_object, value_object hb, ih]
        exact mapRead_of_eq (members_mapRead inOrder _ _ _ start) ofMembers
      · obtain ⟨hvalue, hwritten⟩ := value_of_ne_brackets hb hlist hobject (depth + 1)
        rw [mapRead, hwritten, hvalue, ← mapRead, mapRead_inOrder_value]

/-! ### Readings of parts -/

theorem asWritten_cases {depth : Nat} {bytes rest : List UInt8} {v : Json}
    (h : asWritten depth bytes = .ok (v, rest)) :
    (∃ inner start xs, depth = inner + 1 ∧ skipBlanks bytes = byte '[' :: start ∧
        items (asWritten inner) bytes.length true start = .ok (xs, rest) ∧ v = array xs) ∨
      (∃ inner start ms, depth = inner + 1 ∧ skipBlanks bytes = byte '\x7b' :: start ∧
        members (asWritten inner) bytes.length true start = .ok (ms, rest) ∧ v = object ms) ∨
      Reading 0 bytes v rest := by
  rw [asWritten.eq_def] at h
  split at h
  · cases h
  rename_i b start hb
  split at h
  · rename_i hopen
    split at h
    · cases h
    · rename_i inner
      obtain ⟨⟨xs, rest'⟩, hitems, h⟩ := exists_of_map_eq_ok h
      cases h
      exact .inl ⟨inner, start, xs, rfl, hopen ▸ hb, hitems, rfl⟩
  split at h
  · rename_i hopen
    split at h
    · cases h
    · rename_i inner
      obtain ⟨⟨ms, rest'⟩, hmembers, h⟩ := exists_of_map_eq_ok h
      cases h
      exact .inr (.inl ⟨inner, start, ms, rfl, hopen ▸ hb, hmembers, rfl⟩)
  · exact .inr (.inr (reading_of_value h))

/-- A value that is written anywhere is passed over. -/
theorem skips_asWritten (depth : Nat) : Skips (asWritten depth) := by
  induction depth with
  | zero =>
    intro bytes rest v h
    obtain ⟨inner, _, _, hinner, -⟩ | ⟨inner, _, _, hinner, -⟩ | hreading := asWritten_cases h
    · cases hinner
    · cases hinner
    · exact hreading.passedOver
  | succ depth ih =>
    intro bytes rest v h
    obtain ⟨inner, start, xs, hinner, hb, hitems, -⟩ |
      ⟨inner, start, ms, hinner, hb, hmembers, -⟩ | hreading := asWritten_cases h
    · cases hinner
      exact @passedOver_enclosed .list _ _ _ hb (entries_of_items ih hitems)
    · cases hinner
      exact @passedOver_enclosed .object _ _ _ hb (entries_of_members ih hmembers)
    · exact hreading.passedOver

section Inversion

variable {depth : Nat} {bytes rest : List UInt8}

theorem exists_list_of_asWritten {xs : List Json}
    (h : asWritten depth bytes = .ok (array xs, rest)) :
    ∃ inner start, skipBlanks bytes = byte '[' :: start ∧
      items (asWritten inner) bytes.length true start = .ok (xs, rest) := by
  obtain ⟨inner, start, xs', -, hb, hitems, hv⟩ | ⟨inner, start, ms, -, -, -, hv⟩ | hreading :=
    asWritten_cases h
  · cases hv
    exact ⟨inner, start, hb, hitems⟩
  · cases hv
  · cases hreading

theorem exists_object_of_asWritten {ms : List (String × Json)}
    (h : asWritten depth bytes = .ok (object ms, rest)) :
    ∃ inner start, skipBlanks bytes = byte '\x7b' :: start ∧
      members (asWritten inner) bytes.length true start = .ok (ms, rest) := by
  obtain ⟨inner, start, xs, -, -, -, hv⟩ | ⟨inner, start, ms', -, hb, hmembers, hv⟩ | hreading :=
    asWritten_cases h
  · cases hv
  · cases hv
    exact ⟨inner, start, hb, hmembers⟩
  · cases hreading

/-- What is neither a list nor an object is read as it is written. -/
theorem reading_of_asWritten {v : Json} (h : asWritten depth bytes = .ok (v, rest))
    (hlist : ∀ xs, v ≠ array xs) (hobject : ∀ ms, v ≠ object ms) : Reading 0 bytes v rest := by
  obtain ⟨_, _, xs, -, -, -, hv⟩ | ⟨_, _, ms, -, -, -, hv⟩ | hreading := asWritten_cases h
  · exact absurd hv (hlist xs)
  · exact absurd hv (hobject ms)
  · exact hreading

end Inversion

/-! ### Compact texts -/

/-- What is neither a list nor an object is read back as it is written. -/
theorem asWritten_of_reading {bytes rest : List UInt8} {v : Json} (h : Reading 0 bytes v rest)
    (depth : Nat) : asWritten depth bytes = .ok (v, rest) := by
  have hvalue := h.value_eq
  cases hb : skipBlanks bytes with
  | nil =>
    rw [value.eq_def, hb] at hvalue
    cases hvalue
  | cons b start =>
    have hbracket : ¬ (b = byte '[' ∨ b = byte '\x7b') := by
      intro hbracket
      rw [(tooDeep_of_bracket hb hbracket).1] at hvalue
      cases hvalue
    obtain ⟨hlist, hobject⟩ := not_or.mp hbracket
    rw [(value_of_ne_brackets hb hlist hobject depth).2, hvalue]

theorem reads_asWritten_string (depth : Nat) (s : String) :
    Reads (asWritten depth) (Json.string s).write (.string s) := by
  intro rest _
  obtain ⟨bytes, hbytes, hstring⟩ := string_quote s rest
  rw [write, hbytes]
  exact asWritten_of_reading (.string (skipBlanks_cons (by decide) bytes) hstring) depth

theorem reads_asWritten_bool (depth : Nat) (b : Bool) :
    Reads (asWritten depth) (Json.bool b).write (.bool b) := by
  intro rest _
  cases b with
  | true =>
    rw [write]
    exact asWritten_of_reading (.yes (skipBlanks_cons (by decide) _) rfl) depth
  | false =>
    rw [write]
    exact asWritten_of_reading (.no (skipBlanks_cons (by decide) _) rfl) depth

theorem reads_asWritten_array {depth : Nat} {xs : List Json}
    (hxs : ∀ x ∈ xs, Reads (asWritten depth) x.write x) :
    Reads (asWritten (depth + 1)) (array xs).write (array xs) := by
  intro rest _
  rw [write, Utf8.encode_enclosed (by decide) (by decide),
    asWritten_of_list (skipBlanks_cons (by decide) _), mapRead,
    items_write (List.forall₂_same.mpr hxs) (length_lt_of_items xs rest) rest]
  rfl

theorem reads_asWritten_object {depth : Nat} {ms : List (String × Json)}
    (hms : ∀ m ∈ ms, Reads (asWritten depth) m.2.write m.2) :
    Reads (asWritten (depth + 1)) (object ms).write (object ms) := by
  intro rest _
  rw [write, Utf8.encode_enclosed (by decide) (by decide),
    asWritten_of_object (skipBlanks_cons (by decide) _), mapRead,
    members_write hms (length_lt_of_members ms rest) rest]
  rfl

end Read

end ChatRelay.Json
