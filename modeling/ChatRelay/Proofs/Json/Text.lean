import ChatRelay.Json.Printer

/-!
The characters of compact JSON texts. No text holds a control character, and its first character
tells what kind of value it is.
-/

namespace ChatRelay.Number

def isNumeral (c : Char) : Bool := c.isDigit || c ∈ ['-', '+', '.', 'e']

/-- A numeral without a sign: a digit and further characters of numbers. -/
def Unsigned (cs : List Char) : Prop :=
  ∃ c rest, cs = c :: rest ∧ c.isDigit = true ∧ ∀ d ∈ rest, isNumeral d = true

theorem isNumeral_of_isDigit {c : Char} (h : c.isDigit = true) : isNumeral c = true := by
  rw [isNumeral, h, Bool.true_or]

theorem unsigned_cons {c : Char} {rest : List Char} (hc : c.isDigit = true)
    (hrest : ∀ d ∈ rest, isNumeral d = true) : Unsigned (c :: rest) :=
  ⟨c, rest, rfl, hc, hrest⟩

theorem unsigned_of_digits {cs : List Char} (hne : cs ≠ [])
    (hcs : ∀ c ∈ cs, c.isDigit = true) : Unsigned cs := by
  cases cs with
  | nil => exact absurd rfl hne
  | cons c rest =>
    apply unsigned_cons (hcs c List.mem_cons_self)
    intro d hd
    exact isNumeral_of_isDigit (hcs d (List.mem_cons_of_mem c hd))

theorem Unsigned.append {cs more : List Char} (hcs : Unsigned cs)
    (hmore : ∀ d ∈ more, isNumeral d = true) : Unsigned (cs ++ more) := by
  obtain ⟨c, rest, rfl, hc, hrest⟩ := hcs
  apply unsigned_cons hc
  intro d hd
  exact (List.mem_append.mp hd).elim (hrest d) (hmore d)

theorem isDigit_of_mem_toDigits {n : Nat} {c : Char} (h : c ∈ Nat.toDigits 10 n) :
    c.isDigit = true :=
  Nat.isDigit_of_mem_toDigits (by omega) (by omega) h

theorem unsigned_toDigits (n : Nat) : Unsigned (Nat.toDigits 10 n) :=
  unsigned_of_digits Nat.toDigits_ne_nil fun _ h => isDigit_of_mem_toDigits h

theorem scientific_digits (d : Decimal) :
    d.scientific.1 ≠ [] ∧ ∀ c ∈ d.scientific.1, c.isDigit = true := by
  simp only [Decimal.scientific]
  split
  · exact ⟨List.cons_ne_nil _ _, fun c hc => by rw [List.mem_singleton.mp hc]; rfl⟩
  · rename_i hkept
    refine ⟨fun h => hkept (by rw [h]; rfl), ?_⟩
    intro c hc
    have hall := (List.dropWhile_sublist _).mem (List.mem_reverse.mp hc)
    exact isDigit_of_mem_toDigits (List.mem_reverse.mp hall)

theorem isNumeral_of_mem_replicate {n : Nat} {c : Char} (h : c ∈ List.replicate n '0') :
    isNumeral c = true := by
  rw [List.eq_of_mem_replicate h]
  rfl

theorem unsigned_positional {digits : List Char} (hne : digits ≠ [])
    (hdigits : ∀ c ∈ digits, c.isDigit = true) (n : Int) : Unsigned (positional digits n) := by
  have hnumeral : ∀ c ∈ digits, isNumeral c = true := fun c hc =>
    isNumeral_of_isDigit (hdigits c hc)
  have hzero : ∀ c ∈ ['.', '0'], isNumeral c = true := List.all_eq_true.mp rfl
  -- The point stands before all digits, behind all of them, or between two.
  unfold positional
  split
  · apply Unsigned.append (Unsigned.append ?_ fun c => isNumeral_of_mem_replicate) hnumeral
    exact unsigned_cons rfl (List.all_eq_true.mp rfl)
  · dsimp only
    split
    · exact ((unsigned_of_digits hne hdigits).append fun c => isNumeral_of_mem_replicate).append
        hzero
    · rename_i hn hshort
      have htake : digits.take n.toNat ≠ [] := fun h =>
        (List.take_eq_nil_iff.mp h).elim (by omega) hne
      apply Unsigned.append (Unsigned.append ?_ (List.all_eq_true.mp rfl))
      · exact fun c hc => hnumeral c (List.mem_of_mem_drop hc)
      · exact unsigned_of_digits htake fun c hc => hdigits c (List.mem_of_mem_take hc)

-- A digit, a point and the other digits if there are any, and an exponent with its sign.
theorem unsigned_exponential {digits : List Char} (hne : digits ≠ [])
    (hdigits : ∀ c ∈ digits, c.isDigit = true) (exponent : Int) :
    Unsigned (digits.take 1 ++ (if digits.length ≤ 1 then [] else '.' :: digits.drop 1) ++ ['e'] ++
      (if exponent < 0 then ['-'] else ['+']) ++ Nat.toDigits 10 exponent.natAbs) := by
  have htake : digits.take 1 ≠ [] := fun h =>
    (List.take_eq_nil_iff.mp h).elim (by omega) hne
  have hfirst : Unsigned (digits.take 1) :=
    unsigned_of_digits htake fun c hc => hdigits c (List.mem_of_mem_take hc)
  have hfraction : ∀ c ∈ (if digits.length ≤ 1 then [] else '.' :: digits.drop 1),
      isNumeral c = true := by
    intro c hc
    split at hc
    · cases hc
    · rcases List.mem_cons.mp hc with rfl | hc
      · rfl
      · exact isNumeral_of_isDigit (hdigits c (List.mem_of_mem_drop hc))
  have hletter : ∀ c ∈ ['e'], isNumeral c = true := List.all_eq_true.mp rfl
  have hsign : ∀ c ∈ (if exponent < 0 then ['-'] else ['+']), isNumeral c = true := by
    split <;> exact List.all_eq_true.mp rfl
  apply (((hfirst.append hfraction).append hletter).append hsign).append
  intro c hc
  exact isNumeral_of_isDigit (isDigit_of_mem_toDigits hc)

/-- A double is written as an unsigned numeral, with a minus before it if it is negative. -/
theorem write_double (format : RealFormat) (x : Double) : ∃ body, Unsigned body ∧
    x.write format = if x.negative then '-' :: body else body := by
  obtain ⟨digits, exponent, hpair, hne, hdigits⟩ : ∃ digits exponent,
      (if x.mantissa = 0 then (['0'], 0) else x.shortest.scientific) = (digits, exponent) ∧
        digits ≠ [] ∧ ∀ c ∈ digits, c.isDigit = true := by
    by_cases hm : x.mantissa = 0
    · exact ⟨['0'], 0, if_pos hm, List.cons_ne_nil _ _, List.all_eq_true.mp rfl⟩
    · exact ⟨_, _, if_neg hm, scientific_digits _⟩
  -- How large the exponent is decides which of the two forms is written.
  refine ⟨_, ?_, by simp only [Double.write, hpair]; rfl⟩
  split
  · exact unsigned_positional hne hdigits _
  · exact unsigned_exponential hne hdigits _

end ChatRelay.Number

namespace ChatRelay.Json

/-! ### Lists and objects -/

def writeMember (m : String × Json) : List Char := quote m.1 ++ ':' :: m.2.write

theorem intercalate_cons (sep x : List Char) (xs : List (List Char)) :
    sep.intercalate (x :: xs) = x ++ xs.flatMap (sep ++ ·) := by
  induction xs generalizing x with
  | nil => rw [List.intercalate_singleton, List.flatMap_nil, List.append_nil]
  | cons y ys ih =>
    rw [List.intercalate_cons_cons, ih, List.flatMap_cons, List.append_assoc, List.append_assoc]

theorem writeItems_eq (items : List Json) :
    writeItems items = [','].intercalate (items.map write) := by
  induction items with
  | nil => rw [writeItems]; rfl
  | cons item items ih =>
    cases items with
    | nil => rw [writeItems, List.map_singleton, List.intercalate_singleton]
    | cons next items =>
      rw [writeItems.eq_3 _ _ (List.cons_ne_nil _ _), ih]
      simp only [List.map_cons, List.intercalate_cons_cons, List.append_assoc, List.cons_append,
        List.nil_append]

theorem writeMembers_eq (members : List (String × Json)) :
    writeMembers members = [','].intercalate (members.map writeMember) := by
  induction members with
  | nil => rw [writeMembers]; rfl
  | cons m members ih =>
    obtain ⟨key, value⟩ := m
    cases members with
    | nil => rw [writeMembers, List.map_singleton, List.intercalate_singleton]; rfl
    | cons next members =>
      rw [writeMembers.eq_3 _ _ _ (List.cons_ne_nil _ _), ih]
      simp only [List.map_cons, List.intercalate_cons_cons, writeMember, List.append_assoc,
        List.cons_append, List.nil_append]

theorem writeRecord_write (fields : List (String × Json)) :
    writeRecord (fields.map fun (key, v) => (key, v.write)) = (object fields).write := by
  rw [write, writeMembers_eq, writeRecord, List.map_map]
  rfl

/-! ### The first character -/

def StartsNumber (c : Char) : Prop := c = '-' ∨ c.isDigit = true

def StartsValue (c : Char) : Prop := c ∈ ['n', 't', 'f', '"', '[', '\x7b'] ∨ StartsNumber c

theorem exists_write_number (n : Number) : ∃ c rest, n.write = c :: rest ∧ StartsNumber c ∧
    ∀ d ∈ rest, Number.isNumeral d = true := by
  -- An integer and a double are both an unsigned numeral behind a minus or alone.
  obtain ⟨body, ⟨c, rest, rfl, hc, hrest⟩, hn | hn⟩ : ∃ body, Number.Unsigned body ∧
      (n.write = body ∨ n.write = '-' :: body) := by
    cases n with
    | int n =>
      rw [Number.write, Int.toString_eq_repr, Int.repr_eq_if]
      split
      · exact ⟨_, Number.unsigned_toDigits _, .inl Nat.toList_repr⟩
      · refine ⟨_, Number.unsigned_toDigits (-n).toNat, .inr ?_⟩
        rw [String.toList_append, Nat.toList_repr]
        rfl
    | real x =>
      obtain ⟨body, hbody, hx⟩ := Number.write_double .json x
      rw [Number.write, hx]
      split
      · exact ⟨body, hbody, .inr rfl⟩
      · exact ⟨body, hbody, .inl rfl⟩
  · exact ⟨c, rest, hn, .inr hc, hrest⟩
  · refine ⟨'-', c :: rest, hn, .inl rfl, ?_⟩
    intro d hd
    rcases List.mem_cons.mp hd with rfl | hd
    · exact Number.isNumeral_of_isDigit hc
    · exact hrest d hd

theorem exists_write (v : Json) : ∃ c rest, v.write = c :: rest ∧ StartsValue c := by
  cases v with
  | null => exact ⟨_, _, by rw [write], .inl (by decide)⟩
  | bool b => cases b <;> exact ⟨_, _, by rw [write], .inl (by decide)⟩
  | number n =>
    obtain ⟨c, rest, hn, hc, -⟩ := exists_write_number n
    exact ⟨c, rest, by rw [write, hn], .inr hc⟩
  | string s => exact ⟨_, _, by rw [write, quote, List.cons_append], .inl (by decide)⟩
  | array items => exact ⟨_, _, by rw [write, List.cons_append], .inl (by decide)⟩
  | object members => exact ⟨_, _, by rw [write, List.cons_append], .inl (by decide)⟩

/-! ### Printable characters -/

theorem printable_of_isNumeral {c : Char} (h : Number.isNumeral c = true) : 0x20 ≤ c.toNat := by
  rcases Bool.or_eq_true_iff.mp h with hd | hs
  · simp only [Char.isDigit, Bool.and_eq_true, decide_eq_true_eq] at hd
    have hle : (0x30 : Nat) ≤ c.toNat := hd.1
    omega
  · have hmem := of_decide_eq_true hs
    simp only [List.mem_cons, List.not_mem_nil, or_false] at hmem
    rcases hmem with rfl | rfl | rfl | rfl <;> decide

theorem printable_of_all {cs : List Char} (h : cs.all (0x20 ≤ ·.toNat) = true) :
    ∀ c ∈ cs, 0x20 ≤ c.toNat := by
  intro c hc
  exact of_decide_eq_true (List.all_eq_true.mp h c hc)

theorem printable_hexDigit : ∀ n < 16, 0x20 ≤ (hexDigit n).toNat := by decide

/-- The letters that stand behind a backslash, each with the character that it stands for. -/
def letterEscapes : List (Char × Char) :=
  [('"', '"'), ('\\', '\\'), ('n', '\n'), ('r', '\r'), ('t', '\t'), ('b', '\x08'), ('f', '\x0C')]

/-- A character is escaped by a letter or by its number, or it stands for itself. -/
theorem escape_cases (c : Char) :
    (∃ e, (e, c) ∈ letterEscapes ∧ escape c = ['\\', e]) ∨
      (c.toNat < 0x20 ∧ escape c =
        ['\\', 'u', '0', '0', hexDigit (c.toNat / 16), hexDigit (c.toNat % 16)]) ∨
      (0x20 ≤ c.toNat ∧ c ≠ '"' ∧ c ≠ '\\' ∧ escape c = [c]) := by
  unfold escape
  split
  · rename_i h
    exact .inl ⟨'"', by rw [h]; decide, rfl⟩
  split
  · rename_i h
    exact .inl ⟨'\\', by rw [h]; decide, rfl⟩
  split
  · rename_i h
    exact .inl ⟨'n', by rw [h]; decide, rfl⟩
  split
  · rename_i h
    exact .inl ⟨'r', by rw [h]; decide, rfl⟩
  split
  · rename_i h
    exact .inl ⟨'t', by rw [h]; decide, rfl⟩
  split
  · rename_i h
    have hc : c = '\x08' := Char.toNat_inj.mp h
    exact .inl ⟨'b', by rw [hc]; decide, rfl⟩
  split
  · rename_i h
    have hc : c = '\x0C' := Char.toNat_inj.mp h
    exact .inl ⟨'f', by rw [hc]; decide, rfl⟩
  split
  · rename_i h
    exact .inr (.inl ⟨h, rfl⟩)
  · rename_i hquote hslash _ _ _ _ _ hcontrol
    exact .inr (.inr ⟨Nat.le_of_not_lt hcontrol, hquote, hslash, rfl⟩)

theorem printable_escape {c d : Char} (h : d ∈ escape c) : 0x20 ≤ d.toNat := by
  rcases escape_cases c with ⟨e, he, hescape⟩ | ⟨hc, hescape⟩ | ⟨hc, -, -, hescape⟩
  · have hletters : ∀ p ∈ letterEscapes, 0x20 ≤ p.1.toNat := fun p hp =>
      of_decide_eq_true (List.all_eq_true.mp (rfl : letterEscapes.all (0x20 ≤ ·.1.toNat)) p hp)
    simp only [hescape, List.mem_cons, List.not_mem_nil, or_false] at h
    rcases h with rfl | rfl
    · decide
    · exact hletters _ he
  · have hhigh := printable_hexDigit (c.toNat / 16) (by omega)
    have hlow := printable_hexDigit (c.toNat % 16) (by omega)
    simp only [hescape, List.mem_cons, List.not_mem_nil, or_false] at h
    rcases h with rfl | rfl | rfl | rfl | rfl | rfl
    · decide
    · decide
    · decide
    · decide
    · exact hhigh
    · exact hlow
  · rw [hescape, List.mem_singleton] at h
    rwa [h]

theorem printable_quote {s : String} {c : Char} (h : c ∈ quote s) : 0x20 ≤ c.toNat := by
  simp only [quote, List.cons_append, List.mem_cons, List.mem_append, List.mem_flatMap,
    List.not_mem_nil, or_false] at h
  rcases h with rfl | ⟨d, -, hd⟩ | rfl
  · decide
  · exact printable_escape hd
  · decide

theorem printable_write_number {n : Number} {c : Char} (h : c ∈ n.write) : 0x20 ≤ c.toNat := by
  obtain ⟨d, rest, hn, hd, hrest⟩ := exists_write_number n
  rw [hn] at h
  rcases List.mem_cons.mp h with rfl | h
  · rcases hd with rfl | hd
    · decide
    · exact printable_of_isNumeral (Number.isNumeral_of_isDigit hd)
  · exact printable_of_isNumeral (hrest c h)

theorem printable_intercalate {xs : List (List Char)}
    (h : ∀ x ∈ xs, ∀ c ∈ x, 0x20 ≤ c.toNat) : ∀ c ∈ [','].intercalate xs, 0x20 ≤ c.toNat := by
  intro c hc
  cases xs with
  | nil => cases hc
  | cons x xs =>
    rw [intercalate_cons, List.mem_append, List.mem_flatMap] at hc
    rcases hc with hc | ⟨y, hy, hc⟩
    · exact h x List.mem_cons_self c hc
    · rcases List.mem_cons.mp hc with rfl | hc
      · decide
      · exact h y (List.mem_cons_of_mem x hy) c hc

mutual

/-- No control character stands in the text of a value. -/
theorem printable_write (v : Json) : ∀ c ∈ v.write, 0x20 ≤ c.toNat := by
  cases v with
  | null => rw [write]; exact printable_of_all rfl
  | bool b => cases b <;> (rw [write]; exact printable_of_all rfl)
  | number n => rw [write]; exact fun c => printable_write_number
  | string s => rw [write]; exact fun c => printable_quote
  | array items =>
    intro c hc
    rw [write, writeItems_eq, List.cons_append, List.mem_cons, List.mem_append,
      List.mem_singleton] at hc
    rcases hc with rfl | hc | rfl
    · decide
    · -- The two brackets are printable, and so are the commas between the items.
      apply printable_intercalate ?_ c hc
      exact List.forall_mem_map.mpr (printable_items items)
    · decide
  | object members =>
    intro c hc
    rw [write, writeMembers_eq, List.cons_append, List.mem_cons, List.mem_append,
      List.mem_singleton] at hc
    rcases hc with rfl | hc | rfl
    · decide
    · apply printable_intercalate ?_ c hc
      exact List.forall_mem_map.mpr (printable_members members)
    · decide

theorem printable_items (items : List Json) : ∀ v ∈ items, ∀ c ∈ v.write, 0x20 ≤ c.toNat := by
  cases items with
  | nil => exact fun v hv => absurd hv List.not_mem_nil
  | cons item items =>
    exact List.forall_mem_cons.mpr ⟨printable_write item, printable_items items⟩

theorem printable_members (members : List (String × Json)) :
    ∀ m ∈ members, ∀ c ∈ writeMember m, 0x20 ≤ c.toNat := by
  cases members with
  | nil => exact fun m hm => absurd hm List.not_mem_nil
  | cons m members =>
    refine List.forall_mem_cons.mpr ⟨?_, printable_members members⟩
    intro c hc
    rw [writeMember, List.mem_append, List.mem_cons] at hc
    rcases hc with hc | rfl | hc
    · exact printable_quote hc
    · decide
    · exact printable_write m.2 c hc

end

end ChatRelay.Json
