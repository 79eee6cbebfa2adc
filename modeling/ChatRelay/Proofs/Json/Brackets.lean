import ChatRelay.Proofs.Json.Reading
import ChatRelay.Proofs.Json.Skipping

/-!
Passing over a value. Whatever the value is, its text is passed over as a whole and not one byte
more, with fuel to spare: each step takes a byte at least, and a bracket two steps.
-/

namespace ChatRelay.Json.Read

/-! ### Values -/

/-- A value is passed over in so many steps that the fuel for it lasts, whatever is open around
it. -/
def PassedOver (bytes rest : List UInt8) : Prop :=
  ∃ steps, steps + 2 * rest.length < 2 * bytes.length ∧
    ∀ (fuel : Nat) (fresh : Bool) (brackets : List Bracket),
      skipOpen (steps + fuel) true fresh brackets bytes = skipOpen fuel false false brackets rest

theorem PassedOver.skipValue_eq {bytes rest : List UInt8} (h : PassedOver bytes rest) :
    skipValue bytes = .ok ((), rest) := by
  obtain ⟨steps, hsteps, hskip⟩ := h
  obtain ⟨fuel, hfuel⟩ : ∃ fuel, 2 * bytes.length + 2 = steps + (fuel + 1) :=
    ⟨2 * bytes.length + 1 - steps, by omega⟩
  rw [skipValue, hfuel, hskip]
  rfl

theorem passedOver_step {bytes rest : List UInt8} (hlength : rest.length < bytes.length)
    (hstep : ∀ (fuel : Nat) (fresh : Bool) (brackets : List Bracket),
      skipOpen (fuel + 1) true fresh brackets bytes = skipOpen fuel false false brackets rest) :
    PassedOver bytes rest := by
  refine ⟨1, by omega, ?_⟩
  intro fuel fresh brackets
  rw [Nat.add_comm]
  exact hstep fuel fresh brackets

section Scalar

variable {bytes start rest : List UInt8}

theorem passedOver_name {first : Char} {cs : List Char}
    (h : (first, cs) ∈
      [('n', ['u', 'l', 'l']), ('t', ['r', 'u', 'e']), ('f', ['a', 'l', 's', 'e'])])
    (hb : skipBlanks bytes = byte first :: start) (hname : name cs start = .ok ((), rest)) :
    PassedOver bytes rest := by
  apply passedOver_step ((length_of_name hname).trans_lt (length_of_skipBlanks hb))
  intro fuel fresh brackets
  simp only [List.mem_cons, Prod.mk.injEq, List.not_mem_nil, or_false] at h
  rcases h with ⟨rfl, rfl⟩ | ⟨rfl, rfl⟩ | ⟨rfl, rfl⟩
  all_goals
    rw [skipOpen, hb]
    simp only [hname]
    rfl

theorem passedOver_digit {b : UInt8} (digit : isDigit b = true) (hb : skipBlanks bytes = b :: start)
    (hnumber : skipNumber (b :: start) = .ok ((), rest)) : PassedOver bytes rest := by
  obtain ⟨hn, ht, hf, hminus⟩ := ne_byte_of_isDigit digit
  apply passedOver_step ((length_of_skipNumber hnumber).trans_le (length_of_skipBlanks hb))
  intro fuel fresh brackets
  rw [skipOpen, hb]
  simp only [if_neg hn, if_neg ht, if_neg hf, if_neg hminus, if_pos digit, hnumber]
  rfl

theorem passedOver_minus (hb : skipBlanks bytes = byte '-' :: start)
    (hnumber : skipNumber start = .ok ((), rest)) : PassedOver bytes rest := by
  apply passedOver_step ((length_of_skipNumber hnumber).trans (length_of_skipBlanks hb))
  intro fuel fresh brackets
  rw [skipOpen, hb]
  simp only [hnumber]
  rfl

theorem passedOver_string (hb : skipBlanks bytes = byte '"' :: start)
    (hstring : skipString start = .ok ((), rest)) : PassedOver bytes rest := by
  apply passedOver_step ((length_of_skipString hstring).trans (length_of_skipBlanks hb))
  intro fuel fresh brackets
  rw [skipOpen, hb]
  simp only [hstring]
  rfl

end Scalar

/-! ### Lists and objects -/

namespace Bracket

def opening : Bracket → Char
  | list => '['
  | object => '\x7b'

def closing : Bracket → Char
  | list => ']'
  | object => '\x7d'

/-- One step passes over what stands before the value of an entry: the comma before an entry that
is not the first, and the key of a member. -/
def Enters (bracket : Bracket) (first : Bool) (bytes start : List UInt8) : Prop :=
  start.length ≤ bytes.length ∧ ∀ (fuel : Nat) (outer : List Bracket),
    skipOpen (fuel + 1) false first (bracket :: outer) bytes =
      skipOpen fuel true false (bracket :: outer) start

/-- The entries of a list or an object up to its closing bracket, their values passed over. -/
inductive Entries (bracket : Bracket) : Bool → List UInt8 → List UInt8 → Prop where
  | close {first : Bool} {bytes rest : List UInt8}
      (hb : skipBlanks bytes = byte bracket.closing :: rest) : Entries bracket first bytes rest
  | more {first : Bool} {bytes start later rest : List UInt8}
      (henter : bracket.Enters first bytes start) (hvalue : PassedOver start later)
      (hlater : Entries bracket false later rest) : Entries bracket first bytes rest

theorem skipOpen_opening {bracket : Bracket} {bytes start : List UInt8}
    (hb : skipBlanks bytes = byte bracket.opening :: start) (fuel : Nat) (fresh : Bool)
    (brackets : List Bracket) :
    skipOpen (fuel + 1) true fresh brackets bytes =
      skipOpen fuel false true (bracket :: brackets) start := by
  cases bracket with
  | list =>
    rw [skipOpen, hb]
    rfl
  | object =>
    rw [skipOpen, hb]
    rfl

theorem skipOpen_closing {bracket : Bracket} {bytes rest : List UInt8}
    (hb : skipBlanks bytes = byte bracket.closing :: rest) (fuel : Nat) (first : Bool)
    (outer : List Bracket) :
    skipOpen (fuel + 1) false first (bracket :: outer) bytes =
      skipOpen fuel false false outer rest := by
  cases bracket with
  | list =>
    rw [skipOpen, hb]
    rfl
  | object =>
    rw [skipOpen, hb]
    rfl

theorem Entries.passedOver {bracket : Bracket} {first : Bool} {bytes rest : List UInt8}
    (h : bracket.Entries first bytes rest) :
    ∃ steps, steps + 2 * rest.length < 2 * bytes.length ∧
      ∀ (fuel : Nat) (outer : List Bracket),
        skipOpen (steps + fuel) false first (bracket :: outer) bytes =
          skipOpen fuel false false outer rest := by
  induction h with
  | close hb =>
    have hlength := length_of_skipBlanks hb
    refine ⟨1, by omega, ?_⟩
    intro fuel outer
    rw [Nat.add_comm]
    exact skipOpen_closing hb fuel _ outer
  | more henter hvalue _ ih =>
    -- One step up to the value, those for the value, and those for what stands behind it.
    obtain ⟨hlength, henter⟩ := henter
    obtain ⟨steps, hsteps, hvalue⟩ := hvalue
    obtain ⟨later, hlater, hrest⟩ := ih
    refine ⟨steps + later + 1, by omega, ?_⟩
    intro fuel outer
    have hsum : steps + later + 1 + fuel = steps + (later + fuel) + 1 := by omega
    rw [hsum, henter, hvalue]
    exact hrest fuel outer

end Bracket

/-- A list or an object is passed over if all that stands in it is. -/
theorem passedOver_enclosed {bracket : Bracket} {bytes start rest : List UInt8}
    (hb : skipBlanks bytes = byte bracket.opening :: start)
    (h : bracket.Entries true start rest) : PassedOver bytes rest := by
  obtain ⟨steps, hsteps, hskip⟩ := h.passedOver
  have hlength := length_of_skipBlanks hb
  refine ⟨steps + 1, by omega, ?_⟩
  intro fuel fresh brackets
  rw [Nat.add_right_comm, Bracket.skipOpen_opening hb]
  exact hskip fuel brackets

/-- Blanks before a value make no difference. -/
theorem skipOpen_congr {bytes bytes' : List UInt8} (h : skipBlanks bytes = skipBlanks bytes')
    (fuel : Nat) (fresh : Bool) (brackets : List Bracket) :
    skipOpen fuel true fresh brackets bytes = skipOpen fuel true fresh brackets bytes' := by
  cases fuel with
  | zero => rfl
  | succ fuel => rw [skipOpen, skipOpen, h]

theorem enters_item {first : Bool} {bytes start : List UInt8}
    (h : anotherItem first bytes = .ok (true, start)) : Bracket.list.Enters first bytes start := by
  rw [anotherItem] at h
  split at h
  · cases h
  rename_i b rest hb
  have hlength := length_of_skipBlanks hb
  split at h
  · cases h
  rename_i hclose
  split at h
  · rename_i hfirst
    cases h
    refine ⟨hlength, ?_⟩
    intro fuel outer
    rw [skipOpen, hb]
    simp [hclose, hfirst]
  rename_i hfirst
  split at h
  · rename_i hcomma
    split at h
    · cases h
    rename_i c later hlater
    split at h
    · cases h
    · cases h
      have hnext := length_of_skipBlanks hlater
      refine ⟨Nat.le_trans hnext hlength.le, ?_⟩
      intro fuel outer
      have hblank : isBlank c = false := not_blank_of_skipBlanks hlater
      rw [skipOpen, hb, skipOpen_congr ((skipBlanks_cons hblank later).trans hlater.symm)]
      simp [hfirst, hcomma, show byte ',' ≠ byte ']' by decide]
  · cases h

theorem skipKey_of_skipBlanks {bytes start afterKey afterColon : List UInt8}
    (hb : skipBlanks bytes = byte '"' :: start) (hkey : skipString start = .ok ((), afterKey))
    (hcolon : colon afterKey = .ok ((), afterColon)) : skipKey bytes = .ok ((), afterColon) := by
  rw [skipKey, hb]
  simp only [if_true, hkey]
  exact hcolon

theorem enters_member {first : Bool} {bytes start afterKey afterColon : List UInt8}
    (h : anotherMember first bytes = .ok (true, start))
    (hkey : skipString start = .ok ((), afterKey))
    (hcolon : colon afterKey = .ok ((), afterColon)) :
    Bracket.object.Enters first bytes afterColon := by
  have hstart : afterColon.length < start.length :=
    (length_of_colon hcolon).trans (length_of_skipString hkey)
  have hbrace : byte '"' ≠ byte '\x7d' := by decide
  have hcommaBrace : byte ',' ≠ byte '\x7d' := by decide
  rw [anotherMember] at h
  split at h
  · cases h
  rename_i b rest hb
  have hlength := length_of_skipBlanks hb
  split at h
  · cases h
  split at h
  · rename_i hfirst
    split at h
    · rename_i hquote
      cases h
      subst hquote
      have hskip : skipKey (byte '"' :: start) = .ok ((), afterColon) :=
        skipKey_of_skipBlanks (skipBlanks_cons (by decide) start) hkey hcolon
      refine ⟨(hstart.trans hlength).le, ?_⟩
      intro fuel outer
      rw [skipOpen, hb]
      simp only [reduceCtorEq, false_and, hbrace, and_false, or_self, if_false, hfirst,
        Bool.not_true, Bool.false_and, Bool.false_eq_true, if_true, hskip]
      rfl
    · cases h
  rename_i hfirst
  split at h
  · rename_i hcomma
    split at h
    · cases h
    rename_i c later hlater
    split at h
    · rename_i hquote
      cases h
      subst hquote hcomma
      have hskip := skipKey_of_skipBlanks hlater hkey hcolon
      have hnext := length_of_skipBlanks hlater
      refine ⟨(hstart.trans (hnext.trans hlength)).le, ?_⟩
      intro fuel outer
      rw [skipOpen, hb]
      simp only [reduceCtorEq, false_and, hcommaBrace, and_false, or_self, if_false, hfirst,
        ne_eq, not_true_eq_false, decide_false, Bool.and_false, Bool.false_eq_true, hskip]
      rfl
    · split at h <;> cases h
  · cases h

/-! ### Values that are read -/

/-- A reader that stops where the value that it reads is passed over. -/
def Skips (reader : Reader α) : Prop :=
  ∀ {bytes rest : List UInt8} {x : α}, reader bytes = .ok (x, rest) → PassedOver bytes rest

theorem skipString_of_string {bytes rest : List UInt8} {s : String}
    (h : string bytes = .ok (s, rest)) : skipString bytes = .ok ((), rest) := by
  obtain ⟨⟨content, rest'⟩, hcontent, h⟩ := exists_of_bind_eq_ok h
  dsimp only at h
  split at h
  · cases h
    exact skipString_of_stringBytes hcontent
  · cases h

theorem skipBlanks_of_closeList {bytes rest : List UInt8} (h : closeList bytes = .ok ((), rest)) :
    skipBlanks bytes = byte ']' :: rest := by
  rw [closeList] at h
  split at h
  · cases h
  rename_i b start hb
  split at h
  · rename_i hclose
    cases h
    rw [hb, hclose]
  · split at h <;> cases h

theorem skipBlanks_of_closeObject {bytes rest : List UInt8}
    (h : closeObject bytes = .ok ((), rest)) : skipBlanks bytes = byte '\x7d' :: rest := by
  rw [closeObject] at h
  split at h
  · cases h
  rename_i b start hb
  split at h
  · rename_i hclose
    cases h
    rw [hb, hclose]
  · split at h <;> cases h

theorem anotherItem_end {first : Bool} {bytes start : List UInt8}
    (h : anotherItem first bytes = .ok (false, start)) : skipBlanks bytes = start := by
  rw [anotherItem] at h
  split at h
  · cases h
  rename_i b rest hb
  split at h
  · cases h
    exact hb
  split at h
  · cases h
  split at h
  · split at h
    · cases h
    · split at h <;> cases h
  · cases h

theorem anotherMember_end {first : Bool} {bytes start : List UInt8}
    (h : anotherMember first bytes = .ok (false, start)) : skipBlanks bytes = start := by
  rw [anotherMember] at h
  split at h
  · cases h
  rename_i b rest hb
  split at h
  · cases h
    exact hb
  split at h
  · split at h <;> cases h
  split at h
  · split at h
    · cases h
    · split at h
      · cases h
      · split at h <;> cases h
  · cases h

theorem skipBlanks_skipBlanks (bytes : List UInt8) :
    skipBlanks (skipBlanks bytes) = skipBlanks bytes :=
  List.dropWhile_idempotent isBlank bytes

theorem entries_of_items {item : Reader α} (hitem : Skips item) {fuel : Nat} {first : Bool}
    {bytes rest : List UInt8} {xs : List α} (h : items item fuel first bytes = .ok (xs, rest)) :
    Bracket.list.Entries first bytes rest := by
  induction fuel generalizing first bytes xs with
  | zero => cases h
  | succ fuel ih =>
    obtain ⟨_, heq, ⟨start, hend, hclose, rfl⟩ | ⟨start, x, later, xs', hmore, hx, hlater, rfl⟩⟩ :=
      items_cases h
    · have hstart := anotherItem_end hend
      refine .close ?_
      rw [← skipBlanks_skipBlanks, hstart]
      exact skipBlanks_of_closeList hclose
    · cases heq
      exact .more (enters_item hmore) (hitem hx) (ih hlater)

theorem entries_of_members {value : Reader α} (hvalue : Skips value) {fuel : Nat} {first : Bool}
    {bytes rest : List UInt8} {ms : List (String × α)}
    (h : members value fuel first bytes = .ok (ms, rest)) :
    Bracket.object.Entries first bytes rest := by
  induction fuel generalizing first bytes ms with
  | zero => cases h
  | succ fuel ih =>
    obtain ⟨_, heq, ⟨start, hend, hclose, rfl⟩ |
      ⟨start, key, afterKey, afterColon, x, later, ms', hmore, hkey, hcolon, hx, hlater, rfl⟩⟩ :=
      members_cases h
    · have hstart := anotherMember_end hend
      refine .close ?_
      rw [← skipBlanks_skipBlanks, hstart]
      exact skipBlanks_of_closeObject hclose
    · cases heq
      exact .more (enters_member hmore (skipString_of_string hkey) hcolon) (hvalue hx) (ih hlater)

/-- A value without lists and objects is passed over. -/
theorem Reading.passedOver {bytes rest : List UInt8} {v : Json} (h : Reading 0 bytes v rest) :
    PassedOver bytes rest := by
  cases h with
  | null hb h => exact passedOver_name (by decide) hb h
  | yes hb h => exact passedOver_name (by decide) hb h
  | no hb h => exact passedOver_name (by decide) hb h
  | negative hb h => exact passedOver_minus hb (skipNumber_of_number h)
  | number hb digit h => exact passedOver_digit digit hb (skipNumber_of_number h)
  | string hb h => exact passedOver_string hb (skipString_of_string h)

/-! ### Written values -/

/-- A text is passed over as a value, whatever follows it that does not go on with a number. -/
def PassedOverText (text : List Char) : Prop :=
  ∀ rest, EndsNumber rest → PassedOver (Utf8.encode text ++ rest) rest

/-- A text is passed over as an item or a member, the comma before it included if there is one. -/
def EntryPassedOver (bracket : Bracket) (text : List Char) : Prop :=
  ∀ (first : Bool) (rest : List UInt8), EndsNumber rest →
    ∃ start, PassedOver start rest ∧
      bracket.Enters first (Utf8.encode (if first then text else ',' :: text) ++ rest) start

theorem exists_digit_of_numeral {cs : List Char} (h : Number.Numeral cs) :
    ∃ c rest, cs = c :: rest ∧ c.isDigit = true := by
  obtain ⟨whole, fraction, power, rfl, hw, -, -⟩ := h
  cases hw with
  | zero => exact ⟨'0', _, rfl, rfl⟩
  | @digits c rest first => exact ⟨c, _, rfl, first⟩

theorem passedOverText_name {first : Char} {cs : List Char}
    (h : (first, cs) ∈
      [('n', ['u', 'l', 'l']), ('t', ['r', 'u', 'e']), ('f', ['a', 'l', 's', 'e'])]) :
    PassedOverText (first :: cs) := by
  intro rest _
  have hnames := h
  simp only [List.mem_cons, Prod.mk.injEq, List.not_mem_nil, or_false] at h
  rcases h with ⟨rfl, rfl⟩ | ⟨rfl, rfl⟩ | ⟨rfl, rfl⟩
  all_goals exact passedOver_name hnames (skipBlanks_cons (by decide) _) rfl

theorem passedOverText_number (n : Number) : PassedOverText n.write := by
  intro rest hrest
  obtain ⟨body, hbody, hn⟩ := numeral_write_number n
  obtain ⟨c, cs, hcons, hc⟩ := exists_digit_of_numeral hbody
  obtain ⟨hascii, hdigit, -⟩ := digit_byte hc
  have hread := reads_skipNumber hbody rest hrest
  rcases hn with hn | hn
  · rw [hcons, Utf8.encode_ascii_cons hascii, List.cons_append] at hread
    rw [hn, hcons, Utf8.encode_ascii_cons hascii, List.cons_append]
    exact passedOver_digit hdigit (skipBlanks_cons (not_blank_of_isDigit hdigit) _) hread
  · rw [hn, Utf8.encode_ascii_cons (by decide), List.cons_append]
    exact passedOver_minus (skipBlanks_cons (by decide) _) hread

theorem passedOverText_quote (s : String) : PassedOverText (quote s) := by
  intro rest _
  obtain ⟨bytes, hbytes, hskip⟩ := skipString_quote s rest
  rw [hbytes]
  exact passedOver_string (skipBlanks_cons (by decide) bytes) hskip

theorem PassedOverText.item {v : Json} (h : PassedOverText v.write) :
    EntryPassedOver .list v.write := by
  intro first rest hrest
  refine ⟨_, h rest hrest, ?_⟩
  obtain ⟨b, more, hb, hblank, hclose, -⟩ := exists_encode_write v rest
  cases first with
  | true =>
    rw [if_pos rfl, hb]
    exact enters_item (anotherItem_first hblank hclose more)
  | false =>
    rw [if_neg (by decide), Utf8.encode_ascii_cons (by decide), List.cons_append, hb]
    exact enters_item (anotherItem_comma hblank hclose more)

theorem PassedOverText.member {key : String} {v : Json} (h : PassedOverText v.write) :
    EntryPassedOver .object (writeMember (key, v)) := by
  intro first rest hrest
  refine ⟨_, h rest hrest, ?_⟩
  obtain ⟨bytes, hbytes, hkey⟩ := skipString_quote key (byte ':' :: (Utf8.encode v.write ++ rest))
  have hmember : Utf8.encode (writeMember (key, v)) ++ rest = byte '"' :: bytes := by
    rw [writeMember, Utf8.encode_append, Utf8.encode_ascii_cons (by decide), List.append_assoc,
      List.cons_append]
    exact hbytes
  cases first with
  | true =>
    rw [if_pos rfl, hmember]
    exact enters_member (anotherMember_first bytes) hkey (colon_colon _)
  | false =>
    rw [if_neg (by decide), Utf8.encode_ascii_cons (by decide), List.cons_append, hmember]
    exact enters_member (anotherMember_comma bytes) hkey (colon_colon _)

theorem Bracket.closing_ends (bracket : Bracket) : bracket.closing ∈ [',', ']', '\x7d'] := by
  cases bracket <;> decide

theorem Bracket.ascii (bracket : Bracket) :
    bracket.opening.toNat < 0x80 ∧ bracket.closing.toNat < 0x80 := by
  cases bracket <;> decide

theorem Bracket.not_blank (bracket : Bracket) :
    isBlank (byte bracket.opening) = false ∧ isBlank (byte bracket.closing) = false := by
  cases bracket <;> decide

theorem entries_commas {bracket : Bracket} {texts : List (List Char)}
    (h : ∀ text ∈ texts, EntryPassedOver bracket text) (rest : List UInt8) :
    bracket.Entries false
      (Utf8.encode (texts.flatMap ([','] ++ ·)) ++ byte bracket.closing :: rest) rest := by
  induction texts with
  | nil => exact .close (skipBlanks_cons bracket.not_blank.2 rest)
  | cons text texts ih =>
    obtain ⟨htext, htexts⟩ := List.forall_mem_cons.mp h
    obtain ⟨start, hvalue, henter⟩ :=
      htext false _ (endsNumber_commas _ bracket.closing_ends texts rest)
    rw [if_neg (by decide)] at henter
    rw [List.flatMap_cons, Utf8.encode_append, List.append_assoc, List.singleton_append]
    exact .more henter hvalue (ih htexts)

theorem passedOverText_enclosed {bracket : Bracket} {texts : List (List Char)}
    (h : ∀ text ∈ texts, EntryPassedOver bracket text) :
    PassedOverText (bracket.opening :: [','].intercalate texts ++ [bracket.closing]) := by
  intro rest _
  obtain ⟨hopening, hclosing⟩ := bracket.ascii
  rw [Utf8.encode_enclosed hopening hclosing]
  apply passedOver_enclosed (skipBlanks_cons bracket.not_blank.1 _)
  cases texts with
  | nil => exact .close (skipBlanks_cons bracket.not_blank.2 rest)
  | cons text texts =>
    obtain ⟨htext, htexts⟩ := List.forall_mem_cons.mp h
    obtain ⟨start, hvalue, henter⟩ :=
      htext true _ (endsNumber_commas _ bracket.closing_ends texts rest)
    rw [if_pos rfl] at henter
    rw [intercalate_cons, Utf8.encode_append, List.append_assoc]
    exact .more henter hvalue (entries_commas htexts rest)

mutual

/-- The text of every value is passed over as a whole. -/
theorem passedOver_write (v : Json) : PassedOverText v.write := by
  cases v with
  | null =>
    rw [write]
    exact passedOverText_name (by decide)
  | bool b =>
    cases b with
    | true =>
      rw [write]
      exact passedOverText_name (by decide)
    | false =>
      rw [write]
      exact passedOverText_name (by decide)
  | number n =>
    rw [write]
    exact passedOverText_number n
  | string s =>
    rw [write]
    exact passedOverText_quote s
  | array items =>
    rw [write, writeItems_eq]
    apply @passedOverText_enclosed .list
    exact List.forall_mem_map.mpr fun v hv => (passedOver_items items v hv).item
  | object members =>
    rw [write, writeMembers_eq]
    apply @passedOverText_enclosed .object
    exact List.forall_mem_map.mpr fun m hm => (passedOver_members members m hm).member

theorem passedOver_items (items : List Json) : ∀ v ∈ items, PassedOverText v.write := by
  cases items with
  | nil => exact fun v hv => absurd hv List.not_mem_nil
  | cons item items =>
    exact List.forall_mem_cons.mpr ⟨passedOver_write item, passedOver_items items⟩

theorem passedOver_members (members : List (String × Json)) :
    ∀ m ∈ members, PassedOverText m.2.write := by
  cases members with
  | nil => exact fun m hm => absurd hm List.not_mem_nil
  | cons m members =>
    exact List.forall_mem_cons.mpr ⟨passedOver_write m.2, passedOver_members members⟩

end

/-- What stands behind the text of a value is left over when the value is passed over. -/
theorem reads_skipValue (v : Json) : Reads skipValue v.write () :=
  fun rest hrest => (passedOver_write v rest hrest).skipValue_eq

end ChatRelay.Json.Read
