import ChatRelay.Proofs.Text.Split
import ChatRelay.Proofs.Url.Authority
import ChatRelay.Proofs.Url.Escape
import ChatRelay.Proofs.Url.Percent
import ChatRelay.Proofs.Utf8.Decoding
import ChatRelay.Url.Form

/-!
Form-encoded queries. A URL's query is percent-encoded before the pairs in it are read, which must
not change them: what is encoded is neither a separator nor a part of an escape, so that no escape
comes about beside a percent sign that stands for itself. Pairs that are written with escapes for
all but a few characters are read back.
-/

namespace ChatRelay.Url

/-! ### Escapes -/

/-- A digit of an escape as a byte. -/
def hexByte (n : Nat) : UInt8 := UInt8.ofNat (upperHex n).toNat

theorem hexValue?_hexByte : ∀ n < 16, hexValue? (hexByte n) = some (UInt8.ofNat n) := by decide

/-- The bytes of the escape of a byte. -/
def escapeOf (b : UInt8) : List UInt8 := [0x25, hexByte (b.toNat / 16), hexByte (b.toNat % 16)]

theorem percentDecode_escapeOf (b : UInt8) (rest : List UInt8) :
    percentDecode (escapeOf b ++ rest) = b :: percentDecode rest := by
  have hb := b.toNat_lt
  have hhigh := hexValue?_hexByte (b.toNat / 16) (by omega)
  have hlow := hexValue?_hexByte (b.toNat % 16) (by omega)
  have hvalue : UInt8.ofNat (b.toNat / 16) * 16 + UInt8.ofNat (b.toNat % 16) = b := by
    apply UInt8.toNat_inj.mp
    rw [UInt8.toNat_add, UInt8.toNat_mul, Utf8.toNat_byte (by omega), Utf8.toNat_byte (by omega)]
    simp only [UInt8.reduceToNat]
    omega
  rw [escapeOf, List.cons_append, List.cons_append, List.cons_append, List.nil_append,
    percentDecode_escape hhigh hlow, hvalue]

/-- A byte that is no part of an escape. -/
def Apart (b : UInt8) : Prop := b ≠ 0x25 ∧ hexValue? b = none

/-- Bytes that are no part of an escape may as well be escaped, whatever stands around them. -/
theorem percentDecode_flatMap_escapeOf {bs : List UInt8} (h : ∀ b ∈ bs, Apart b)
    (front rest : List UInt8) :
    percentDecode (front ++ (bs.flatMap escapeOf ++ rest)) =
      percentDecode (front ++ (bs ++ rest)) := by
  induction bs generalizing front with
  | nil => rfl
  | cons b bs ih =>
    obtain ⟨⟨hpercent, hdigit⟩, hbs⟩ := List.forall_mem_cons.mp h
    have hmark : hexValue? 0x25 = none := rfl
    have hlater := ih hbs (front ++ [b])
    rw [List.append_assoc, List.append_assoc, List.singleton_append, List.singleton_append,
      percentDecode_append_cons hdigit, percentDecode_append_cons hdigit] at hlater
    -- Neither the percent sign of the escape nor the byte itself can be a digit of an earlier one.
    calc percentDecode (front ++ ((b :: bs).flatMap escapeOf ++ rest))
        = percentDecode front ++ percentDecode (escapeOf b ++ (bs.flatMap escapeOf ++ rest)) := by
          rw [List.flatMap_cons, List.append_assoc, escapeOf]
          exact percentDecode_append_cons hmark front _
      _ = percentDecode front ++ percentDecode (b :: (bs.flatMap escapeOf ++ rest)) := by
          rw [percentDecode_escapeOf, percentDecode_cons_of_ne hpercent]
      _ = percentDecode front ++ percentDecode (b :: (bs ++ rest)) := hlater
      _ = percentDecode (front ++ (b :: bs ++ rest)) := by
          rw [List.cons_append, percentDecode_append_cons hdigit]

theorem percentDecode_escapes (bs rest : List UInt8) :
    percentDecode (bs.flatMap escapeOf ++ rest) = bs ++ percentDecode rest := by
  induction bs with
  | nil => rfl
  | cons b bs ih =>
    rw [List.flatMap_cons, List.append_assoc, percentDecode_escapeOf, ih, List.cons_append]

theorem percentEncode_append (set : EncodeSet) (cs ds : List Char) :
    percentEncode set (cs ++ ds) = percentEncode set cs ++ percentEncode set ds :=
  List.flatMap_append

/-- A character that is not encoded, and that no escape is written with, separates an encoded text
where it separates the text. -/
structure Separates (set : EncodeSet) (sep : Char) : Prop where
  kept : set sep = false
  stable : Stable (· == sep)

/-- No query has a character encoded that the one of a special URL has not. -/
theorem querySetOf_le (kind : Kind) {c : Char} (h : querySetOf kind c = true) :
    specialQuerySet c = true := by
  unfold querySetOf at h
  split at h
  · rw [specialQuerySet, h, Bool.true_or]
  · exact h

theorem kept_of_specialQuerySet (kind : Kind) {c : Char} (h : specialQuerySet c = false) :
    querySetOf kind c = false := by
  rw [Bool.eq_false_iff]
  intro hset
  rw [querySetOf_le kind hset] at h
  cases h

namespace Separates

variable {set : EncodeSet} {sep : Char}

theorem percentEncode_append_cons (h : Separates set sep) (before after : List Char) :
    percentEncode set (before ++ sep :: after) =
      percentEncode set before ++ sep :: percentEncode set after := by
  rw [percentEncode_append]
  congr 1
  rw [percentEncode, List.flatMap_cons, h.kept, if_neg Bool.false_ne_true]
  rfl

theorem not_mem_percentEncode (h : Separates set sep) {cs : List Char} (hcs : sep ∉ cs) :
    sep ∉ percentEncode set cs := by
  intro hm
  have hkept : ∀ c ∈ cs, set c = false → (c == sep) = false := by
    intro c hc _
    rw [beq_eq_false_iff_ne]
    rintro rfl
    exact hcs hc
  have hother := forall_percentEncode h.stable hkept sep hm
  rw [beq_self_eq_true] at hother
  cases hother

theorem splitOn_percentEncode (h : Separates set sep) (cs : List Char) :
    (percentEncode set cs).splitOn sep = (cs.splitOn sep).map (percentEncode set) := by
  -- The recursion is on what stands behind the first separator.
  by_cases hcs : sep ∈ cs
  · obtain ⟨before, after, hparts, hbefore⟩ := List.eq_append_cons_of_mem hcs
    have hshorter : after.length < cs.length := by
      rw [hparts, List.length_append, List.length_cons]
      omega
    rw [hparts, h.percentEncode_append_cons,
      List.splitOn_append_cons_self_of_not_mem (h.not_mem_percentEncode hbefore),
      List.splitOn_append_cons_self_of_not_mem hbefore, List.map_cons,
      splitOn_percentEncode h after]
  · rw [List.splitOn_eq_singleton (h.not_mem_percentEncode hcs), List.splitOn_eq_singleton hcs,
      List.map_singleton]
termination_by cs.length

end Separates

namespace Form

/-! ### Names and values -/

/-- The bytes that a name or a value is decoded from: a plus is a space. -/
def formBytes (cs : List Char) : List UInt8 :=
  Utf8.encode (cs.map fun c => if c = '+' then ' ' else c)

theorem decode_eq (cs : List Char) :
    decode cs = String.ofList (Utf8.decodeLossy (percentDecode (formBytes cs))) := rfl

theorem formBytes_append (cs ds : List Char) :
    formBytes (cs ++ ds) = formBytes cs ++ formBytes ds := by
  rw [formBytes, List.map_append, Utf8.encode_append]
  rfl

theorem formBytes_of_not_mem {cs : List Char} (h : '+' ∉ cs) : formBytes cs = Utf8.encode cs := by
  have hsame : (cs.map fun c => if c = '+' then ' ' else c) = cs.map id := by
    apply List.map_congr_left
    intro c hc
    apply if_neg
    rintro rfl
    exact h hc
  rw [formBytes, hsame, List.map_id]

theorem stable_plus : Stable (· == '+') := ⟨by decide, by decide⟩

theorem formBytes_percentByte (b : UInt8) : formBytes (percentByte b) = escapeOf b := by
  have hb := b.toNat_lt
  have hplus : '+' ∉ percentByte b :=
    fun hm => absurd (forall_percentByte stable_plus b '+' hm) (by decide)
  have hascii : ∀ n < 16, (upperHex n).toNat < 0x80 := by decide
  rw [formBytes_of_not_mem hplus, percentByte, Utf8.encode_cons, Utf8.encode_cons,
    Utf8.encode_cons, Utf8.encodeChar_one (by decide), Utf8.encodeChar_one (hascii _ (by omega)),
    Utf8.encodeChar_one (hascii _ (by omega))]
  rfl

theorem formBytes_flatMap_percentByte (bs : List UInt8) :
    formBytes (bs.flatMap percentByte) = bs.flatMap escapeOf := by
  induction bs with
  | nil => rfl
  | cons b bs ih =>
    rw [List.flatMap_cons, List.flatMap_cons, formBytes_append, formBytes_percentByte, ih]

/-- Characters whose encoding leaves names and values as they are: no plus, and none that belongs
to an escape. -/
structure Harmless (set : EncodeSet) : Prop where
  plus : set '+' = false
  apart : ∀ c, set c = true → ∀ b ∈ String.utf8EncodeChar c, Apart b

theorem decode_percentEncode {set : EncodeSet} (h : Harmless set) (cs : List Char) :
    decode (percentEncode set cs) = decode cs := by
  -- The induction is on what is left to encode, behind bytes that an escape may have begun in.
  have hbytes (front : List UInt8) :
      percentDecode (front ++ formBytes (percentEncode set cs)) =
        percentDecode (front ++ formBytes cs) := by
    induction cs generalizing front with
    | nil => rfl
    | cons c cs ih =>
      rw [percentEncode, List.flatMap_cons, ← percentEncode, formBytes_append,
        ← List.singleton_append (l := cs), formBytes_append]
      by_cases hset : set c = true
      · have hc : '+' ∉ [c] := by
          intro hm
          rw [← List.mem_singleton.mp hm, h.plus] at hset
          cases hset
        rw [if_pos hset, formBytes_flatMap_percentByte, formBytes_of_not_mem hc,
          percentDecode_flatMap_escapeOf (h.apart c hset), Utf8.encode, List.flatMap_singleton,
          ← List.append_assoc, ih, List.append_assoc]
      · rw [if_neg hset, ← List.append_assoc, ih, List.append_assoc]
  have hall := hbytes []
  rw [List.nil_append, List.nil_append] at hall
  rw [decode_eq, decode_eq, hall]

theorem apart_of_not_ascii {b : UInt8} (h : 0x80 ≤ b.toNat) : Apart b := by
  constructor
  · rintro rfl
    exact absurd h (by decide)
  · cases hvalue : hexValue? b with
    | none => rfl
    | some x =>
      have hascii := UInt8.lt_iff_toNat_lt.mp (ascii_of_hexValue? hvalue)
      exact absurd h (Nat.not_le.mpr hascii)

theorem harmless_specialQuerySet : Harmless specialQuerySet := by
  refine ⟨rfl, fun c hset b hb => ?_⟩
  have hall : ∀ n < 0x80, specialQuerySet (Char.ofNat n) = true →
      UInt8.ofNat n ≠ 0x25 ∧ hexValue? (UInt8.ofNat n) = none := by decide
  -- The bytes of a character beyond ASCII are beyond it as well.
  by_cases hascii : b.toNat < 0x80
  · have hc := (Utf8.of_mem_encodeChar hb).resolve_right (Nat.not_le.mpr hascii)
    have hbyte := hall b.toNat hascii (by rw [hc, Char.ofNat_toNat]; exact hset)
    rwa [UInt8.ofNat_toNat] at hbyte
  · exact apart_of_not_ascii (Nat.not_lt.mp hascii)

/-! ### Pairs -/

/-- The name of a pair goes as far as its first equals sign. -/
theorem span_name {name : List Char} (h : '=' ∉ name) (rest : List Char)
    (hrest : ∀ c ∈ rest.head?, c = '=') :
    (name ++ rest).span (· != '=') = (name, rest) := by
  apply span_append
  · intro c hc
    rw [bne_iff_ne]
    rintro rfl
    exact h hc
  · intro c hc
    rw [hrest c hc]
    rfl

theorem pair_append_cons {name : List Char} (h : '=' ∉ name) (value : List Char) :
    pair (name ++ '=' :: value) = (decode name, decode value) := by
  have hspan := span_name h ('=' :: value) fun c hc => (Option.some.inj hc).symm
  simp only [pair, hspan, List.drop_one, List.tail_cons]

theorem pair_of_not_mem {name : List Char} (h : '=' ∉ name) :
    pair name = (decode name, decode []) := by
  have hspan := span_name h [] fun c hc => nomatch hc
  rw [List.append_nil] at hspan
  simp only [pair, hspan, List.drop_nil]

theorem harmless_querySetOf (kind : Kind) : Harmless (querySetOf kind) where
  plus := kept_of_specialQuerySet kind harmless_specialQuerySet.plus
  apart := fun c hset => harmless_specialQuerySet.apart c (querySetOf_le kind hset)

theorem separates_ampersand (kind : Kind) : Separates (querySetOf kind) '&' :=
  ⟨kept_of_specialQuerySet kind rfl, by decide, by decide⟩

theorem separates_equals (kind : Kind) : Separates (querySetOf kind) '=' :=
  ⟨kept_of_specialQuerySet kind rfl, by decide, by decide⟩

theorem pair_percentEncode (kind : Kind) (piece : List Char) :
    pair (percentEncode (querySetOf kind) piece) = pair piece := by
  have hequals := separates_equals kind
  have hharmless := harmless_querySetOf kind
  by_cases h : '=' ∈ piece
  · obtain ⟨name, value, rfl, hname⟩ := List.eq_append_cons_of_mem h
    rw [hequals.percentEncode_append_cons,
      pair_append_cons (hequals.not_mem_percentEncode hname), pair_append_cons hname,
      decode_percentEncode hharmless, decode_percentEncode hharmless]
  · rw [pair_of_not_mem (hequals.not_mem_percentEncode h), pair_of_not_mem h,
      decode_percentEncode hharmless]

theorem isEmpty_percentEncode (set : EncodeSet) (cs : List Char) :
    (percentEncode set cs).isEmpty = cs.isEmpty := by
  cases cs with
  | nil => rfl
  | cons c cs =>
    have hlength := length_le_length_percentEncode set (c :: cs)
    rw [List.length_cons] at hlength
    rw [List.isEmpty_cons, List.isEmpty_eq_false_iff, ← List.length_pos_iff]
    omega

/-- Encoding a query as a URL does changes none of its pairs. -/
theorem pairs_readQuery (kind : Kind) (query : List Char) :
    pairs (readQuery kind query) = pairs query := by
  have hempty : (fun piece : List Char => !piece.isEmpty) ∘ percentEncode (querySetOf kind) =
      fun piece => !piece.isEmpty := by
    funext piece
    rw [Function.comp_apply, isEmpty_percentEncode]
  rw [readQuery, pairs, (separates_ampersand kind).splitOn_percentEncode, List.filter_map, hempty,
    List.map_map, pairs]
  apply List.map_congr_left
  intro piece _
  exact pair_percentEncode kind piece

/-! ### Writing -/

/-- The characters that a form escapes: all but letters and digits of ASCII and four marks. -/
def formSet : EncodeSet := fun c =>
  !(c.isAlphanum || c == '*' || c == '-' || c == '.' || c == '_')

/-- A name or a value as forms write it: a space as a plus. -/
def write (s : String) : List Char :=
  s.toList.flatMap fun c => if c = ' ' then ['+'] else percentEncode formSet [c]

def writePair (p : String × String) : List Char := write p.1 ++ '=' :: write p.2

def writePairs (ps : List (String × String)) : List Char := ['&'].intercalate (ps.map writePair)

/-- The characters that queries give a meaning of their own, and those that they escape. -/
def markSet : EncodeSet := fun c => specialQuerySet c || c == '&' || c == '=' || c == '?'

theorem of_formSet {c : Char} (h : formSet c = false) :
    markSet c = false ∧ c ≠ '+' ∧ c ≠ '%' ∧ c.toNat < 0x80 := by
  have hascii : c.toNat < 0x80 := by
    delta formSet Char.isAlphanum Char.isAlpha Char.isUpper Char.isLower Char.isDigit at h
    simp only [Bool.not_eq_false', Bool.or_eq_true, Bool.and_eq_true, decide_eq_true_eq,
      beq_iff_eq] at h
    rcases h with ((((((⟨-, hlast⟩ | ⟨-, hlast⟩) | ⟨-, hlast⟩) | rfl) | rfl) | rfl) | rfl) <;>
      first
      | decide
      | exact Nat.lt_of_le_of_lt (UInt32.le_iff_toNat_le.mp hlast) (by decide)
  -- Only the characters of ASCII are left, and these can be gone through.
  have hall : ∀ n < 0x80, formSet (Char.ofNat n) = false →
      markSet (Char.ofNat n) = false ∧ Char.ofNat n ≠ '+' ∧ Char.ofNat n ≠ '%' := by
    decide +kernel
  have hc := hall c.toNat hascii
  rw [Char.ofNat_toNat] at hc
  exact ⟨(hc h).1, (hc h).2.1, (hc h).2.2, hascii⟩

theorem markSet_of_mem_write {s : String} {c : Char} (h : c ∈ write s) : markSet c = false := by
  have hstable : Stable markSet := ⟨by decide, by decide⟩
  obtain ⟨d, -, hc⟩ := List.mem_flatMap.mp h
  split at hc
  · rw [List.mem_singleton.mp hc]
    rfl
  · exact forall_percentEncode hstable (fun d _ hd => (of_formSet hd).1) c hc

theorem percentDecode_formBytes_write (cs : List Char) :
    percentDecode (formBytes (write (String.ofList cs))) = Utf8.encode cs := by
  rw [write, String.toList_ofList]
  induction cs with
  | nil => rfl
  | cons c cs ih =>
    rw [List.flatMap_cons, formBytes_append, Utf8.encode_cons]
    split
    · rename_i hspace
      have hplus : formBytes ['+'] = [0x20] := by decide
      rw [hplus, List.singleton_append, percentDecode_cons_of_ne (by decide), ih, hspace]
      rfl
    · rw [percentEncode, List.flatMap_singleton]
      split
      · rw [formBytes_flatMap_percentByte, percentDecode_escapes, ih]
      · rename_i hset
        obtain ⟨-, hplus, hpercent, hascii⟩ := of_formSet (Bool.eq_false_iff.mpr hset)
        have hkept : formBytes [c] = String.utf8EncodeChar c := by
          rw [formBytes_of_not_mem fun hm => hplus (List.mem_singleton.mp hm).symm, Utf8.encode,
            List.flatMap_singleton]
        have hmark : 0x25 ∉ String.utf8EncodeChar c := by
          intro hm
          have hc := (Utf8.of_mem_encodeChar hm).resolve_right (by decide)
          exact hpercent (Char.toNat_inj.mp hc.symm)
        rw [hkept, percentDecode_append hmark, ih]

theorem decode_write (s : String) : decode (write s) = s := by
  have hbytes := percentDecode_formBytes_write s.toList
  rw [String.ofList_toList] at hbytes
  rw [decode_eq, hbytes, Utf8.decodeLossy_encode, String.ofList_toList]

theorem not_mem_write {s : String} {c : Char} (h : markSet c = true) : c ∉ write s := by
  intro hm
  rw [markSet_of_mem_write hm] at h
  cases h

theorem pair_writePair (p : String × String) : pair (writePair p) = p := by
  rw [writePair, pair_append_cons (not_mem_write rfl), decode_write, decode_write]

/-- Pairs are read back from what is written for them. -/
theorem pairs_writePairs (ps : List (String × String)) : pairs (writePairs ps) = ps := by
  have hpieces : ∀ piece ∈ ps.map writePair, '&' ∉ piece := by
    intro piece hpiece
    obtain ⟨p, -, rfl⟩ := List.mem_map.mp hpiece
    simp only [writePair, List.mem_append, List.mem_cons, not_or]
    exact ⟨not_mem_write rfl, by decide, not_mem_write rfl⟩
  -- Every piece has its equals sign, and so none of them is passed over.
  have hkept : ∀ piece ∈ ps.map writePair, (!piece.isEmpty) = true := by
    intro piece hpiece
    obtain ⟨p, -, rfl⟩ := List.mem_map.mp hpiece
    simp [writePair]
  by_cases hps : ps = []
  · rw [hps]
    rfl
  · have hne : ps.map writePair ≠ [] := fun hnil => hps (List.map_eq_nil_iff.mp hnil)
    rw [pairs, writePairs, List.splitOn_intercalate '&' hpieces hne,
      List.filter_eq_self.mpr hkept, List.map_map]
    calc ps.map (pair ∘ writePair) = ps.map id :=
          List.map_congr_left fun p _ => pair_writePair p
      _ = ps := List.map_id ps

/-- What is written is part of a query and is not escaped in it. -/
theorem specialQuerySet_of_mem_writePairs {ps : List (String × String)} {c : Char}
    (h : c ∈ writePairs ps) : specialQuerySet c = false := by
  have hmark {d : Char} {s : String} (hd : d ∈ write s) : specialQuerySet d = false := by
    have hall := markSet_of_mem_write hd
    simp only [markSet, Bool.or_eq_false_iff] at hall
    exact hall.1.1.1
  rcases Text.of_mem_intercalate h with hsep | ⟨piece, hpiece, hc⟩
  · rw [List.mem_singleton.mp hsep]
    rfl
  · obtain ⟨p, -, rfl⟩ := List.mem_map.mp hpiece
    rcases List.mem_append.mp hc with hc | hc
    · exact hmark hc
    · rcases List.mem_cons.mp hc with rfl | hc
      · rfl
      · exact hmark hc

end Form

end ChatRelay.Url
