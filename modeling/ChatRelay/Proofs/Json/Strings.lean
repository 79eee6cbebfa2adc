import ChatRelay.Json.Reader
import ChatRelay.Proofs.Json.Text
import ChatRelay.Proofs.Utf8.Decoder

/-!
Reading a quoted string gives the string. Its characters are looked at one after the other: an
escape reads as the bytes of what it stands for, all other bytes read as themselves.
-/

namespace ChatRelay.Utf8

theorem encode_ascii_cons {c : Char} (h : c.toNat < 0x80) (cs : List Char) :
    encode (c :: cs) = Json.Read.byte c :: encode cs := by
  rw [encode_cons, encodeChar_one h]
  rfl

/-- A text between two ASCII characters, as strings, lists and objects are written. -/
theorem encode_enclosed {first last : Char} (hf : first.toNat < 0x80) (hl : last.toNat < 0x80)
    (body : List Char) (rest : List UInt8) :
    encode (first :: body ++ [last]) ++ rest =
      Json.Read.byte first :: (encode body ++ Json.Read.byte last :: rest) := by
  rw [List.cons_append, encode_ascii_cons hf, encode_append, encode_ascii_cons hl,
    List.cons_append, List.append_assoc]
  rfl

end ChatRelay.Utf8

namespace ChatRelay.Json.Read

def Literal (b : UInt8) : Prop := 0x20 ≤ b.toNat ∧ b ≠ byte '"' ∧ b ≠ byte '\\'

theorem prepend_prepend (a b : List UInt8) (r : Except Fault (List UInt8 × List UInt8)) :
    prepend a (prepend b r) = prepend (a ++ b) r := by
  cases r with
  | error fault => rfl
  | ok p => simp only [prepend, Except.map, List.append_assoc]

theorem stringBytes_literal {b : UInt8} (h : Literal b) (rest : List UInt8) :
    stringBytes (b :: rest) = prepend [b] (stringBytes rest) := by
  obtain ⟨hcontrol, hquote, hslash⟩ := h
  have hb : ¬ b < 0x20 := fun hl => Nat.not_lt.mpr hcontrol (UInt8.lt_iff_toNat_lt.mp hl)
  rw [stringBytes.eq_def]
  simp only [if_neg hquote, if_neg hslash, if_neg hb]

theorem stringBytes_literals {bs : List UInt8} (h : ∀ b ∈ bs, Literal b) (rest : List UInt8) :
    stringBytes (bs ++ rest) = prepend bs (stringBytes rest) := by
  induction bs with
  | nil =>
    rw [List.nil_append, prepend]
    cases stringBytes rest <;> rfl
  | cons b bs ih =>
    obtain ⟨hb, hbs⟩ := List.forall_mem_cons.mp h
    rw [List.cons_append, stringBytes_literal hb, ih hbs, prepend_prepend]
    rfl

theorem literal_of_mem_encodeChar {c : Char} (hcontrol : 0x20 ≤ c.toNat) (hquote : c ≠ '"')
    (hslash : c ≠ '\\') {b : UInt8} (hb : b ∈ String.utf8EncodeChar c) : Literal b := by
  -- A byte that is an ASCII character other than `c` is none of the bytes of `c`.
  have hne {d : Char} (hd : d.toNat < 0x80) (hc : c ≠ d) : b ≠ byte d := by
    intro hbd
    have hn : b.toNat = d.toNat := by
      rw [hbd]
      exact Utf8.toNat_byte (by omega)
    rcases Utf8.of_mem_encodeChar hb with h | h
    · exact hc (Char.toNat_inj.mp (h.symm.trans hn))
    · omega
  refine ⟨?_, hne (by decide) hquote, hne (by decide) hslash⟩
  rcases Utf8.of_mem_encodeChar hb with h | h <;> omega

theorem stringBytes_escaped {e : Char} {b : UInt8} (he : escaped? (byte e) = some b)
    (hu : byte e ≠ byte 'u') (rest : List UInt8) :
    stringBytes (byte '\\' :: byte e :: rest) = prepend [b] (stringBytes rest) := by
  rw [stringBytes.eq_def]
  simp only [if_neg (show byte '\\' ≠ byte '"' by decide), if_true, if_neg hu, he]

theorem hex4?_control : ∀ n < 0x20, hex4? (byte '0') (byte '0') (byte (hexDigit (n / 16)))
    (byte (hexDigit (n % 16))) = some n := by
  decide

theorem stringBytes_control {n : Nat} (h : n < 0x20) (rest : List UInt8) :
    stringBytes (byte '\\' :: byte 'u' :: byte '0' :: byte '0' :: byte (hexDigit (n / 16)) ::
        byte (hexDigit (n % 16)) :: rest) =
      prepend (String.utf8EncodeChar (Char.ofNat n)) (stringBytes rest) := by
  have hn : ¬(0xDC00 ≤ n ∧ n ≤ 0xDFFF) := by omega
  have hn' : n < 0xD800 ∨ 0xDBFF < n := by omega
  rw [stringBytes.eq_def]
  simp only [if_neg (show byte '\\' ≠ byte '"' by decide), if_true, hex4?_control n h, if_neg hn,
    if_pos hn']

theorem ascii_hexDigit : ∀ n < 16, (hexDigit n).toNat < 0x80 := by decide

/-- The letter of an escape is ASCII and not the one that announces a number, and reading it gives
the byte of the character that is escaped. -/
theorem escaped?_letter {e c : Char} (h : (e, c) ∈ letterEscapes) : e.toNat < 0x80 ∧
    byte e ≠ byte 'u' ∧ c.toNat < 0x80 ∧ escaped? (byte e) = some (UInt8.ofNat c.toNat) := by
  simp only [letterEscapes, List.mem_cons, Prod.mk.injEq, List.not_mem_nil, or_false] at h
  rcases h with ⟨rfl, rfl⟩ | ⟨rfl, rfl⟩ | ⟨rfl, rfl⟩ | ⟨rfl, rfl⟩ | ⟨rfl, rfl⟩ | ⟨rfl, rfl⟩ |
    ⟨rfl, rfl⟩ <;> decide

/-- The escape of a character reads as the bytes of the character. -/
theorem stringBytes_escape (c : Char) (rest : List UInt8) :
    stringBytes (Utf8.encode (escape c) ++ rest) =
      prepend (String.utf8EncodeChar c) (stringBytes rest) := by
  rcases escape_cases c with ⟨e, he, hescape⟩ | ⟨hc, hescape⟩ |
    ⟨hcontrol, hquote, hslash, hescape⟩
  · obtain ⟨he, hu, hc, hletter⟩ := escaped?_letter he
    rw [hescape, Utf8.encode_ascii_cons (by decide), Utf8.encode_ascii_cons he,
      Utf8.encodeChar_one hc]
    exact stringBytes_escaped hletter hu rest
  · have hhigh := ascii_hexDigit (c.toNat / 16) (by omega)
    have hlow := ascii_hexDigit (c.toNat % 16) (by omega)
    have hslash : '\\'.toNat < 0x80 := by decide
    have hletter : 'u'.toNat < 0x80 := by decide
    have hzero : '0'.toNat < 0x80 := by decide
    rw [hescape, Utf8.encode_ascii_cons hslash, Utf8.encode_ascii_cons hletter,
      Utf8.encode_ascii_cons hzero, Utf8.encode_ascii_cons hzero, Utf8.encode_ascii_cons hhigh,
      Utf8.encode_ascii_cons hlow]
    have hread := stringBytes_control hc rest
    rw [Char.ofNat_toNat] at hread
    exact hread
  · -- None of the bytes that a character may have is a quote, a backslash or a control byte.
    rw [hescape, Utf8.encode_cons, Utf8.encode, List.flatMap_nil, List.append_nil]
    exact stringBytes_literals (fun b => literal_of_mem_encodeChar hcontrol hquote hslash) rest

theorem stringBytes_escapes (cs : List Char) (rest : List UInt8) :
    stringBytes (Utf8.encode (cs.flatMap escape) ++ byte '"' :: rest) =
      .ok (Utf8.encode cs, rest) := by
  induction cs with
  | nil =>
    rw [List.flatMap_nil, Utf8.encode, List.flatMap_nil, List.nil_append, stringBytes.eq_def]
    simp only [if_true]
  | cons c cs ih =>
    -- The closing quote is behind all escapes, so that one of them is read at each step.
    rw [List.flatMap_cons, Utf8.encode_append, List.append_assoc, stringBytes_escape, ih,
      Utf8.encode_cons]
    rfl

/-- What is read behind the opening quote of a written string is the string. -/
theorem string_quote (s : String) (rest : List UInt8) :
    ∃ bytes, Utf8.encode (quote s) ++ rest = byte '"' :: bytes ∧ string bytes = .ok (s, rest) := by
  refine ⟨Utf8.encode (s.toList.flatMap escape) ++ byte '"' :: rest, ?_, ?_⟩
  · exact Utf8.encode_enclosed (by decide) (by decide) _ rest
  · rw [string, stringBytes_escapes]
    simp only [bind, Except.bind, Utf8.decode?_encode, String.ofList_toList]

end ChatRelay.Json.Read
