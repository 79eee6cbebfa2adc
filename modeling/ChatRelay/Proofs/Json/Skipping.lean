import ChatRelay.Proofs.Json.Locality
import ChatRelay.Proofs.Json.Numerals
import ChatRelay.Proofs.Json.RoundTrip

/-!
Passing over numbers and strings. What is read as one of them is passed over up to the same place,
and so is its written text; at least one byte is taken each time.
-/

namespace ChatRelay.Json.Read

/-! ### Numbers -/

theorem digit_byte {c : Char} (h : c.isDigit = true) :
    c.toNat < 0x80 ∧ isDigit (byte c) = true ∧ (c ≠ '0' → byte c ≠ byte '0') := by
  obtain ⟨n, hn, rfl⟩ := exists_digitChar h
  revert n
  decide

/-- Digits are passed over up to the first byte that is none. -/
theorem dropWhile_digits {cs : List Char} (h : Number.AllDigits cs) {rest : List UInt8}
    (hrest : ∀ b ∈ rest.head?, isDigit b = false) :
    (Utf8.encode cs ++ rest).dropWhile isDigit = rest := by
  induction cs with
  | nil =>
    cases rest with
    | nil => rfl
    | cons b rest => exact List.dropWhile_cons_of_neg (by rw [hrest b rfl]; decide)
  | cons c cs ih =>
    obtain ⟨hc, hcs⟩ := List.forall_mem_cons.mp h
    obtain ⟨hascii, hdigit, -⟩ := digit_byte hc
    rw [Utf8.encode_ascii_cons hascii, List.cons_append, List.dropWhile_cons_of_pos hdigit]
    exact ih hcs

theorem head?_any_eq_false {rest : List UInt8} (h : ∀ b ∈ rest.head?, isDigit b = false) :
    rest.head?.any isDigit = false := by
  cases hfirst : rest.head? with
  | none => rfl
  | some b => exact h b hfirst

theorem head?_digits {cs : List Char} (hne : cs ≠ []) (h : Number.AllDigits cs)
    (rest : List UInt8) : (Utf8.encode cs ++ rest).head?.any isDigit = true := by
  obtain ⟨c, cs, rfl⟩ := List.exists_cons_of_ne_nil hne
  obtain ⟨hascii, hdigit, -⟩ := digit_byte (h c List.mem_cons_self)
  rw [Utf8.encode_ascii_cons hascii, List.cons_append, List.head?_cons]
  exact hdigit

def skipPower : Reader Unit
  | b :: rest => if b = byte 'e' || b = byte 'E' then skipExponent rest else .ok ((), b :: rest)
  | [] => .ok ((), [])

def skipFraction : Reader Unit
  | b :: rest =>
    if b = byte '.' then
      if !rest.head?.any isDigit then .error .invalidNumber else skipPower (rest.dropWhile isDigit)
    else skipPower (b :: rest)
  | [] => .ok ((), [])

/-- A number is passed over part by part. -/
theorem skipNumber_cons (b : UInt8) (rest : List UInt8) :
    skipNumber (b :: rest) =
      if !isDigit b || (b = byte '0' && rest.head?.any isDigit) then .error .invalidNumber
      else skipFraction (rest.dropWhile isDigit) := by
  rw [skipNumber]
  split
  · rfl
  cases rest.dropWhile isDigit with
  | nil => rfl
  | cons c rest =>
    refine if_congr Iff.rfl (if_congr Iff.rfl rfl ?_) rfl
    cases rest.dropWhile isDigit <;> rfl

theorem reads_skipPower {cs : List Char} (h : Number.PowerPart cs) : Reads skipPower cs () := by
  intro rest hrest
  cases h with
  | none =>
    cases rest with
    | nil => rfl
    | cons b rest => exact if_neg hrest.not_exponent
  | @digits sign cs signed nonempty digits =>
    have hsign : sign.toNat < 0x80 ∧ (byte sign = byte '+' || byte sign = byte '-') = true := by
      rcases signed with rfl | rfl <;> decide
    rw [Utf8.encode_ascii_cons (by decide), Utf8.encode_ascii_cons hsign.1]
    simp only [List.cons_append]
    rw [skipPower, if_pos (by decide), skipExponent]
    simp only [if_pos hsign.2, head?_digits nonempty digits rest, if_true]
    rw [dropWhile_digits digits hrest.not_digit]

/-- Behind the digits of the whole part there is none. -/
theorem power_head {power : List Char} (h : Number.PowerPart power) {rest : List UInt8}
    (hrest : EndsNumber rest) :
    ∀ b ∈ (Utf8.encode power ++ rest).head?, isDigit b = false ∧ b ≠ byte '.' := by
  intro b hb
  cases h with
  | none => exact ⟨(hrest b hb).1, (hrest b hb).2.1⟩
  | digits =>
    rw [Utf8.encode_ascii_cons (by decide), List.cons_append, List.head?_cons,
      Option.mem_some_iff] at hb
    rw [← hb]
    decide

theorem fraction_head {fraction power : List Char} (hf : Number.FractionPart fraction)
    (hp : Number.PowerPart power) {rest : List UInt8} (hrest : EndsNumber rest) :
    ∀ b ∈ (Utf8.encode (fraction ++ power) ++ rest).head?, isDigit b = false := by
  intro b hb
  cases hf with
  | none => exact (power_head hp hrest b hb).1
  | digits =>
    rw [List.cons_append, Utf8.encode_ascii_cons (by decide), List.cons_append, List.head?_cons,
      Option.mem_some_iff] at hb
    rw [← hb]
    decide

theorem reads_skipFraction {fraction power : List Char} (hf : Number.FractionPart fraction)
    (hp : Number.PowerPart power) : Reads skipFraction (fraction ++ power) () := by
  intro rest hrest
  have hpower := reads_skipPower hp rest hrest
  have hhead := power_head hp hrest
  cases hf with
  | none =>
    rw [List.nil_append]
    cases hbytes : Utf8.encode power ++ rest with
    | nil =>
      rw [hbytes] at hpower
      exact hpower
    | cons b bytes =>
      rw [hbytes] at hpower hhead
      rw [skipFraction, if_neg (hhead b rfl).2]
      exact hpower
  | @digits cs nonempty digits =>
    rw [List.cons_append, Utf8.encode_ascii_cons (by decide), Utf8.encode_append, List.cons_append,
      List.append_assoc, skipFraction, if_pos rfl, head?_digits nonempty digits,
      dropWhile_digits digits fun b hb => (hhead b hb).1]
    exact hpower

/-- A numeral is passed over up to the first byte that does not go on with it. -/
theorem reads_skipNumber {cs : List Char} (h : Number.Numeral cs) : Reads skipNumber cs () := by
  intro rest hrest
  obtain ⟨whole, fraction, power, rfl, hw, hf, hp⟩ := h
  have hfraction := reads_skipFraction hf hp rest hrest
  have hhead := fraction_head hf hp hrest
  rw [Utf8.encode_append, List.append_assoc]
  cases hw with
  | zero =>
    have hdrop := @dropWhile_digits [] (fun c hc => absurd hc List.not_mem_nil) _ hhead
    have hnone := head?_any_eq_false hhead
    have hnil : Utf8.encode [] = [] := rfl
    rw [hnil, List.nil_append] at hdrop
    rw [Utf8.encode_ascii_cons (by decide), hnil, List.cons_append, List.nil_append,
      skipNumber_cons, hnone, hdrop, if_neg (by decide)]
    exact hfraction
  | @digits c cs first nonzero digits =>
    obtain ⟨hascii, hdigit, hzero⟩ := digit_byte first
    rw [Utf8.encode_ascii_cons hascii, List.cons_append, skipNumber_cons, if_neg,
      dropWhile_digits digits hhead]
    · exact hfraction
    · simp [hdigit, hzero nonzero]

/-! ### Numbers that are read -/

theorem dropWhile_digits_eq_self {bytes : List UInt8} (h : bytes.head?.any isDigit = false) :
    bytes.dropWhile isDigit = bytes := by
  cases bytes with
  | nil => rfl
  | cons b bytes => exact List.dropWhile_cons_of_neg (Bool.eq_false_iff.mp h)

/-- What is left of the digits that a significand is taken from ends where they do. -/
theorem significand_spec {start n taken : Nat} {bytes left : List UInt8}
    (h : significand start bytes = (n, taken, left)) :
    left.dropWhile isDigit = bytes.dropWhile isDigit ∧
      (taken = 0 ∧ left = bytes ∨ taken ≠ 0 ∧ bytes.head?.any isDigit = true) := by
  induction bytes generalizing start n taken with
  | nil =>
    cases h
    exact ⟨rfl, .inl ⟨rfl, rfl⟩⟩
  | cons b bytes ih =>
    rw [significand] at h
    split at h
    · rename_i hfits
      have hdigit : isDigit b = true := (Bool.and_eq_true_iff.mp hfits).1
      cases hmore : significand (start * 10 + digitValue b) bytes with
      | mk n' p =>
        obtain ⟨taken', left'⟩ := p
        rw [hmore] at h
        cases h
        rw [List.dropWhile_cons_of_pos hdigit]
        exact ⟨(ih hmore).1, .inr ⟨Nat.succ_ne_zero _, hdigit⟩⟩
    · cases h
      exact ⟨rfl, .inl ⟨rfl, rfl⟩⟩

theorem skipExponent_eq (bytes : List UInt8) :
    skipExponent bytes =
      if (exponentSign bytes).2.head?.any isDigit then
        .ok ((), (exponentSign bytes).2.dropWhile isDigit)
      else .error .invalidNumber := by
  cases bytes with
  | nil => rfl
  | cons b bytes =>
    rw [skipExponent.eq_def, exponentSign]
    by_cases hplus : b = byte '+'
    · simp only [hplus, decide_true, Bool.true_or, if_true]
    by_cases hminus : b = byte '-'
    · simp only [hminus, decide_true, Bool.or_true, if_true,
        if_neg (show byte '-' ≠ byte '+' by decide)]
    · simp only [hplus, hminus, decide_false, Bool.or_self, Bool.false_eq_true, if_false]

theorem skipExponent_of_exponent {negative : Bool} {significand : Nat} {shift : Int}
    {bytes rest : List UInt8} {n : Number}
    (h : exponent negative significand shift bytes = .ok (n, rest)) :
    skipExponent bytes = .ok ((), rest) := by
  rw [exponent_eq] at h
  obtain ⟨⟨k, rest'⟩, hdigits, h⟩ := exists_of_bind_eq_ok h
  obtain ⟨y, -, hpair⟩ := exists_of_map_eq_ok h
  cases hpair
  rw [skipExponent_eq]
  cases hsign : (exponentSign bytes).2 with
  | nil =>
    rw [hsign] at hdigits
    cases hdigits
  | cons b start =>
    rw [hsign, exponentDigits] at hdigits
    split at hdigits
    · rename_i hb
      cases hdigits
      rw [if_pos (show (b :: start).head?.any isDigit = true from hb),
        List.dropWhile_cons_of_pos hb]
    · cases hdigits

theorem skipPower_of_afterFraction {negative : Bool} {significand : Nat} {shift : Int}
    {bytes rest : List UInt8} {n : Number}
    (h : afterFraction negative significand shift bytes = .ok (n, rest)) :
    skipPower bytes = .ok ((), rest) := by
  cases bytes with
  | nil =>
    obtain ⟨y, -, h⟩ := exists_of_bind_eq_ok h
    cases h
    rfl
  | cons b bytes =>
    rw [afterFraction] at h
    rw [skipPower]
    split at h
    · rename_i hexp
      rw [if_pos hexp]
      exact skipExponent_of_exponent h
    · rename_i hexp
      obtain ⟨y, -, h⟩ := exists_of_bind_eq_ok h
      cases h
      rw [if_neg hexp]

theorem skipFraction_of_fraction {negative : Bool} {start : Nat} {shift : Int}
    {bytes rest : List UInt8} {n : Number}
    (h : fraction negative start shift bytes = .ok (n, rest)) :
    skipFraction (byte '.' :: bytes) = .ok ((), rest) := by
  unfold fraction at h
  dsimp only at h
  cases hsig : significand start bytes with
  | mk m p =>
    obtain ⟨taken, left⟩ := p
    obtain ⟨hdrop, htaken⟩ := significand_spec hsig
    rw [hsig] at h
    -- There is a digit behind the point, whether or not it still fits the significand.
    have hpower (hdigit : bytes.head?.any isDigit = true)
        (hskip : skipPower (left.dropWhile isDigit) = .ok ((), rest)) :
        skipFraction (byte '.' :: bytes) = .ok ((), rest) := by
      rw [skipFraction, if_pos rfl, hdigit, ← hdrop]
      exact hskip
    cases left with
    | nil =>
      dsimp only at h
      split at h
      · cases h
      · rename_i hne
        exact hpower (htaken.resolve_left fun hz => hne hz.1).2 (skipPower_of_afterFraction h)
    | cons b left =>
      dsimp only at h
      split at h
      · rename_i hb
        refine hpower ?_ (skipPower_of_afterFraction h)
        rcases htaken with ⟨-, rfl⟩ | ⟨-, hdigit⟩
        · exact hb
        · exact hdigit
      · rename_i hb
        have hself := List.dropWhile_cons_of_neg (l := left) hb
        split at h
        · cases h
        · rename_i hne
          refine hpower (htaken.resolve_left fun hz => hne hz.1).2 ?_
          rw [hself]
          exact skipPower_of_afterFraction h

theorem skipFraction_of_afterWhole {negative exact : Bool} {significand : Nat} {shift : Int}
    {bytes rest : List UInt8} {n : Number}
    (h : afterWhole negative significand shift exact bytes = .ok (n, rest)) :
    skipFraction bytes = .ok ((), rest) := by
  -- At the end of the number nothing is taken, however the number is made.
  have hend {made : Except Fault Number}
      (hmade : (made.bind fun y => .ok (y, bytes)) = .ok (n, rest)) : rest = bytes := by
    obtain ⟨y, -, hy⟩ := exists_of_bind_eq_ok hmade
    cases hy
    rfl
  cases bytes with
  | nil =>
    cases exact with
    | true =>
      rw [@hend (whole negative significand) h]
      rfl
    | false =>
      rw [@hend (real negative significand shift) h]
      rfl
  | cons b bytes =>
    rw [afterWhole] at h
    split at h
    · rename_i hpoint
      rw [hpoint]
      exact skipFraction_of_fraction h
    rename_i hpoint
    rw [skipFraction, if_neg hpoint, skipPower]
    split at h
    · rename_i hexp
      rw [if_pos hexp]
      exact skipExponent_of_exponent h
    · rename_i hexp
      rw [if_neg hexp]
      cases exact with
      | true => rw [@hend (whole negative significand) h]
      | false => rw [@hend (real negative significand shift) h]

/-- A number that can be read is passed over up to the same place. -/
theorem skipNumber_of_number {negative : Bool} {bytes rest : List UInt8} {n : Number}
    (h : number negative bytes = .ok (n, rest)) : skipNumber bytes = .ok ((), rest) := by
  cases bytes with
  | nil => cases h
  | cons b bytes =>
    rw [number] at h
    rw [skipNumber_cons]
    split at h
    · rename_i hzero
      split at h
      · cases h
      · rename_i hnone
        rw [Bool.not_eq_true] at hnone
        rw [hzero, hnone, if_neg (by decide), dropWhile_digits_eq_self hnone]
        exact skipFraction_of_afterWhole h
    rename_i hzero
    split at h
    · rename_i hdigit
      rw [if_neg (by simp [hdigit, hzero])]
      cases hsig : significand (digitValue b) bytes with
      | mk m p =>
        obtain ⟨taken, left⟩ := p
        rw [hsig] at h
        dsimp only at h
        rw [← (significand_spec hsig).1]
        split at h
        · exact skipFraction_of_afterWhole h
        · rename_i hnone
          rw [dropWhile_digits_eq_self (Bool.eq_false_iff.mpr hnone)]
          exact skipFraction_of_afterWhole h
    · cases h

/-! ### Strings -/

/-- What reads as the rest of a string is passed over as one. -/
theorem skipString_of_stringBytes {bytes content rest : List UInt8}
    (h : stringBytes bytes = .ok (content, rest)) : skipString bytes = .ok ((), rest) := by
  have hslash : byte '\\' ≠ byte '"' := by decide
  fun_induction stringBytes bytes generalizing content rest with
  | case2 start =>
    cases h
    rw [skipString.eq_def]
    simp only [if_true]
  | case6 h1 h2 h3 h4 start n hhex hlow hplain _ ih =>
    obtain ⟨content', hstart, -⟩ := exists_of_prepend_eq_ok h
    rw [skipString.eq_def]
    simp only [if_neg hslash, if_true, hhex, Option.isSome_some, ih hstart]
  | case13 h1 h2 h3 h4 n hhex hlow hplain s u hmark l1 l2 l3 l4 start m hhex' hlow' _ ih =>
    -- Two escapes stand for one character; each of them is passed over by itself.
    obtain ⟨content', hstart, -⟩ := exists_of_prepend_eq_ok h
    obtain ⟨hs, hu⟩ := not_or.mp hmark
    rw [skipString.eq_def]
    simp only [if_neg hslash, if_true, hhex, Option.isSome_some]
    rw [skipString.eq_def]
    simp only [not_not.mp hs, not_not.mp hu, if_neg hslash, if_true, hhex', Option.isSome_some,
      ih hstart]
  | case16 e start hu b hletter _ ih =>
    obtain ⟨content', hstart, -⟩ := exists_of_prepend_eq_ok h
    rw [skipString.eq_def]
    simp only [if_neg hslash, if_true, if_neg hu, hletter, Option.isSome_some, ih hstart]
  | case19 b start hquote hslash' hcontrol ih =>
    obtain ⟨content', hstart, -⟩ := exists_of_prepend_eq_ok h
    rw [skipString.eq_def]
    simp only [if_neg hquote, if_neg hslash', if_neg hcontrol, ih hstart]
  | _ => cases h

theorem skipString_quote (s : String) (rest : List UInt8) :
    ∃ bytes, Utf8.encode (quote s) ++ rest = byte '"' :: bytes ∧
      skipString bytes = .ok ((), rest) := by
  refine ⟨_, Utf8.encode_enclosed (by decide) (by decide) _ rest, ?_⟩
  exact skipString_of_stringBytes (stringBytes_escapes s.toList rest)

/-! ### Lengths -/

theorem length_of_skipBlanks {bytes start : List UInt8} {b : UInt8}
    (h : skipBlanks bytes = b :: start) : start.length < bytes.length := by
  have hsuffix : b :: start <:+ bytes := h ▸ List.dropWhile_suffix isBlank
  exact hsuffix.length_le

theorem not_blank_of_skipBlanks {bytes start : List UInt8} {b : UInt8}
    (h : skipBlanks bytes = b :: start) : isBlank b = false := by
  have hhead := List.head?_dropWhile_not isBlank bytes
  rw [← skipBlanks, h] at hhead
  simpa using hhead

theorem not_blank_of_isDigit {b : UInt8} (h : isDigit b = true) : isBlank b = false := by
  rw [Bool.eq_false_iff]
  intro hb
  simp only [isBlank, Bool.or_eq_true, beq_iff_eq] at hb
  rcases hb with ((rfl | rfl) | rfl) | rfl <;> cases h

theorem length_of_name {cs : List Char} {bytes rest : List UInt8}
    (h : name cs bytes = .ok ((), rest)) : rest.length ≤ bytes.length := by
  induction cs generalizing bytes with
  | nil =>
    cases h
    exact Nat.le_refl _
  | cons c cs ih =>
    cases bytes with
    | nil => cases h
    | cons b bytes =>
      rw [name] at h
      split at h
      · exact (ih h).trans (Nat.le_succ _)
      · cases h

theorem length_exponentSign (bytes : List UInt8) :
    (exponentSign bytes).2.length ≤ bytes.length := by
  cases bytes with
  | nil => exact Nat.le_refl _
  | cons b bytes =>
    rw [exponentSign]
    split
    · exact Nat.le_succ _
    split
    · exact Nat.le_succ _
    · exact Nat.le_refl _

theorem length_of_skipExponent {bytes rest : List UInt8}
    (h : skipExponent bytes = .ok ((), rest)) : rest.length ≤ bytes.length := by
  rw [skipExponent_eq] at h
  split at h
  · cases h
    exact ((List.dropWhile_suffix _).length_le).trans (length_exponentSign bytes)
  · cases h

theorem length_of_skipPower {bytes rest : List UInt8} (h : skipPower bytes = .ok ((), rest)) :
    rest.length ≤ bytes.length := by
  cases bytes with
  | nil =>
    cases h
    exact Nat.le_refl _
  | cons b bytes =>
    rw [skipPower] at h
    split at h
    · exact (length_of_skipExponent h).trans (Nat.le_succ _)
    · cases h
      exact Nat.le_refl _

theorem length_of_skipFraction {bytes rest : List UInt8}
    (h : skipFraction bytes = .ok ((), rest)) : rest.length ≤ bytes.length := by
  cases bytes with
  | nil =>
    cases h
    exact Nat.le_refl _
  | cons b bytes =>
    rw [skipFraction] at h
    split at h
    · split at h
      · cases h
      · have hdigits := (List.dropWhile_suffix (l := bytes) isDigit).length_le
        exact ((length_of_skipPower h).trans hdigits).trans (Nat.le_succ _)
    · exact length_of_skipPower h

theorem length_of_skipNumber {bytes rest : List UInt8} (h : skipNumber bytes = .ok ((), rest)) :
    rest.length < bytes.length := by
  cases bytes with
  | nil => cases h
  | cons b bytes =>
    rw [skipNumber_cons] at h
    split at h
    · cases h
    · have hdigits := (List.dropWhile_suffix (l := bytes) isDigit).length_le
      exact Nat.lt_succ_of_le ((length_of_skipFraction h).trans hdigits)

theorem length_of_skipString {bytes rest : List UInt8} (h : skipString bytes = .ok ((), rest)) :
    rest.length < bytes.length := by
  fun_induction skipString bytes with
  | case2 start =>
    cases h
    exact Nat.lt_succ_self _
  | case4 h1 h2 h3 h4 start _ _ ih =>
    have hstart := ih h
    simp only [List.length_cons]
    omega
  | case7 e start _ _ _ ih =>
    have hstart := ih h
    simp only [List.length_cons]
    omega
  | case10 b start _ _ _ ih => exact (ih h).trans (Nat.lt_succ_self _)
  | _ => cases h

theorem length_of_colon {bytes rest : List UInt8} (h : colon bytes = .ok ((), rest)) :
    rest.length < bytes.length := by
  rw [colon] at h
  split at h
  · cases h
  rename_i b start hb
  split at h
  · cases h
    exact length_of_skipBlanks hb
  · cases h

end ChatRelay.Json.Read
