import ChatRelay.Proofs.Json.Reading
import ChatRelay.Proofs.Json.Skipping

/-!
Numbers that are read back. A whole number of 64 bits is written digit by digit and read as
itself, so that what is read back of a value that has been read depends on its doubles only.
-/

namespace ChatRelay.Json

/-- That a number stands somewhere in a value. -/
inductive Occurs (n : Number) : Json → Prop where
  | here : Occurs n (.number n)
  | item {xs : List Json} {x : Json} (hx : x ∈ xs) (h : Occurs n x) : Occurs n (.array xs)
  | member {ms : Members} {m : String × Json} (hm : m ∈ ms) (h : Occurs n m.2) :
      Occurs n (.object ms)

theorem occurs_object_iff {n : Number} {ms : Members} :
    Occurs n (.object ms) ↔ ∃ m ∈ ms, Occurs n m.2 := by
  constructor
  · rintro (- | - | ⟨hm, h⟩)
    exact ⟨_, hm, h⟩
  · rintro ⟨m, hm, h⟩
    exact .member hm h

/-- The integers that readers give: those of 64 bits, with a sign or without. -/
def Number.Fits : Number → Prop
  | .int n => -0x8000000000000000 ≤ n ∧ n < 0x10000000000000000
  | .real _ => True

namespace Read

/-! ### What is read -/

theorem significand_lt {start n taken : Nat} {bytes left : List UInt8}
    (h : significand start bytes = (n, taken, left)) (hstart : start < significandLimit) :
    n < significandLimit := by
  induction bytes generalizing start n taken with
  | nil =>
    cases h
    exact hstart
  | cons b bytes ih =>
    rw [significand] at h
    split at h
    · rename_i hdigit
      cases hmore : significand (start * 10 + digitValue b) bytes with
      | mk n' p =>
        rw [hmore] at h
        cases h
        have hlt := (Bool.and_eq_true_iff.mp hdigit).2
        exact ih hmore (of_decide_eq_true hlt)
    · cases h
      exact hstart

theorem fits_real {negative : Bool} {significand : Nat} {exponent : Int} {n : Number}
    (h : real negative significand exponent = .ok n) : n.Fits := by
  unfold real at h
  split at h
  · cases h
    trivial
  · cases h

theorem fits_whole {negative : Bool} {significand : Nat} {n : Number}
    (hlt : significand < significandLimit) (h : whole negative significand = .ok n) : n.Fits := by
  have hlimit : significandLimit = 0x10000000000000000 := rfl
  unfold whole at h
  split at h
  · cases h
    exact ⟨by omega, by omega⟩
  split at h
  · exact fits_real h
  · rename_i hsmall
    cases h
    rw [Bool.or_eq_true, not_or, decide_eq_true_iff, decide_eq_true_iff] at hsmall
    exact ⟨by omega, by omega⟩

theorem fits_exponent {negative : Bool} {significand : Nat} {shift : Int}
    {bytes rest : List UInt8} {n : Number}
    (h : exponent negative significand shift bytes = .ok (n, rest)) : n.Fits := by
  rw [exponent_eq] at h
  obtain ⟨⟨k, rest'⟩, -, h⟩ := exists_of_bind_eq_ok h
  obtain ⟨n', hraise, hpair⟩ := exists_of_map_eq_ok h
  cases hpair
  unfold raise at hraise
  split at hraise
  · split at hraise
    · cases hraise
    · cases hraise
      trivial
  · exact fits_real hraise

theorem fits_afterFraction {negative : Bool} {significand : Nat} {shift : Int}
    {bytes rest : List UInt8} {n : Number}
    (h : afterFraction negative significand shift bytes = .ok (n, rest)) : n.Fits := by
  cases bytes with
  | nil =>
    obtain ⟨n', hn, h⟩ := exists_of_bind_eq_ok h
    cases h
    exact fits_real hn
  | cons b bytes =>
    rw [afterFraction] at h
    split at h
    · exact fits_exponent h
    · obtain ⟨n', hn, h⟩ := exists_of_bind_eq_ok h
      cases h
      exact fits_real hn

theorem fits_fraction {negative : Bool} {start : Nat} {shift : Int} {bytes rest : List UInt8}
    {n : Number} (h : fraction negative start shift bytes = .ok (n, rest)) : n.Fits := by
  unfold fraction at h
  dsimp only at h
  split at h
  · split at h
    · exact fits_afterFraction h
    split at h
    · cases h
    · exact fits_afterFraction h
  · split at h
    · cases h
    · exact fits_afterFraction h

theorem fits_afterWhole {negative : Bool} {significand : Nat} {shift : Int} {exact : Bool}
    (hlt : significand < significandLimit) {bytes rest : List UInt8} {n : Number}
    (h : afterWhole negative significand shift exact bytes = .ok (n, rest)) : n.Fits := by
  have hwhole {more : List UInt8} (h : (whole negative significand).bind (fun m => .ok (m, more)) =
      .ok (n, rest)) : n.Fits := by
    obtain ⟨m, hm, h⟩ := exists_of_bind_eq_ok h
    cases h
    exact fits_whole hlt hm
  have hreal {more : List UInt8}
      (h : (real negative significand shift).bind (fun m => .ok (m, more)) = .ok (n, rest)) :
      n.Fits := by
    obtain ⟨m, hm, h⟩ := exists_of_bind_eq_ok h
    cases h
    exact fits_real hm
  cases bytes with
  | nil =>
    cases exact with
    | true => exact hwhole h
    | false => exact hreal h
  | cons b bytes =>
    rw [afterWhole] at h
    split at h
    · exact fits_fraction h
    split at h
    · exact fits_exponent h
    · cases exact with
      | true => exact hwhole h
      | false => exact hreal h

theorem fits_number {negative : Bool} {bytes rest : List UInt8} {n : Number}
    (h : number negative bytes = .ok (n, rest)) : n.Fits := by
  cases bytes with
  | nil => cases h
  | cons b bytes =>
    rw [number] at h
    split at h
    · split at h
      · cases h
      · exact fits_afterWhole (by decide) h
    split at h
    · have hdigit : digitValue b < significandLimit := by
        have hbyte : b.toNat < 256 := b.toNat_lt
        have hlimit : significandLimit = 0x10000000000000000 := rfl
        unfold digitValue
        omega
      cases hsig : significand (digitValue b) bytes with
      | mk m p =>
        have hlt := significand_lt hsig hdigit
        rw [hsig] at h
        dsimp only at h
        split at h
        · exact fits_afterWhole hlt h
        · exact fits_afterWhole hlt h
    · cases h

/-- Every number in a value that has been read is a double or an integer of 64 bits. -/
theorem fits_of_value {depth : Nat} {bytes rest : List UInt8} {v : Json}
    (h : value depth bytes = .ok (v, rest)) : ∀ n, Occurs n v → n.Fits := by
  -- The induction is on the depth, since the parts of a value are read with one less.
  induction depth generalizing bytes rest v with
  | zero =>
    intro n hn
    cases reading_of_value h with
    | negative hb hnumber =>
      cases hn
      exact fits_number hnumber
    | number hb digit hnumber =>
      cases hn
      exact fits_number hnumber
    | _ => cases hn
  | succ depth ih =>
    intro n hn
    cases reading_of_value h with
    | negative hb hnumber =>
      cases hn
      exact fits_number hnumber
    | number hb digit hnumber =>
      cases hn
      exact fits_number hnumber
    | array hb hitems =>
      cases hn with
      | item hx hin =>
        have hall := forall_mem_of_items (P := fun x => ∀ n, Occurs n x → n.Fits)
          (fun bytes x rest hx => ih hx) hitems
        exact hall _ hx n hin
    | object hb hmembers =>
      have hall := forall_mem_of_members (P := fun x => ∀ n, Occurs n x → n.Fits)
        (fun bytes x rest hx => ih hx) hmembers
      cases hn with
      | member hm hin => exact hall _ (Members.mem_of_mem_ofList hm) n hin
    | _ => cases hn

/-! ### What is read back -/

theorem digitValue_byte {c : Char} (h : c.isDigit = true) :
    digitValue (byte c) = c.toNat - '0'.toNat := by
  obtain ⟨n, hn, rfl⟩ := exists_digitChar h
  revert n
  decide

/-- Digits are taken into a significand as long as they fit, and all of them fit if the number
that they write does. -/
theorem significand_digits {cs : List Char} (h : ChatRelay.Number.AllDigits cs) {start : Nat}
    (hlt : Nat.ofDigitChars 10 cs start < significandLimit) {rest : List UInt8}
    (hrest : ∀ b ∈ rest.head?, isDigit b = false) :
    significand start (Utf8.encode cs ++ rest) =
      (Nat.ofDigitChars 10 cs start, cs.length, rest) := by
  induction cs generalizing start with
  | nil =>
    change significand start rest = (start, 0, rest)
    cases rest with
    | nil => rfl
    | cons b rest =>
      have hb : ¬ (isDigit b && decide (start * 10 + digitValue b < significandLimit)) = true := by
        rw [hrest b rfl, Bool.false_and]
        decide
      rw [significand, if_neg hb]
  | cons c cs ih =>
    obtain ⟨hc, hcs⟩ := List.forall_mem_cons.mp h
    obtain ⟨hascii, hdigit, -⟩ := digit_byte hc
    rw [Nat.ofDigitChars_cons, Nat.mul_comm, ← digitValue_byte hc] at hlt ⊢
    have hle : start * 10 + digitValue (byte c) ≤
        Nat.ofDigitChars 10 cs (start * 10 + digitValue (byte c)) := by
      rw [Nat.ofDigitChars_eq_ofDigitChars_zero]
      have hpow : 1 ≤ 10 ^ cs.length := Nat.pow_pos (by decide)
      have hmul := Nat.mul_le_mul_right (start * 10 + digitValue (byte c)) hpow
      omega
    have hfits : (isDigit (byte c) &&
        decide (start * 10 + digitValue (byte c) < significandLimit)) = true := by
      rw [hdigit, Bool.true_and, decide_eq_true_iff]
      omega
    rw [Utf8.encode_ascii_cons hascii, List.cons_append, significand, if_pos hfits, ih hcs hlt]
    rfl

theorem afterWhole_ends {rest : List UInt8} (hrest : EndsNumber rest) (negative : Bool) (n : Nat) :
    afterWhole negative n 0 true rest = (whole negative n).map fun m => (m, rest) := by
  cases rest with
  | nil =>
    change (whole negative n).bind (fun m => .ok (m, [])) = _
    cases whole negative n <;> rfl
  | cons b rest =>
    obtain ⟨-, hpoint, -, -⟩ := hrest b rfl
    rw [afterWhole, if_neg hpoint, if_neg hrest.not_exponent]
    change (whole negative n).bind (fun m => .ok (m, b :: rest)) = _
    cases whole negative n <;> rfl

theorem afterFraction_ends {rest : List UInt8} (hrest : EndsNumber rest) (negative : Bool) (n : Nat)
    (shift : Int) :
    afterFraction negative n shift rest = (real negative n shift).map fun m => (m, rest) := by
  cases rest with
  | nil =>
    change (real negative n shift).bind (fun m => .ok (m, [])) = _
    cases real negative n shift <;> rfl
  | cons b rest =>
    rw [afterFraction, if_neg hrest.not_exponent]
    change (real negative n shift).bind (fun m => .ok (m, b :: rest)) = _
    cases real negative n shift <;> rfl

/-- The digits of a fraction go on with the significand, and each of them takes a power of ten. -/
theorem fraction_digits {cs : List Char} (hne : cs ≠ []) (h : ChatRelay.Number.AllDigits cs)
    {start : Nat} (hlt : Nat.ofDigitChars 10 cs start < significandLimit) {rest : List UInt8}
    (hrest : EndsNumber rest) (negative : Bool) (shift : Int) :
    fraction negative start shift (Utf8.encode cs ++ rest) =
      (real negative (Nat.ofDigitChars 10 cs start) (shift - cs.length)).map fun m => (m, rest) := by
  have htaken : ¬ cs.length = 0 := mt List.eq_nil_of_length_eq_zero hne
  rw [fraction, significand_digits h hlt hrest.not_digit, ← afterFraction_ends hrest]
  cases rest with
  | nil => exact if_neg htaken
  | cons b rest =>
    dsimp only
    rw [hrest.not_digit b rfl, if_neg (by decide), if_neg htaken]

/-- The digits of a number of 64 bits are read as the number. -/
theorem number_digits {n : Nat} (hn : n < significandLimit) {rest : List UInt8}
    (hrest : EndsNumber rest) (negative : Bool) :
    number negative (Utf8.encode (Nat.toDigits 10 n) ++ rest) =
      (whole negative n).map fun m => (m, rest) := by
  have hnone := head?_any_eq_false hrest.not_digit
  by_cases hzero : n = 0
  · have hdigits : Utf8.encode (Nat.toDigits 10 0) = [byte '0'] := by decide
    rw [hzero, hdigits, List.singleton_append, number, if_pos rfl, hnone, if_neg (by decide)]
    exact afterWhole_ends hrest negative 0
  · obtain ⟨c, cs, hcons, hc, hne, hcs⟩ := ChatRelay.Number.leading_toDigits hzero
    obtain ⟨hascii, hdigit, hfirst⟩ := digit_byte hc
    have hvalue : Nat.ofDigitChars 10 cs (digitValue (byte c)) = n := by
      have hall := @Nat.ofDigitChars_ten_toDigits n
      rwa [hcons, Nat.ofDigitChars_cons, Nat.mul_zero, Nat.zero_add, ← digitValue_byte hc] at hall
    have hsig := significand_digits hcs (hvalue.trans_lt hn) hrest.not_digit
    rw [hvalue] at hsig
    rw [hcons, Utf8.encode_ascii_cons hascii, List.cons_append, number, if_neg (hfirst hne),
      if_pos hdigit, hsig]
    simp only [hnone, Bool.false_eq_true, if_false]
    exact afterWhole_ends hrest negative n

/-- An integer of 64 bits reads back. -/
theorem numberReadsBack_int {n : Int} (h : (Number.int n).Fits) : NumberReadsBack (.int n) := by
  have hlimit : significandLimit = 0x10000000000000000 := rfl
  obtain ⟨hlow, hhigh⟩ := h
  intro depth rest hrest
  apply Reading.value_eq
  rw [Number.write, Int.toString_eq_repr, Int.repr_eq_if]
  split
  · rename_i hsign
    obtain ⟨c, cs, hcons, hc, -⟩ := ChatRelay.Number.unsigned_toDigits n.toNat
    obtain ⟨hascii, hdigit, -⟩ := digit_byte hc
    have hn : n.toNat < significandLimit := by omega
    have hread := number_digits hn hrest false
    have hwhole : whole false n.toNat = .ok (.int n) := by
      rw [whole, if_pos (by decide), Int.toNat_of_nonneg hsign]
    rw [hwhole] at hread
    rw [Nat.toList_repr]
    rw [hcons, Utf8.encode_ascii_cons hascii, List.cons_append] at hread ⊢
    exact .number (skipBlanks_cons (not_blank_of_isDigit hdigit) _) hdigit hread
  · rename_i hsign
    have hn : (-n).toNat < significandLimit := by omega
    have hread := number_digits hn hrest true
    have hzero : ¬ ((-n).toNat = 0 || 0x8000000000000000 < (-n).toNat) = true := by
      rw [Bool.or_eq_true, not_or, decide_eq_true_iff, decide_eq_true_iff]
      exact ⟨by omega, by omega⟩
    have hwhole : whole true (-n).toNat = .ok (.int n) := by
      rw [whole, if_neg (by decide), if_neg hzero]
      have hvalue : -((-n).toNat : Int) = n := by omega
      rw [hvalue]
    rw [hwhole] at hread
    have hlist : ("-" ++ (-n).toNat.repr).toList = '-' :: Nat.toDigits 10 (-n).toNat := by
      rw [String.toList_append, Nat.toList_repr]
      rfl
    rw [hlist, Utf8.encode_ascii_cons (by decide), List.cons_append]
    exact .negative (skipBlanks_cons (by decide) _) hread

/-- Both zeros read back, each with its sign. -/
theorem numberReadsBack_zero (negative : Bool) :
    NumberReadsBack (.real (ChatRelay.Number.Double.zero negative)) := by
  intro depth rest hrest
  have hdigits : ChatRelay.Number.AllDigits ['0'] := List.forall_mem_singleton.mpr rfl
  have hvalue : Nat.ofDigitChars 10 ['0'] 0 = 0 := rfl
  have hfraction : fraction negative 0 0 (Utf8.encode ['0'] ++ rest) =
      .ok (.real (ChatRelay.Number.Double.zero negative), rest) := by
    rw [fraction_digits (List.cons_ne_nil _ _) hdigits (by decide) hrest, hvalue]
    rfl
  apply Reading.value_eq
  cases negative with
  | false =>
    have hwrite : (Number.real (ChatRelay.Number.Double.zero false)).write =
        '0' :: '.' :: ['0'] := by decide +kernel
    rw [hwrite]
    exact .number (skipBlanks_cons (by decide) _) (by decide) hfraction
  | true =>
    have hwrite : (Number.real (ChatRelay.Number.Double.zero true)).write =
        '-' :: '0' :: '.' :: ['0'] := by decide +kernel
    rw [hwrite]
    exact .negative (skipBlanks_cons (by decide) _) hfraction

/-- What has been read is read back if its doubles are. -/
theorem readsBack_of_nested {depth : Nat} {v : Json} (h : Nested depth v)
    (fits : ∀ n, Occurs n v → n.Fits)
    (doubles : ∀ x, Occurs (.real x) v → NumberReadsBack (.real x)) : ReadsBack depth v := by
  induction h with
  | null => exact .null
  | bool b => exact .bool b
  | number n =>
    cases n with
    | int n => exact .number (numberReadsBack_int (fits _ .here))
    | real x => exact .number (doubles x .here)
  | string s => exact .string s
  | array hxs ih =>
    apply ReadsBack.array
    intro x hx
    exact ih x hx (fun n hn => fits n (.item hx hn)) fun y hy => doubles y (.item hx hy)
  | object hms ordered ih =>
    refine .object ?_ ordered.ofList_eq
    intro m hm
    exact ih m hm (fun n hn => fits n (.member hm hn)) fun y hy => doubles y (.member hm hy)

end Read

end ChatRelay.Json
