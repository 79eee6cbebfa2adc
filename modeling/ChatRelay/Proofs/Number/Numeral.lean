import Mathlib.Data.List.TakeDrop
import Mathlib.Data.List.TakeWhile
import ChatRelay.Number.Numeral
import ChatRelay.Proofs.Json.Numerals
import ChatRelay.Proofs.Json.RoundTrip

/-!
Whole numerals as numbers. Digits that are read as an integer of 64 bits are also read as a double,
and the digits of an integer beyond 64 bits as nothing but that.
-/

namespace ChatRelay.Number

/-! ### Digits -/

theorem digit?_of_isDigit {c : Char} (h : c.isDigit = true) :
    digit? c = some (c.toNat - '0'.toNat) := by
  have hrange : '0' ≤ c ∧ c ≤ '9' := by
    rw [Char.isDigit, Bool.and_eq_true, decide_eq_true_iff, decide_eq_true_iff] at h
    exact h
  rw [digit?, if_pos hrange]

theorem ofDigits_eq {cs : List Char} (h : AllDigits cs) :
    ofDigits cs = Nat.ofDigitChars 10 cs 0 := by
  -- Both go on from the number that the digits before have given.
  have hfold (start : Nat) : cs.foldl (fun n c => 10 * n + (digit? c).getD 0) start =
      Nat.ofDigitChars 10 cs start := by
    induction cs generalizing start with
    | nil => rfl
    | cons c cs ih =>
      obtain ⟨hc, hcs⟩ := List.forall_mem_cons.mp h
      rw [List.foldl_cons, Nat.ofDigitChars_cons, digit?_of_isDigit hc]
      exact ih hcs _
  exact hfold 0

theorem readNat?_eq_some_iff {cs : List Char} {n : Nat} :
    readNat? cs = some n ↔ cs ≠ [] ∧ AllDigits cs ∧ n = ofDigits cs := by
  unfold readNat?
  split
  · rename_i h
    simp only [Bool.or_eq_true, List.isEmpty_iff, Bool.not_eq_true', List.all_eq_false] at h
    refine iff_of_false (fun h => nomatch h) ?_
    rintro ⟨hne, hdigits, -⟩
    rcases h with h | ⟨c, hc, hnot⟩
    · exact hne h
    · exact hnot (hdigits c hc)
  · rename_i h
    simp only [Bool.or_eq_true, List.isEmpty_iff, Bool.not_eq_true', not_or, Bool.not_eq_false,
      List.all_eq_true] at h
    constructor
    · rintro ⟨⟩
      exact ⟨h.1, h.2, rfl⟩
    · rintro ⟨-, -, rfl⟩
      rfl

theorem readNat?_toDigits (n : Nat) : readNat? (Nat.toDigits 10 n) = some n := by
  refine readNat?_eq_some_iff.mpr ⟨Nat.toDigits_ne_nil, allDigits_toDigits n, ?_⟩
  rw [ofDigits_eq (allDigits_toDigits n), Nat.ofDigitChars_ten_toDigits]

theorem digitChar_of_isDigit {c : Char} (h : c.isDigit = true) :
    Nat.digitChar (c.toNat - '0'.toNat) = c ∧ c.toNat - '0'.toNat < 10 := by
  have hrange : 48 ≤ c.toNat ∧ c.toNat ≤ 57 := by
    rw [Char.isDigit, Bool.and_eq_true, decide_eq_true_iff, decide_eq_true_iff] at h
    exact h
  have hall : ∀ n < 10, Nat.digitChar n = Char.ofNat (n + 48) := by decide
  have hzero : '0'.toNat = 48 := rfl
  have hten : c.toNat - '0'.toNat < 10 := by omega
  refine ⟨?_, hten⟩
  rw [hall _ hten, hzero, Nat.sub_add_cancel hrange.1, Char.ofNat_toNat]

/-- Digits without a leading zero are those of the number that they write. -/
theorem toDigits_ofDigitChars {cs : List Char} (h : WholePart cs) :
    Nat.toDigits 10 (Nat.ofDigitChars 10 cs 0) = cs := by
  cases h with
  | zero => rfl
  | @digits c rest first nonzero rest_digits =>
    -- The induction takes off the last digit, which is the one that division by ten leaves over.
    induction rest using List.reverseRecOn with
    | nil =>
      obtain ⟨hchar, hten⟩ := digitChar_of_isDigit first
      rw [Nat.ofDigitChars_cons, Nat.ofDigitChars_nil, Nat.mul_zero, Nat.zero_add,
        Nat.toDigits_of_lt_base hten, hchar]
    | append_singleton rest d ih =>
      obtain ⟨hrest, hd⟩ := List.forall_mem_append.mp rest_digits
      obtain ⟨hchar, hten⟩ := digitChar_of_isDigit (hd d (List.mem_singleton_self d))
      have hfront := ih hrest
      have hpos : 0 < Nat.ofDigitChars 10 (c :: rest) 0 := by
        apply Nat.pos_of_ne_zero
        intro hzero
        rw [hzero, Nat.toDigits_zero] at hfront
        exact nonzero (List.cons.inj hfront).1.symm
      rw [← List.cons_append, Nat.ofDigitChars_append, Nat.ofDigitChars_cons, Nat.ofDigitChars_nil,
        ← Nat.toDigits_append_toDigits (by decide) hpos hten, hfront,
        Nat.toDigits_of_lt_base hten, hchar]

/-! ### Integers -/

theorem takeSign_digits {cs : List Char} (h : AllDigits cs) : takeSign cs = (false, cs) := by
  cases cs with
  | nil => rfl
  | cons c cs =>
    have hc := h c List.mem_cons_self
    unfold takeSign
    split
    · rename_i heq
      cases heq
      cases hc
    · rename_i heq
      cases heq
      cases hc
    · rfl

theorem fitsInt64_iff {n : Int} :
    fitsInt64 n = true ↔ -0x8000000000000000 ≤ n ∧ n < 0x8000000000000000 := by
  rw [fitsInt64, Bool.and_eq_true, decide_eq_true_iff, decide_eq_true_iff]

def signed (negative : Bool) (k : Nat) : Int := if negative then -k else k

/-- What is read as an integer is a sign and digits, and fits into 64 bits. -/
theorem readInt64?_eq_some_iff {cs : List Char} {n : Int} : readInt64? cs = some n ↔
    ∃ k, readNat? (takeSign cs).2 = some k ∧ n = signed (takeSign cs).1 k ∧
      fitsInt64 n = true := by
  have hread : readInt64? cs = (readNat? (takeSign cs).2).bind fun k =>
      if fitsInt64 (signed (takeSign cs).1 k) then some (signed (takeSign cs).1 k) else none := rfl
  simp only [hread, Option.bind_eq_some_iff, Option.ite_none_right_eq_some, Option.some.injEq]
  constructor
  · rintro ⟨k, hk, hfits, rfl⟩
    exact ⟨k, hk, rfl, hfits⟩
  · rintro ⟨k, hk, rfl, hfits⟩
    exact ⟨k, hk, hfits, rfl⟩

/-- An integer is written with a sign if it is negative, and with the digits of its magnitude. -/
theorem takeSign_toString (n : Int) :
    ∃ k, takeSign (toString n).toList = (decide (n < 0), Nat.toDigits 10 k) ∧
      n = signed (decide (n < 0)) k := by
  rw [Int.toString_eq_repr, Int.repr_eq_if]
  split
  · rename_i hsign
    have hn : ¬ n < 0 := by omega
    refine ⟨n.toNat, ?_, ?_⟩
    · rw [Nat.toList_repr, takeSign_digits (allDigits_toDigits _), decide_eq_false hn]
    · rw [decide_eq_false hn, signed, if_neg (by decide), Int.toNat_of_nonneg hsign]
  · rename_i hsign
    have hn : n < 0 := by omega
    refine ⟨(-n).toNat, ?_, ?_⟩
    · rw [String.toList_append, Nat.toList_repr, decide_eq_true hn]
      rfl
    · rw [decide_eq_true hn, signed, if_pos rfl]
      omega

/-- An integer is read as it is written, unless 64 bits are too few for it. -/
theorem readInt64?_toString (n : Int) :
    readInt64? (toString n).toList = if fitsInt64 n then some n else none := by
  -- Sign and digits are read back as they are, and only the range is left to be looked at.
  obtain ⟨k, hsign, hn⟩ := takeSign_toString n
  apply Option.ext
  intro m
  rw [readInt64?_eq_some_iff, hsign, Option.ite_none_right_eq_some, Option.some.injEq]
  simp only [readNat?_toDigits, Option.some.injEq, exists_eq_left', ← hn]
  constructor
  · rintro ⟨rfl, hfits⟩
    exact ⟨hfits, rfl⟩
  · rintro ⟨hfits, rfl⟩
    exact ⟨rfl, hfits⟩

/-! ### Doubles -/

/-- No whole number of 64 bits is beyond the doubles. -/
theorem exists_ofQuotient {n : Nat} (h : n < 0x10000000000000000) (negative : Bool) :
    ∃ x, Double.ofQuotient negative n 1 = some x := by
  unfold Double.ofQuotient
  split
  · exact ⟨_, rfl⟩
  · rename_i hzero
    -- The exponent is that of the leading bit, less the bits that a double keeps behind it.
    have hlog : n.log2 < 64 := (Nat.log2_lt hzero).mpr h
    have hone : Nat.log2 1 = 0 := by decide
    have hexponent : Double.binaryExponent n 1 ≤ 64 := by
      unfold Double.binaryExponent
      rw [hone]
      dsimp only
      split <;> omega
    have hsmall :
        max Double.leastExponent (Double.binaryExponent n 1 - Double.leadingBit) < 64 := by
      unfold Double.leastExponent Double.leadingBit
      omega
    have hgreatest : Double.greatestExponent = 971 := rfl
    dsimp only
    -- Rounding may add a bit, which leaves the exponent far below the greatest one.
    split
    · rw [if_neg (by omega)]
      exact ⟨_, rfl⟩
    · rw [if_neg (by omega)]
      exact ⟨_, rfl⟩

/-- A whole number is the nearest double to itself, whichever way it is read. -/
theorem ofDecimal_whole {n : Nat} (h : n < 0x10000000000000000) (negative : Bool) :
    Double.ofDecimal negative n 0 = Double.ofQuotient negative n 1 := by
  by_cases hzero : n = 0
  · rw [hzero]
    rfl
  · have hsize : (Nat.toDigits 10 n).length ≤ 20 :=
      (Nat.length_toDigits_le_iff (by decide) (by decide)).mpr (by omega)
    have hpow : n * Nat.pow 10 (0 : Int).toNat = n := Nat.mul_one n
    -- Twenty digits are neither too many nor too few for the power of ten to be taken.
    unfold Double.ofDecimal
    rw [if_neg hzero]
    dsimp only
    rw [if_neg (by omega), if_neg (by omega), if_pos (by decide), hpow]

theorem toLower_of_isDigit {c : Char} (h : c.isDigit = true) : c.toLower = c := by
  obtain ⟨n, hn, rfl⟩ := Json.Read.exists_digitChar h
  revert n
  decide

theorem readDecimal?_digits {cs : List Char} (hne : cs ≠ []) (h : AllDigits cs) :
    readDecimal? cs = some (ofDigits cs, 0) := by
  have hspan : takeDigits cs = (cs, []) := by
    rw [takeDigits, List.span_eq_takeWhile_dropWhile, List.takeWhile_eq_self_iff.mpr h,
      List.dropWhile_eq_nil_iff.mpr h]
  have hempty : ¬ (cs.isEmpty && List.isEmpty ([] : List Char)) = true := by
    rw [Bool.and_eq_true, List.isEmpty_iff]
    exact fun h => hne h.1
  simp only [readDecimal?, hspan]
  rw [if_neg hempty, List.append_nil]
  rfl

/-- A sign and digits are read as the double nearest to them. -/
theorem readExtended?_digits {cs digits : List Char} {negative : Bool}
    (hsign : takeSign cs = (negative, digits)) (hne : digits ≠ []) (h : AllDigits digits) :
    readExtended? cs = some (match Double.ofDecimal negative (ofDigits digits) 0 with
      | some x => .finite x
      | none => .infinite negative) := by
  -- Digits are never the name of a number.
  have hname {first : Char} {more : List Char} (hfirst : first.isDigit = false) :
      digits.map Char.toLower ≠ first :: more := by
    obtain ⟨c, rest, rfl⟩ := List.exists_cons_of_ne_nil hne
    have hc := h c List.mem_cons_self
    rw [List.map_cons, toLower_of_isDigit hc]
    intro heq
    rw [(List.cons.inj heq).1, hfirst] at hc
    cases hc
  have hinf : digits.map Char.toLower ≠ ['i', 'n', 'f'] := hname rfl
  have hinfinity : digits.map Char.toLower ≠ ['i', 'n', 'f', 'i', 'n', 'i', 't', 'y'] := hname rfl
  have hnan : digits.map Char.toLower ≠ ['n', 'a', 'n'] := hname rfl
  simp only [readExtended?, hsign]
  rw [if_neg (by simp [hinf, hinfinity]), if_neg hnan, readDecimal?_digits hne h]
  rfl

/-- Every text of an integer of 64 bits is read as a finite double as well. -/
theorem exists_finite_of_readInt64? {cs : List Char} {n : Int} (h : readInt64? cs = some n) :
    ∃ x, readExtended? cs = some (.finite x) := by
  obtain ⟨k, hk, hn, hfits⟩ := readInt64?_eq_some_iff.mp h
  obtain ⟨hlow, hhigh⟩ := fitsInt64_iff.mp hfits
  cases hsign : takeSign cs with
  | mk negative digits =>
    rw [hsign] at hk hn
    dsimp only at hk hn
    obtain ⟨hne, hdigits, rfl⟩ := readNat?_eq_some_iff.mp hk
    -- With either sign the magnitude has at most 64 bits.
    have hlt : ofDigits digits < 0x10000000000000000 := by
      unfold signed at hn
      split at hn <;> omega
    obtain ⟨x, hx⟩ := exists_ofQuotient hlt negative
    refine ⟨x, ?_⟩
    rw [readExtended?_digits hsign hne hdigits, ofDecimal_whole hlt, hx]

/-- The text of a natural number of 64 bits is read as the double nearest to it. -/
theorem readExtended?_toString {n : Nat} (h : n < 0x10000000000000000) :
    ∃ x, Double.ofNat n = some x ∧ readExtended? (toString n).toList = some (.finite x) := by
  obtain ⟨x, hx⟩ := exists_ofQuotient h false
  have hdigits := allDigits_toDigits n
  have hvalue : ofDigits (Nat.toDigits 10 n) = n := by
    rw [ofDigits_eq hdigits, Nat.ofDigitChars_ten_toDigits]
  refine ⟨x, hx, ?_⟩
  rw [Nat.toString_eq_repr, Nat.toList_repr,
    readExtended?_digits (takeSign_digits hdigits) Nat.toDigits_ne_nil hdigits, hvalue,
    ofDecimal_whole h, hx]

end ChatRelay.Number
