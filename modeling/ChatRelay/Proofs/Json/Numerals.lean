import ChatRelay.Proofs.Json.Text
import ChatRelay.Proofs.Text.Trim

/-!
The numerals that are written for numbers: digits without a leading zero, and behind them a
fraction and a power of ten where the number has them. Only the digits in front need care, since a
zero may stand there alone but not before another digit.
-/

namespace ChatRelay.Number

def AllDigits (cs : List Char) : Prop := ∀ c ∈ cs, c.isDigit = true

/-- The digits before the point. -/
inductive WholePart : List Char → Prop where
  | zero : WholePart ['0']
  | digits {c : Char} {rest : List Char} (first : c.isDigit = true) (nonzero : c ≠ '0')
      (rest_digits : AllDigits rest) : WholePart (c :: rest)

inductive FractionPart : List Char → Prop where
  | none : FractionPart []
  | digits {cs : List Char} (nonempty : cs ≠ []) (digits : AllDigits cs) :
      FractionPart ('.' :: cs)

inductive PowerPart : List Char → Prop where
  | none : PowerPart []
  | digits {sign : Char} {cs : List Char} (signed : sign = '+' ∨ sign = '-') (nonempty : cs ≠ [])
      (digits : AllDigits cs) : PowerPart ('e' :: sign :: cs)

/-- A numeral without its sign. -/
def Numeral (cs : List Char) : Prop :=
  ∃ whole fraction power, cs = whole ++ (fraction ++ power) ∧ WholePart whole ∧
    FractionPart fraction ∧ PowerPart power

theorem allDigits_toDigits (n : Nat) : AllDigits (Nat.toDigits 10 n) :=
  fun _ h => isDigit_of_mem_toDigits h

theorem AllDigits.append {cs ds : List Char} (hcs : AllDigits cs) (hds : AllDigits ds) :
    AllDigits (cs ++ ds) :=
  fun c hc => (List.mem_append.mp hc).elim (hcs c) (hds c)

theorem allDigits_replicate (n : Nat) : AllDigits (List.replicate n '0') := by
  intro c hc
  rw [List.eq_of_mem_replicate hc]
  rfl

/-! ### The first digit -/

/-- Digits of which the first is no zero. -/
def Leading (cs : List Char) : Prop :=
  ∃ c rest, cs = c :: rest ∧ c.isDigit = true ∧ c ≠ '0' ∧ AllDigits rest

theorem Leading.allDigits {cs : List Char} (h : Leading cs) : AllDigits cs := by
  obtain ⟨c, rest, rfl, hc, -, hrest⟩ := h
  exact List.forall_mem_cons.mpr ⟨hc, hrest⟩

theorem Leading.wholePart {cs : List Char} (h : Leading cs) : WholePart cs := by
  obtain ⟨c, rest, rfl, hc, hne, hrest⟩ := h
  exact .digits hc hne hrest

theorem Leading.append {cs ds : List Char} (hcs : Leading cs) (hds : AllDigits ds) :
    Leading (cs ++ ds) := by
  obtain ⟨c, rest, rfl, hc, hne, hrest⟩ := hcs
  exact ⟨c, rest ++ ds, rfl, hc, hne, hrest.append hds⟩

theorem Leading.of_append {cs ds : List Char} (h : Leading (cs ++ ds)) (hne : cs ≠ []) :
    Leading cs := by
  obtain ⟨c, rest, heq, hc, hzero, hrest⟩ := h
  cases cs with
  | nil => exact absurd rfl hne
  | cons c' cs =>
    obtain ⟨rfl, rfl⟩ := List.cons.inj heq
    exact ⟨c', cs, rfl, hc, hzero, fun d hd => hrest d (List.mem_append_left ds hd)⟩

theorem leading_toDigits {n : Nat} (h : n ≠ 0) : Leading (Nat.toDigits 10 n) := by
  -- The induction takes the last digit off until there is one digit left.
  induction n using Nat.strongRecOn with
  | ind n ih =>
    rw [Nat.toDigits_eq_if (by decide)]
    split
    · rename_i hlt
      have hdigit : ∀ d < 10, d ≠ 0 → (Nat.digitChar d).isDigit = true ∧ Nat.digitChar d ≠ '0' := by
        decide
      obtain ⟨hfirst, hnonzero⟩ := hdigit n hlt h
      exact ⟨_, [], rfl, hfirst, hnonzero, fun c hc => absurd hc List.not_mem_nil⟩
    · rename_i hge
      have hsmaller : n / 10 < n := Nat.div_lt_self (Nat.pos_of_ne_zero h) (by decide)
      have hpos : n / 10 ≠ 0 := by omega
      apply (ih _ hsmaller hpos).append
      intro c hc
      rw [List.mem_singleton.mp hc]
      have hdigit : ∀ d < 10, (Nat.digitChar d).isDigit = true := by decide
      exact hdigit _ (Nat.mod_lt n (by decide))

/-- A whole number is written without a leading zero. -/
theorem wholePart_toDigits (n : Nat) : WholePart (Nat.toDigits 10 n) := by
  by_cases h : n = 0
  · rw [h]
    exact .zero
  · exact (leading_toDigits h).wholePart

/-! ### Shortest decimals -/

/-- Zero lies in no interval around a number that is not zero. -/
theorem Shortest.holds_zero {i : Interval} {num : Nat} (below : 0 < i.below) (positive : 0 < num)
    (den : Nat) (exponent : Int) : i.holds num den 0 exponent = false := by
  have hscale : 0 < if 0 ≤ exponent then num else num * Nat.pow 10 (-exponent).toNat := by
    split
    · exact positive
    · exact Nat.mul_pos positive (Nat.pow_pos (by decide))
  have hleft : (if 0 ≤ exponent then 0 * Nat.pow 10 exponent.toNat * den else 0 * den) = 0 := by
    split <;> simp
  have hle := Nat.not_le.mpr (Nat.mul_pos below hscale)
  have hlt := Nat.not_lt_zero (i.below * if 0 ≤ exponent then num else
    num * Nat.pow 10 (-exponent).toNat)
  unfold Interval.holds
  dsimp only
  rw [hleft, decide_eq_false hle, decide_eq_false hlt, Bool.false_and, Bool.false_and, ite_self]

theorem Shortest.onGrid_digits_ne_zero {i : Interval} {num den : Nat} {exponent : Int}
    {d : Decimal} (below : 0 < i.below) (positive : 0 < num)
    (h : onGrid i num den exponent = some d) : d.digits ≠ 0 := by
  obtain ⟨low, hd, hlow⟩ : ∃ low, (d.digits = low ∨ d.digits = low + 1) ∧
      (d.digits = low → i.holds num den low exponent = true) := by
    refine ⟨(neighbours i num den exponent).1, ?_⟩
    unfold onGrid at h
    cases hn : neighbours i num den exponent with
    | mk low half =>
      rw [hn] at h
      cases half
      all_goals
        dsimp only at h
        split at h
        · rename_i hlower
          cases h
          exact ⟨.inl rfl, fun _ => (Bool.and_eq_true_iff.mp hlower).1⟩
        split at h
        · cases h
          exact ⟨.inr rfl, fun hsame => absurd hsame (Nat.succ_ne_self low)⟩
        · cases h
  -- The lower neighbour is taken only if it lies in the interval, the upper one is no zero.
  intro hzero
  rcases hd with hd | hd
  · have hheld := hlow hd
    rw [← hd, hzero, holds_zero below positive] at hheld
    cases hheld
  · omega

theorem Shortest.search_digits_ne_zero {i : Interval} {num den : Nat} (value : i.value ≠ 0)
    (below : 0 < i.below) (positive : 0 < num) (fuel : Nat) (exponent : Int) :
    (search i num den fuel exponent).digits ≠ 0 := by
  induction fuel generalizing exponent with
  | zero => exact value
  | succ fuel ih =>
    rw [search]
    cases hgrid : onGrid i num den exponent with
    | none => exact ih (exponent - 1)
    | some d => exact onGrid_digits_ne_zero below positive hgrid

theorem Double.shortest_digits_ne_zero {x : Double} (h : x.mantissa ≠ 0) :
    x.shortest.digits ≠ 0 := by
  have hunit : 0 < (Shortest.unit x).1 := by
    unfold Shortest.unit
    split
    · exact Nat.pow_pos (by decide)
    · exact Nat.one_pos
  have hbelow : 0 < (Shortest.interval x).below := by
    simp only [Shortest.interval]
    split <;> omega
  have hvalue : (Shortest.interval x).value ≠ 0 := by
    simp only [Shortest.interval]
    omega
  rw [Double.shortest, if_neg h]
  exact Shortest.search_digits_ne_zero hvalue hbelow hunit _ _

/-- Trailing zeros are dropped, and no others. -/
theorem leading_scientific {d : Decimal} (h : d.digits ≠ 0) : Leading d.scientific.1 := by
  have hall := leading_toDigits h
  obtain ⟨back, hback, hzeros⟩ := Text.exists_dropEnd (· == '0') (Nat.toDigits 10 d.digits)
  have hkept : Text.dropEnd (· == '0') (Nat.toDigits 10 d.digits) ≠ [] := by
    intro hnil
    obtain ⟨c, rest, hcons, -, hc, -⟩ := hall
    rw [hnil, List.nil_append] at hback
    have hmem : c ∈ back := by
      rw [← hback, hcons]
      exact List.mem_cons_self
    exact hc (beq_iff_eq.mp (hzeros c hmem))
  have hfirst : d.scientific.1 = Text.dropEnd (· == '0') (Nat.toDigits 10 d.digits) := by
    rw [Decimal.scientific]
    exact if_neg (mt List.isEmpty_iff.mp hkept)
  rw [hback] at hall
  rw [hfirst]
  exact hall.of_append hkept

/-! ### Doubles -/

/-- What stands before the point may be a single zero, if no zero is put behind it. -/
theorem numeral_positional {digits : List Char} {n : Int}
    (h : Leading digits ∨ (digits = ['0'] ∧ n ≤ 1)) : Numeral (positional digits n) := by
  have hdigits : AllDigits digits := by
    rcases h with h | ⟨rfl, -⟩
    · exact h.allDigits
    · exact fun c hc => by rw [List.mem_singleton.mp hc]; rfl
  have hne : digits ≠ [] := by
    rcases h with ⟨c, rest, rfl, -⟩ | ⟨rfl, -⟩ <;> exact List.cons_ne_nil _ _
  unfold positional
  dsimp only
  split
  · -- All digits are behind the point.
    rename_i hn
    refine ⟨['0'], '.' :: (List.replicate (-n).toNat '0' ++ digits), [], ?_, .zero,
      .digits ?_ ((allDigits_replicate _).append hdigits), .none⟩
    · simp
    · simp [hne]
  split
  · -- All digits are before it.
    rename_i hn hlength
    refine ⟨digits ++ List.replicate (n.toNat - digits.length) '0', ['.', '0'], [], ?_, ?_,
      .digits (List.cons_ne_nil _ _) (allDigits_replicate 1), .none⟩
    · simp
    · rcases h with h | ⟨rfl, hle⟩
      · exact (h.append (allDigits_replicate _)).wholePart
      · have hone : n.toNat - ['0'].length = 0 := by
          rw [List.length_singleton]
          omega
        rw [hone]
        exact .zero
  · rename_i hn hlength
    have hdrop : digits.drop n.toNat ≠ [] := by
      intro hnil
      exact hlength (List.drop_eq_nil_iff.mp hnil)
    refine ⟨digits.take n.toNat, '.' :: digits.drop n.toNat, [], ?_, ?_,
      .digits hdrop fun c hc => hdigits c (List.mem_of_mem_drop hc), .none⟩
    · simp
    · -- A zero that is all of the digits would not have been cut.
      rcases h with h | ⟨rfl, hle⟩
      · have htake : digits.take n.toNat ≠ [] := by
          intro hnil
          rcases List.take_eq_nil_iff.mp hnil with hzero | hnil
          · omega
          · exact hne hnil
        have hsplit : Leading (digits.take n.toNat ++ digits.drop n.toNat) := by
          rwa [List.take_append_drop]
        exact (hsplit.of_append htake).wholePart
      · rw [List.length_singleton] at hlength
        omega

theorem numeral_exponential {digits : List Char} (hne : digits ≠ []) (hdigits : AllDigits digits)
    (exponent : Int) :
    Numeral (digits.take 1 ++ (if digits.length ≤ 1 then [] else '.' :: digits.drop 1) ++ ['e'] ++
      (if exponent < 0 then ['-'] else ['+']) ++ Nat.toDigits 10 exponent.natAbs) := by
  obtain ⟨c, rest, rfl⟩ := List.exists_cons_of_ne_nil hne
  obtain ⟨hc, hrest⟩ := List.forall_mem_cons.mp hdigits
  have hwhole : WholePart [c] := by
    by_cases hzero : c = '0'
    · rw [hzero]
      exact .zero
    · exact .digits hc hzero fun d hd => absurd hd List.not_mem_nil
  have hfraction : FractionPart (if (c :: rest).length ≤ 1 then [] else '.' :: rest) := by
    split
    · exact .none
    · rename_i hlength
      apply FractionPart.digits _ hrest
      rintro rfl
      exact hlength (Nat.le_refl 1)
  have hpower (sign : Char) (hsign : sign = '+' ∨ sign = '-') :
      PowerPart ('e' :: sign :: Nat.toDigits 10 exponent.natAbs) :=
    .digits hsign Nat.toDigits_ne_nil (allDigits_toDigits _)
  refine ⟨[c], _, _, ?_, hwhole, hfraction, hpower (if exponent < 0 then '-' else '+') ?_⟩
  · split <;> split <;> simp
  · split
    · exact .inr rfl
    · exact .inl rfl

theorem numeral_write_double (x : Double) : ∃ body, Numeral body ∧
    x.write .json = if x.negative then '-' :: body else body := by
  obtain ⟨digits, exponent, hpair, hlead⟩ : ∃ digits exponent,
      (if x.mantissa = 0 then (['0'], 0) else x.shortest.scientific) = (digits, exponent) ∧
        (Leading digits ∨ (digits = ['0'] ∧ exponent = 0)) := by
    by_cases hm : x.mantissa = 0
    · exact ⟨['0'], 0, if_pos hm, .inr ⟨rfl, rfl⟩⟩
    · exact ⟨_, _, if_neg hm, .inl (leading_scientific (Double.shortest_digits_ne_zero hm))⟩
  refine ⟨_, ?_, by simp only [Double.write, hpair]; rfl⟩
  split
  · apply numeral_positional
    refine hlead.imp_right fun hsmall => ⟨hsmall.1, ?_⟩
    have hzero := hsmall.2
    omega
  · apply numeral_exponential
    · rcases hlead with ⟨c, rest, rfl, -⟩ | ⟨rfl, -⟩ <;> exact List.cons_ne_nil _ _
    · rcases hlead with hlead | ⟨rfl, -⟩
      · exact hlead.allDigits
      · exact fun c hc => by rw [List.mem_singleton.mp hc]; rfl

end ChatRelay.Number

namespace ChatRelay.Json

open ChatRelay.Number (Numeral)

/-- A number is written as a numeral, with a minus before it or without. -/
theorem numeral_write_number (n : Number) : ∃ body, Numeral body ∧
    (n.write = body ∨ n.write = '-' :: body) := by
  cases n with
  | int n =>
    have hnumeral (k : Nat) : Numeral (Nat.toDigits 10 k) :=
      ⟨_, [], [], by simp, ChatRelay.Number.wholePart_toDigits k, .none, .none⟩
    rw [Number.write, Int.toString_eq_repr, Int.repr_eq_if]
    split
    · exact ⟨_, hnumeral _, .inl Nat.toList_repr⟩
    · refine ⟨_, hnumeral (-n).toNat, .inr ?_⟩
      rw [String.toList_append, Nat.toList_repr]
      rfl
  | real x =>
    obtain ⟨body, hbody, hx⟩ := ChatRelay.Number.numeral_write_double x
    rw [Number.write, hx]
    split
    · exact ⟨body, hbody, .inr rfl⟩
    · exact ⟨body, hbody, .inl rfl⟩

end ChatRelay.Json
