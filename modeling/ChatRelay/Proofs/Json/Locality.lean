import ChatRelay.Proofs.Json.Reading
import Mathlib.Data.List.TakeWhile

/-!
Reading looks no further than it has to. A number shows where it ends only by the byte behind it;
everything else shows by itself where it stops, so that it is read the same whatever follows.
-/

namespace ChatRelay.Json.Read

/-- A reader that stops before the end of its bytes does not look behind the place where it
stops. -/
def Local (reader : Reader α) : Prop :=
  ∀ {bytes rest : List UInt8} {x : α}, reader bytes = .ok (x, rest) → rest ≠ [] →
    ∀ more, reader (bytes ++ more) = .ok (x, rest ++ more)

/-- A reader that shows by itself where it stops. -/
def Closed (reader : Reader α) : Prop :=
  ∀ {bytes rest : List UInt8} {x : α}, reader bytes = .ok (x, rest) →
    ∀ more, reader (bytes ++ more) = .ok (x, rest ++ more)

theorem skipBlanks_append {bytes start : List UInt8} {b : UInt8}
    (h : skipBlanks bytes = b :: start) (more : List UInt8) :
    skipBlanks (bytes ++ more) = b :: (start ++ more) := by
  unfold skipBlanks at *
  rw [List.dropWhile_append, h]
  rfl

theorem closed_name (cs : List Char) : Closed (name cs) := by
  intro bytes rest x h more
  induction cs generalizing bytes with
  | nil =>
    cases h
    rfl
  | cons c cs ih =>
    cases bytes with
    | nil => cases h
    | cons b bytes =>
      rw [name] at h
      rw [List.cons_append, name]
      split at h
      · rename_i hb
        rw [if_pos hb]
        exact ih h
      · cases h

/-! ### Numbers -/

theorem significand_append {start n taken : Nat} {bytes left : List UInt8}
    (h : significand start bytes = (n, taken, left)) (hleft : left ≠ []) (more : List UInt8) :
    significand start (bytes ++ more) = (n, taken, left ++ more) := by
  induction bytes generalizing start n taken with
  | nil =>
    cases h
    exact absurd rfl hleft
  | cons b bytes ih =>
    rw [significand] at h
    rw [List.cons_append, significand]
    split at h
    · rename_i hdigit
      rw [if_pos hdigit]
      cases hmore : significand (start * 10 + digitValue b) bytes with
      | mk n' p =>
        obtain ⟨taken', left'⟩ := p
        rw [hmore] at h
        cases h
        rw [ih hmore]
    · rename_i hdigit
      rw [if_neg hdigit]
      cases h
      rfl

theorem takeWhile_append_of_dropWhile {p : UInt8 → Bool} {bytes : List UInt8}
    (h : bytes.dropWhile p ≠ []) (more : List UInt8) :
    (bytes ++ more).takeWhile p = bytes.takeWhile p := by
  induction bytes with
  | nil => exact absurd rfl h
  | cons b bytes ih =>
    by_cases hb : p b
    · rw [List.dropWhile_cons_of_pos hb] at h
      rw [List.cons_append, List.takeWhile_cons_of_pos hb, List.takeWhile_cons_of_pos hb, ih h]
    · rw [List.cons_append, List.takeWhile_cons_of_neg hb, List.takeWhile_cons_of_neg hb]

theorem dropWhile_append_of_dropWhile {p : UInt8 → Bool} {bytes : List UInt8}
    (h : bytes.dropWhile p ≠ []) (more : List UInt8) :
    (bytes ++ more).dropWhile p = bytes.dropWhile p ++ more := by
  rw [List.dropWhile_append, if_neg]
  simpa using h

theorem local_exponentDigits : Local exponentDigits := by
  intro bytes rest x h hrest more
  cases bytes with
  | nil => cases h
  | cons b bytes =>
    rw [exponentDigits] at h
    rw [List.cons_append, exponentDigits]
    split at h
    · rename_i hb
      cases h
      rw [if_pos hb, takeWhile_append_of_dropWhile hrest, dropWhile_append_of_dropWhile hrest]
    · cases h

/-- A local reader stays one when what it reads is worked up further. -/
theorem Local.andThen {reader : Reader α} (h : Local reader) (f : α → Except Fault β) :
    Local fun bytes => (reader bytes).bind fun (x, rest) => (f x).map fun y => (y, rest) := by
  intro bytes rest y hread hrest more
  obtain ⟨⟨x, rest'⟩, hx, hread⟩ := exists_of_bind_eq_ok hread
  obtain ⟨y', hy, hpair⟩ := exists_of_map_eq_ok hread
  cases hpair
  have hmore := h hx hrest more
  simp only [hmore, Except.bind, hy, Except.map]

def exponentSign : List UInt8 → Bool × List UInt8
  | b :: rest => if b = byte '+' then (false, rest) else if b = byte '-' then (true, rest)
      else (false, b :: rest)
  | [] => (false, [])

def raise (negative minus : Bool) (significand : Nat) (shift : Int) (n : Nat) :
    Except Fault Number :=
  if exponentLimit ≤ n then
    if significand ≠ 0 && !minus then .error .numberOutOfRange else .ok (.real (.zero negative))
  else real negative significand (if minus then shift - n else shift + n)

theorem exponent_eq (negative : Bool) (significand : Nat) (shift : Int) (bytes : List UInt8) :
    exponent negative significand shift bytes =
      (exponentDigits (exponentSign bytes).2).bind fun (n, rest) =>
        (raise negative (exponentSign bytes).1 significand shift n).map fun y => (y, rest) := by
  have hstep : exponent negative significand shift bytes =
      (exponentDigits (exponentSign bytes).2).bind fun (n, rest) =>
        if exponentLimit ≤ n then
          if significand ≠ 0 && !(exponentSign bytes).1 then .error .numberOutOfRange
          else .ok (.real (.zero negative), rest)
        else (real negative significand
          (if (exponentSign bytes).1 then shift - n else shift + n)).bind fun y => .ok (y, rest) := by
    cases bytes <;> rfl
  rw [hstep]
  cases exponentDigits (exponentSign bytes).2 with
  | error fault => rfl
  | ok p =>
    simp only [Except.bind, raise]
    split
    · split <;> rfl
    · rfl

theorem exponentSign_append {bytes : List UInt8} (h : bytes ≠ []) (more : List UInt8) :
    exponentSign (bytes ++ more) = ((exponentSign bytes).1, (exponentSign bytes).2 ++ more) := by
  cases bytes with
  | nil => exact absurd rfl h
  | cons b bytes =>
    rw [List.cons_append, exponentSign, exponentSign]
    split
    · rfl
    split <;> rfl

theorem local_exponent (negative : Bool) (significand : Nat) (shift : Int) :
    Local (exponent negative significand shift) := by
  intro bytes rest x h hrest more
  have hbytes : bytes ≠ [] := by
    rintro rfl
    cases h
  rw [exponent_eq] at h
  rw [exponent_eq, exponentSign_append hbytes]
  exact (local_exponentDigits.andThen _) h hrest more

theorem local_afterFraction (negative : Bool) (significand : Nat) (shift : Int) :
    Local (afterFraction negative significand shift) := by
  intro bytes rest x h hrest more
  cases bytes with
  | nil =>
    obtain ⟨y, -, h⟩ := exists_of_bind_eq_ok h
    cases h
    exact absurd rfl hrest
  | cons b bytes =>
    rw [afterFraction] at h
    rw [List.cons_append, afterFraction]
    split at h
    · rename_i hexp
      rw [if_pos hexp]
      exact local_exponent _ _ _ h hrest more
    · rename_i hexp
      rw [if_neg hexp]
      obtain ⟨y, hy, h⟩ := exists_of_bind_eq_ok h
      cases h
      rw [hy]
      rfl

theorem ne_nil_of_afterFraction {negative : Bool} {significand : Nat} {shift : Int}
    {bytes rest : List UInt8} {x : Number}
    (h : afterFraction negative significand shift bytes = .ok (x, rest)) (hrest : rest ≠ []) :
    bytes ≠ [] := by
  rintro rfl
  obtain ⟨y, -, h⟩ := exists_of_bind_eq_ok h
  cases h
  exact hrest rfl

theorem local_fraction (negative : Bool) (start : Nat) (shift : Int) :
    Local (fraction negative start shift) := by
  intro bytes rest x h hrest more
  unfold fraction at h ⊢
  dsimp only at h ⊢
  cases hsig : significand start bytes with
  | mk n p =>
    obtain ⟨taken, left⟩ := p
    rw [hsig] at h
    cases left with
    | nil =>
      dsimp only at h
      split at h
      · cases h
      · exact absurd rfl (ne_nil_of_afterFraction h hrest)
    | cons b left =>
      rw [significand_append hsig (List.cons_ne_nil _ _)]
      dsimp only [List.cons_append] at h ⊢
      split at h
      · rename_i hb
        rw [if_pos hb]
        have hleft := ne_nil_of_afterFraction h hrest
        rw [← List.cons_append, dropWhile_append_of_dropWhile hleft]
        exact local_afterFraction _ _ _ h hrest more
      · rename_i hb
        rw [if_neg hb]
        split at h
        · cases h
        · rename_i htaken
          rw [if_neg htaken]
          exact local_afterFraction _ _ _ h hrest more

theorem ne_nil_of_afterWhole {negative : Bool} {significand : Nat} {shift : Int} {exact : Bool}
    {bytes rest : List UInt8} {x : Number}
    (h : afterWhole negative significand shift exact bytes = .ok (x, rest)) (hrest : rest ≠ []) :
    bytes ≠ [] := by
  rintro rfl
  cases exact with
  | true =>
    obtain ⟨y, -, h⟩ := exists_of_bind_eq_ok (x := whole negative significand) h
    cases h
    exact hrest rfl
  | false =>
    obtain ⟨y, -, h⟩ := exists_of_bind_eq_ok (x := real negative significand shift) h
    cases h
    exact hrest rfl

theorem local_afterWhole (negative : Bool) (significand : Nat) (shift : Int) (exact : Bool) :
    Local (afterWhole negative significand shift exact) := by
  intro bytes rest x h hrest more
  cases bytes with
  | nil => exact absurd rfl (ne_nil_of_afterWhole h hrest)
  | cons b bytes =>
    rw [afterWhole] at h
    rw [List.cons_append, afterWhole]
    split at h
    · rename_i hpoint
      rw [if_pos hpoint]
      exact local_fraction _ _ _ h hrest more
    rename_i hpoint
    rw [if_neg hpoint]
    split at h
    · rename_i hexp
      rw [if_pos hexp]
      exact local_exponent _ _ _ h hrest more
    · rename_i hexp
      rw [if_neg hexp]
      cases exact with
      | true =>
        obtain ⟨y, hy, h⟩ := exists_of_bind_eq_ok (x := whole negative significand) h
        cases h
        simp only [if_true, hy]
        rfl
      | false =>
        obtain ⟨y, hy, h⟩ := exists_of_bind_eq_ok (x := real negative significand shift) h
        cases h
        simp only [Bool.false_eq_true, if_false, hy]
        rfl

theorem local_number (negative : Bool) : Local (number negative) := by
  intro bytes rest x h hrest more
  cases bytes with
  | nil => cases h
  | cons b bytes =>
    rw [number] at h
    rw [List.cons_append, number]
    split at h
    · rename_i hzero
      rw [if_pos hzero]
      split at h
      · cases h
      · rename_i hdigit
        have hbytes := ne_nil_of_afterWhole h hrest
        rw [List.head?_append_of_ne_nil _ hbytes, if_neg hdigit]
        exact local_afterWhole _ _ _ _ h hrest more
    rename_i hzero
    rw [if_neg hzero]
    split at h
    · rename_i hdigit
      rw [if_pos hdigit]
      cases hsig : significand (digitValue b) bytes with
      | mk n p =>
        obtain ⟨taken, left⟩ := p
        rw [hsig] at h
        dsimp only at h
        have hleft : left ≠ [] := by
          rintro rfl
          have hwhole : afterWhole negative n 0 true [] = .ok (x, rest) := h
          exact absurd rfl (ne_nil_of_afterWhole hwhole hrest)
        rw [significand_append hsig hleft]
        dsimp only
        rw [List.head?_append_of_ne_nil _ hleft]
        split at h
        · rename_i hhead
          have hdrop := ne_nil_of_afterWhole h hrest
          rw [if_pos hhead, takeWhile_append_of_dropWhile hdrop,
            dropWhile_append_of_dropWhile hdrop]
          exact local_afterWhole _ _ _ _ h hrest more
        · rename_i hhead
          rw [if_neg hhead]
          exact local_afterWhole _ _ _ _ h hrest more
    · cases h

/-! ### Strings -/

theorem prepend_ok (front content rest : List UInt8) :
    prepend front (.ok (content, rest)) = .ok (front ++ content, rest) := rfl

theorem exists_of_prepend_eq_ok {front content rest : List UInt8}
    {r : Except Fault (List UInt8 × List UInt8)} (h : prepend front r = .ok (content, rest)) :
    ∃ content', r = .ok (content', rest) ∧ content = front ++ content' := by
  obtain ⟨⟨content', rest'⟩, hr, hpair⟩ := exists_of_map_eq_ok h
  obtain ⟨hcontent, hrest⟩ := Prod.mk.inj hpair
  exact ⟨content', by rw [hr, hrest], hcontent.symm⟩

theorem closed_stringBytes : Closed stringBytes := by
  intro bytes rest content h more
  have hslash : byte '\\' ≠ byte '"' := by decide
  -- Five cases of the reader succeed: the closing quote, three kinds of escape, and a plain byte.
  fun_induction stringBytes bytes generalizing content rest with
  | case2 start =>
    cases h
    rw [List.cons_append, stringBytes.eq_def]
    simp only [if_true]
  | case6 h1 h2 h3 h4 start n hhex hlow hplain _ ih =>
    obtain ⟨content', hstart, hcontent⟩ := exists_of_prepend_eq_ok h
    rw [hcontent]
    simp only [List.cons_append]
    rw [stringBytes.eq_def]
    simp only [if_neg hslash, if_true, hhex, if_neg hlow, if_pos hplain, ih hstart, prepend_ok]
  | case13 h1 h2 h3 h4 n hhex hlow hplain s u hmark l1 l2 l3 l4 start m hhex' hlow' _ ih =>
    obtain ⟨content', hstart, hcontent⟩ := exists_of_prepend_eq_ok h
    rw [hcontent]
    simp only [List.cons_append]
    rw [stringBytes.eq_def]
    simp only [if_neg hslash, if_true, hhex, if_neg hlow, if_neg hplain, if_neg hmark, hhex',
      if_neg hlow', ih hstart, prepend_ok]
  | case16 e start hu b hletter _ ih =>
    obtain ⟨content', hstart, hcontent⟩ := exists_of_prepend_eq_ok h
    rw [hcontent]
    rw [List.cons_append, List.cons_append, stringBytes.eq_def]
    simp only [if_neg hslash, if_true, if_neg hu, hletter, ih hstart, prepend_ok]
  | case19 b start hquote hslash' hcontrol ih =>
    obtain ⟨content', hstart, hcontent⟩ := exists_of_prepend_eq_ok h
    rw [hcontent]
    rw [List.cons_append, stringBytes.eq_def]
    simp only [if_neg hquote, if_neg hslash', if_neg hcontrol, ih hstart, prepend_ok]
  | _ => cases h

theorem closed_string : Closed string := by
  intro bytes rest s h more
  obtain ⟨⟨content, rest'⟩, hcontent, h⟩ := exists_of_bind_eq_ok h
  rw [string, closed_stringBytes hcontent]
  dsimp only at h
  simp only [bind, Except.bind]
  split at h
  · rename_i cs hcs
    cases h
    rfl
  · cases h

/-! ### Lists and objects -/

theorem closed_anotherItem (first : Bool) : Closed (anotherItem first) := by
  intro bytes rest x h more
  rw [anotherItem] at h
  split at h
  · cases h
  rename_i b start hstart
  rw [anotherItem, skipBlanks_append hstart]
  dsimp only
  split at h
  · rename_i hb
    cases h
    rw [if_pos hb]
    rfl
  rename_i hb
  rw [if_neg hb]
  split at h
  · rename_i hfirst
    cases h
    rw [if_pos hfirst]
    rfl
  rename_i hfirst
  rw [if_neg hfirst]
  split at h
  · rename_i hcomma
    rw [if_pos hcomma]
    split at h
    · cases h
    rename_i c later hlater
    rw [skipBlanks_append hlater]
    dsimp only
    split at h
    · cases h
    · rename_i hc
      cases h
      rw [if_neg hc]
      rfl
  · cases h

theorem closed_anotherMember (first : Bool) : Closed (anotherMember first) := by
  intro bytes rest x h more
  rw [anotherMember] at h
  split at h
  · cases h
  rename_i b start hstart
  rw [anotherMember, skipBlanks_append hstart]
  dsimp only
  split at h
  · rename_i hb
    cases h
    rw [if_pos hb]
    rfl
  rename_i hb
  rw [if_neg hb]
  split at h
  · rename_i hfirst
    rw [if_pos hfirst]
    split at h
    · rename_i hquote
      cases h
      rw [if_pos hquote]
    · cases h
  rename_i hfirst
  rw [if_neg hfirst]
  split at h
  · rename_i hcomma
    rw [if_pos hcomma]
    split at h
    · cases h
    rename_i c later hlater
    rw [skipBlanks_append hlater]
    dsimp only
    split at h
    · rename_i hc
      cases h
      rw [if_pos hc]
    · split at h <;> cases h
  · cases h

theorem closed_colon : Closed colon := by
  intro bytes rest x h more
  rw [colon] at h
  split at h
  · cases h
  rename_i b start hstart
  rw [colon, skipBlanks_append hstart]
  dsimp only
  split at h
  · rename_i hb
    cases h
    rw [if_pos hb]
  · cases h

theorem closed_closeList : Closed closeList := by
  intro bytes rest x h more
  rw [closeList] at h
  split at h
  · cases h
  rename_i b start hstart
  rw [closeList, skipBlanks_append hstart]
  dsimp only
  split at h
  · rename_i hb
    cases h
    rw [if_pos hb]
  · split at h <;> cases h

theorem closed_closeObject : Closed closeObject := by
  intro bytes rest x h more
  rw [closeObject] at h
  split at h
  · cases h
  rename_i b start hstart
  rw [closeObject, skipBlanks_append hstart]
  dsimp only
  split at h
  · rename_i hb
    cases h
    rw [if_pos hb]
  · split at h <;> cases h

theorem ne_nil_of_items {item : Reader α} {fuel : Nat} {first : Bool} {bytes rest : List UInt8}
    {xs : List α} (h : items item fuel first bytes = .ok (xs, rest)) : bytes ≠ [] := by
  rintro rfl
  cases fuel with
  | zero => cases h
  | succ fuel => cases h

theorem ne_nil_of_members {value : Reader α} {fuel : Nat} {first : Bool}
    {bytes rest : List UInt8} {ms : List (String × α)}
    (h : members value fuel first bytes = .ok (ms, rest)) : bytes ≠ [] := by
  rintro rfl
  cases fuel with
  | zero => cases h
  | succ fuel => cases h

/-- The items of a list end with its bracket, and more fuel changes nothing. -/
theorem items_append {item : Reader α} (hitem : Local item) {fuel fuel' : Nat} {first : Bool}
    {bytes rest : List UInt8} {xs : List α} (h : items item fuel first bytes = .ok (xs, rest))
    (hfuel : fuel ≤ fuel') (more : List UInt8) :
    items item fuel' first (bytes ++ more) = .ok (xs, rest ++ more) := by
  induction fuel generalizing fuel' first bytes xs with
  | zero => cases h
  | succ fuel ih =>
    obtain ⟨fuel', rfl⟩ : ∃ n, fuel' = n + 1 := ⟨fuel' - 1, by omega⟩
    obtain ⟨_, heq, ⟨start, hmore, hclose, rfl⟩ | ⟨start, x, later, xs', hmore, hx, hlater, rfl⟩⟩ :=
      items_cases h
    · rw [items, closed_anotherItem first hmore]
      simp only [bind, Except.bind, Bool.false_eq_true, if_false, closed_closeList hclose]
    · cases heq
      have hrest := ih hlater (Nat.le_of_succ_le_succ hfuel)
      -- Items go on behind this one, so that it stops before the end.
      have hread := hitem hx (ne_nil_of_items hlater) more
      rw [items, closed_anotherItem first hmore]
      simp only [bind, Except.bind, if_true, hread, hrest]

theorem members_append {value : Reader α} (hvalue : Local value) {fuel fuel' : Nat}
    {first : Bool} {bytes rest : List UInt8} {ms : List (String × α)}
    (h : members value fuel first bytes = .ok (ms, rest)) (hfuel : fuel ≤ fuel')
    (more : List UInt8) :
    members value fuel' first (bytes ++ more) = .ok (ms, rest ++ more) := by
  induction fuel generalizing fuel' first bytes ms with
  | zero => cases h
  | succ fuel ih =>
    obtain ⟨fuel', rfl⟩ : ∃ n, fuel' = n + 1 := ⟨fuel' - 1, by omega⟩
    obtain ⟨_, heq, ⟨start, hmore, hclose, rfl⟩ |
      ⟨start, key, afterKey, afterColon, x, later, ms', hmore, hkey, hcolon, hx, hlater, rfl⟩⟩ :=
      members_cases h
    · rw [members, closed_anotherMember first hmore]
      simp only [bind, Except.bind, Bool.false_eq_true, if_false, closed_closeObject hclose]
    · cases heq
      have hrest := ih hlater (Nat.le_of_succ_le_succ hfuel)
      have hread := hvalue hx (ne_nil_of_members hlater) more
      rw [members, closed_anotherMember first hmore]
      simp only [bind, Except.bind, if_true, closed_string hkey, closed_colon hcolon, hread, hrest]

/-! ### Values -/

/-- What is read is read again when more stands behind it, if the values inside it are and if it
is not a number at the very end, which might go on. -/
theorem Reading.append {depth : Nat} {bytes rest : List UInt8} {v : Json}
    (h : Reading depth bytes v rest) (inner : ∀ d, depth = d + 1 → Local (value d))
    (hend : rest = [] → ∀ n, v ≠ .number n) (more : List UInt8) :
    Reading depth (bytes ++ more) v (rest ++ more) := by
  have hlength : bytes.length ≤ (bytes ++ more).length := by
    rw [List.length_append]
    exact Nat.le_add_right _ _
  cases h with
  | null hb h => exact .null (skipBlanks_append hb more) (closed_name _ h more)
  | yes hb h => exact .yes (skipBlanks_append hb more) (closed_name _ h more)
  | no hb h => exact .no (skipBlanks_append hb more) (closed_name _ h more)
  | negative hb h =>
    have hrest : rest ≠ [] := fun hrest => hend hrest _ rfl
    exact .negative (skipBlanks_append hb more) (local_number _ h hrest more)
  | number hb digit h =>
    have hrest : rest ≠ [] := fun hrest => hend hrest _ rfl
    exact .number (skipBlanks_append hb more) digit (local_number _ h hrest more)
  | string hb h => exact .string (skipBlanks_append hb more) (closed_string h more)
  | array hb h =>
    exact .array (skipBlanks_append hb more) (items_append (inner _ rfl) h hlength more)
  | object hb h =>
    exact .object (skipBlanks_append hb more) (members_append (inner _ rfl) h hlength more)

theorem local_value (depth : Nat) : Local (value depth) := by
  induction depth with
  | zero =>
    intro bytes rest v h hrest more
    apply Reading.value_eq
    exact (reading_of_value h).append (fun d hd => nomatch hd) (fun hnil => absurd hnil hrest) more
  | succ depth ih =>
    intro bytes rest v h hrest more
    apply Reading.value_eq
    refine (reading_of_value h).append ?_ (fun hnil => absurd hnil hrest) more
    intro d hd
    cases hd
    exact ih

/-- A value that is no number shows by itself where it ends. -/
theorem value_append {depth : Nat} {bytes rest : List UInt8} {v : Json}
    (h : value depth bytes = .ok (v, rest)) (hv : ∀ n, v ≠ .number n) (more : List UInt8) :
    value depth (bytes ++ more) = .ok (v, rest ++ more) := by
  apply Reading.value_eq
  exact (reading_of_value h).append (fun d _ => local_value d) (fun _ => hv) more

end ChatRelay.Json.Read
