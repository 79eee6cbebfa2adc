import ChatRelay.Proofs.Url.Host
import ChatRelay.Url.Parser
import Mathlib.Data.List.TakeDrop
import Mathlib.Data.List.TakeWhile

/-!
The authority of a special URL ends at the first slash, question mark or hash sign, and nothing
behind that makes a difference to it. A control character or a space before it does: there is no
authority that ends with one.
-/

namespace ChatRelay.Url

-- A text in which no authority ends, what may stand behind an authority, and the blanks and
-- controls with which a text may end.
def Unbroken (cs : List Char) : Prop := ∀ c ∈ cs, endsAuthority .special c = false

def Terminated (cs : List Char) : Prop := ∀ c ∈ cs.head?, endsAuthority .special c = true

def Edges (cs : List Char) : Prop := ∀ c ∈ cs, c.toNat ≤ 0x20

theorem unbroken_cons {c : Char} {cs : List Char} :
    Unbroken (c :: cs) ↔ endsAuthority .special c = false ∧ Unbroken cs :=
  List.forall_mem_cons

/-- What ends an authority is no blank and no digit. -/
theorem visible_of_endsAuthority {c : Char} (h : endsAuthority .special c = true) :
    0x20 < c.toNat ∧ c.isDigit = false := by
  simp only [endsAuthority, isSlash, Bool.or_eq_true, Bool.and_eq_true, beq_iff_eq] at h
  rcases h with ((rfl | ⟨rfl, -⟩) | rfl) | rfl <;> decide

theorem unbroken_of_edges {cs : List Char} (h : Edges cs) : Unbroken cs := by
  intro c hc
  have hlow := h c hc
  rw [Bool.eq_false_iff]
  intro hend
  have hvisible := (visible_of_endsAuthority hend).1
  omega

theorem terminated_nil : Terminated [] := fun _ h => nomatch h

theorem terminated_cons {c : Char} (h : endsAuthority .special c = true) (rest : List Char) :
    Terminated (c :: rest) := by
  intro d hd
  rw [List.head?_cons, Option.mem_some_iff] at hd
  rwa [← hd]

/-! ### Texts and what ends them -/

theorem span_append {p : Char → Bool} {xs ys : List Char} (hxs : ∀ c ∈ xs, p c = true)
    (hys : ∀ c ∈ ys.head?, p c = false) : (xs ++ ys).span p = (xs, ys) := by
  have hstop : ys.takeWhile p = [] ∧ ys.dropWhile p = ys := by
    cases ys with
    | nil => exact ⟨rfl, rfl⟩
    | cons c ys =>
      have hc : ¬ p c = true := by
        rw [hys c rfl]
        decide
      exact ⟨List.takeWhile_cons_of_neg hc, List.dropWhile_cons_of_neg hc⟩
  rw [List.span_eq_takeWhile_dropWhile, List.takeWhile_append_of_pos hxs,
    List.dropWhile_append_of_pos hxs, hstop.1, hstop.2, List.append_nil]

theorem exists_span (p : Char → Bool) (xs : List Char) : ∃ front back, xs = front ++ back ∧
    (∀ c ∈ front, p c = true) ∧ ∀ c ∈ back.head?, p c = false := by
  refine ⟨xs.takeWhile p, xs.dropWhile p, List.takeWhile_append_dropWhile.symm, ?_, ?_⟩
  · intro c hc
    exact List.mem_takeWhile_imp hc
  · intro c hc
    have h := List.head?_dropWhile_not p xs
    rw [hc] at h
    simpa using h

theorem exists_authority (cs : List Char) :
    ∃ whole tail, cs = whole ++ tail ∧ Unbroken whole ∧ Terminated tail := by
  obtain ⟨whole, tail, hcs, hwhole, htail⟩ := exists_span (!endsAuthority .special ·) cs
  refine ⟨whole, tail, hcs, ?_, ?_⟩
  · intro c hc
    simpa using hwhole c hc
  · intro c hc
    simpa using htail c hc

theorem span_authority {whole tail : List Char} (hw : Unbroken whole) (ht : Terminated tail) :
    (whole ++ tail).span (!endsAuthority .special ·) = (whole, tail) := by
  apply span_append
  · intro c hc
    rw [hw c hc]
    rfl
  · intro c hc
    rw [ht c hc]
    rfl

/-! ### Host and port -/

theorem splitHost_terminated {tail : List Char} (ht : Terminated tail) (inBrackets : Bool) :
    splitHost .special inBrackets tail = ([], tail) := by
  cases tail with
  | nil => rfl
  | cons c tail => rw [splitHost, ht c rfl, Bool.true_or, if_pos rfl]

theorem splitHost_append {cs tail : List Char} (hc : Unbroken cs) (ht : Terminated tail)
    (inBrackets : Bool) : splitHost .special inBrackets (cs ++ tail) =
      ((splitHost .special inBrackets cs).1, (splitHost .special inBrackets cs).2 ++ tail) := by
  induction cs generalizing inBrackets with
  | nil => exact splitHost_terminated ht inBrackets
  | cons c cs ih =>
    obtain ⟨_, hcs⟩ := unbroken_cons.mp hc
    rw [List.cons_append, splitHost, splitHost]
    split
    · rfl
    · rw [ih hcs]

/-- A host ends at the end of its authority or before the colon of a port. -/
theorem splitHost_rest {cs : List Char} (hc : Unbroken cs) (inBrackets : Bool) :
    ((splitHost .special inBrackets cs).1 = cs ∧ (splitHost .special inBrackets cs).2 = []) ∨
      ∃ port, (splitHost .special inBrackets cs).2 = ':' :: port ∧ Unbroken port := by
  induction cs generalizing inBrackets with
  | nil => exact .inl ⟨rfl, rfl⟩
  | cons c cs ih =>
    obtain ⟨hfirst, hcs⟩ := unbroken_cons.mp hc
    rw [splitHost, hfirst, Bool.false_or]
    split
    · rename_i hcolon
      have hc : c = ':' := beq_iff_eq.mp (Bool.and_eq_true_iff.mp hcolon).1
      exact .inr ⟨cs, by rw [hc], hcs⟩
    · dsimp only
      rcases ih hcs (c == '[' || inBrackets && c != ']') with ⟨hhost, hrest⟩ | hport
      · exact .inl ⟨by rw [hhost], hrest⟩
      · exact .inr hport

theorem not_digit_of_terminated {cs tail : List Char} (hcs : ∀ c ∈ cs.head?, c.isDigit = false)
    (ht : Terminated tail) : ∀ c ∈ (cs ++ tail).head?, c.isDigit = false := by
  cases cs with
  | nil => exact fun c hc => (visible_of_endsAuthority (ht c hc)).2
  | cons d cs => exact hcs

theorem splitPort_append (scheme : List Char) {cs tail : List Char} (hc : Unbroken cs)
    (ht : Terminated tail) : splitPort scheme (cs ++ tail) =
      (splitPort scheme cs).map fun (port, rest) => (port, rest ++ tail) := by
  obtain ⟨digits, back, rfl, hdigits, hback⟩ := exists_span Char.isDigit cs
  have halone : (digits ++ back).span Char.isDigit = (digits, back) := span_append hdigits hback
  have hwhole : (digits ++ back ++ tail).span Char.isDigit = (digits, back ++ tail) := by
    rw [List.append_assoc]
    exact span_append hdigits (not_digit_of_terminated hback ht)
  simp only [splitPort, halone, hwhole]
  -- Either the port is too large, or what stands behind its digits decides.
  split
  · rfl
  · cases back with
    | nil =>
      have hend : tail.head?.any (fun c => !endsAuthority .special c) = false := by
        rw [Option.any_eq_false]
        intro c hc
        rw [ht c hc]
        decide
      simp only [List.nil_append, hend, List.head?_nil, Option.any_none, Bool.false_eq_true,
        if_false]
      rfl
    | cons c back =>
      have hfirst : endsAuthority .special c = false := hc c (by simp)
      simp only [List.cons_append, List.head?_cons, Option.any_some, hfirst, Bool.not_false,
        if_true]
      rfl

/-- A special URL has a host, and its user may be any. -/
theorem readHostPort_special {scheme : List Char} (hs : kindOf scheme = .special)
    (username : List Char) (password : Option (List Char)) (cs : List Char) :
    readHostPort scheme username password cs =
      if (splitHost .special false cs).1.isEmpty then .error .emptyHost
      else (Host.parse (splitHost .special false cs).1).bind fun host =>
        (readPort scheme (some host) (splitHost .special false cs).2).map fun (port, rest) =>
          (⟨username, password, some host, port⟩, rest) := by
  simp only [readHostPort, hs, readHost]
  split
  · rfl
  · cases Host.parse (splitHost .special false cs).1 with
    | error fault => rfl
    | ok host =>
      simp only [Except.map, bind, Except.bind]
      cases readPort scheme (some host) (splitHost .special false cs).2 <;> rfl

theorem readPort_append (scheme : List Char) (host : Host) {cs tail : List Char}
    (hc : cs = [] ∨ ∃ port, cs = ':' :: port ∧ Unbroken port) (ht : Terminated tail) :
    readPort scheme (some host) (cs ++ tail) =
      (readPort scheme (some host) cs).map fun (port, rest) => (port, rest ++ tail) := by
  rcases hc with rfl | ⟨port, rfl, hport⟩
  · cases tail with
    | nil => rfl
    | cons c tail =>
      have hcolon : c ≠ ':' := by
        rintro rfl
        exact absurd (ht ':' rfl) (by decide)
      simp [readPort, hcolon, Except.map]
  · exact splitPort_append scheme hport ht

theorem readHostPort_append {scheme : List Char} (hs : kindOf scheme = .special)
    (username : List Char) (password : Option (List Char)) {cs tail : List Char}
    (hc : Unbroken cs) (ht : Terminated tail) :
    readHostPort scheme username password (cs ++ tail) =
      (readHostPort scheme username password cs).map fun (a, rest) => (a, rest ++ tail) := by
  have hrest := (splitHost_rest hc false).imp And.right id
  rw [readHostPort_special hs, readHostPort_special hs, splitHost_append hc ht]
  split
  · rfl
  · cases Host.parse (splitHost .special false cs).1 with
    | error fault => rfl
    | ok host =>
      simp only [Except.bind, readPort_append scheme host hrest ht]
      cases readPort scheme (some host) (splitHost .special false cs).2 <;> rfl

/-! ### The whole authority -/

theorem ne_of_mem_reverse {sep : Char} {cs : List Char} (h : sep ∉ cs) :
    ∀ c ∈ cs.reverse, (c != sep) = true := by
  intro c hc
  apply bne_iff_ne.mpr
  rintro rfl
  exact h (List.mem_reverse.mp hc)

theorem splitLast_of_not_mem {sep : Char} {cs : List Char} (h : sep ∉ cs) :
    splitLast sep cs = none := by
  have hspan := @span_append _ _ [] (ne_of_mem_reverse h) (fun _ hc => nomatch hc)
  rw [List.append_nil] at hspan
  simp only [splitLast, hspan]

theorem splitLast_last {sep : Char} {after : List Char} (h : sep ∉ after) (before : List Char) :
    splitLast sep (before ++ sep :: after) = some (before, after) := by
  have hspan : (after.reverse ++ sep :: before.reverse).span (· != sep) =
      (after.reverse, sep :: before.reverse) := by
    apply span_append (ne_of_mem_reverse h)
    intro c hc
    rw [List.head?_cons, Option.mem_some_iff] at hc
    simp [hc]
  have hreverse : (before ++ sep :: after).reverse = after.reverse ++ sep :: before.reverse := by
    simp
  simp only [splitLast, hreverse, hspan, List.reverse_reverse]

theorem exists_last (sep : Char) (cs : List Char) :
    sep ∉ cs ∨ ∃ before after, cs = before ++ sep :: after ∧ sep ∉ after := by
  by_cases h : sep ∈ cs
  · obtain ⟨after, before, hcs, hafter⟩ := List.eq_append_cons_of_mem (List.mem_reverse.mpr h)
    refine .inr ⟨before.reverse, after.reverse, ?_, fun hm => hafter (List.mem_reverse.mp hm)⟩
    rw [← List.reverse_reverse cs, hcs]
    simp
  · exact .inl h

/-- What ends an authority ends all that is read of it. -/
theorem readAuthority_append {scheme : List Char} (hs : kindOf scheme = .special)
    {whole tail : List Char} (hw : Unbroken whole) (ht : Terminated tail) :
    readAuthority scheme (whole ++ tail) =
      (readAuthority scheme whole).map fun (a, rest) => (a, rest ++ tail) := by
  have hspan := span_authority hw terminated_nil
  rw [List.append_nil] at hspan
  simp only [readAuthority, hs, span_authority hw ht, hspan]
  -- The last at sign, if there is one, is found in the same place.
  rcases exists_last '@' whole with hat | ⟨user, after, rfl, hat⟩
  · simp only [splitLast_of_not_mem hat]
    exact readHostPort_append hs [] none hw ht
  · have hafter : Unbroken after := fun c hc => hw c (by simp [hc])
    simp only [splitLast_last hat, List.append_nil]
    cases user with
    | cons c user => exact readHostPort_append hs _ _ hafter ht
    | nil =>
      -- An empty authority fails either way, behind an at sign before anything is read.
      have hempty : readHostPort scheme [] none [] = .error .emptyHost := by
        rw [readHostPort_special hs]
        rfl
      cases after with
      | nil =>
        cases tail with
        | nil => simp [hempty, Except.map]
        | cons c tail => simp [hempty, Except.map]
      | cons c after => exact readHostPort_append hs [] none hafter ht

/-! ### A blank at the end -/

theorem unbroken_append_last {cs : List Char} (hc : Unbroken cs) {c : Char}
    (h : c.toNat ≤ 0x20) : Unbroken (cs ++ [c]) := by
  intro d hd
  rcases List.mem_append.mp hd with hd | hd
  · exact hc d hd
  · exact unbroken_of_edges (fun e he => List.mem_singleton.mp he ▸ h) d hd

theorem splitHost_join (inBrackets : Bool) (cs : List Char) :
    (splitHost .special inBrackets cs).1 ++ (splitHost .special inBrackets cs).2 = cs := by
  induction cs generalizing inBrackets with
  | nil => rfl
  | cons c cs ih =>
    rw [splitHost]
    split
    · rfl
    · dsimp only
      rw [List.cons_append, ih]

/-- A last character other than a colon belongs to the host or to the port. -/
theorem splitHost_last {cs : List Char} {c : Char} (hc : Unbroken (cs ++ [c])) (hcolon : c ≠ ':') :
    (splitHost .special false (cs ++ [c]) = (cs ++ [c], [])) ∨
      ∃ port, (splitHost .special false (cs ++ [c])).2 = ':' :: (port ++ [c]) ∧ Unbroken port := by
  rcases splitHost_rest hc false with ⟨hhost, hrest⟩ | ⟨port, hrest, hport⟩
  · exact .inl (Prod.ext hhost hrest)
  · right
    -- Host and port make up the text, so that its last character is the last one of the port.
    have hjoin := splitHost_join false (cs ++ [c])
    rw [hrest] at hjoin
    rcases List.eq_nil_or_concat port with rfl | ⟨front, last, rfl⟩
    · have hlast := (List.append_inj' hjoin rfl).2
      exact absurd (List.singleton_inj.mp hlast).symm hcolon
    · rw [List.concat_eq_append, ← List.cons_append, ← List.append_assoc] at hjoin
      have hlast := List.singleton_inj.mp (List.append_inj' hjoin rfl).2
      refine ⟨front, by rw [hrest, hlast, List.concat_eq_append], ?_⟩
      exact fun d hd => hport d (by simp [hd])

theorem splitPort_last (scheme : List Char) {cs : List Char} (hc : Unbroken cs) {c : Char}
    (h : c.toNat ≤ 0x20) : splitPort scheme (cs ++ [c]) = .error .invalidPort := by
  obtain ⟨digits, back, rfl, hdigits, hback⟩ := exists_span Char.isDigit cs
  have hcdigit : c.isDigit = false := by
    rw [Bool.eq_false_iff]
    intro hdigit
    simp only [Char.isDigit, Bool.and_eq_true, decide_eq_true_eq] at hdigit
    have hlow : (0x30 : Nat) ≤ c.toNat := hdigit.1
    omega
  have hspan : (digits ++ back ++ [c]).span Char.isDigit = (digits, back ++ [c]) := by
    rw [List.append_assoc]
    apply span_append hdigits
    cases back with
    | nil => simpa using hcdigit
    | cons d back => exact hback
  -- The first character behind the digits is none that ends an authority.
  have hwrong : (back ++ [c]).head?.any (fun c => !endsAuthority .special c) = true := by
    have hunbroken := unbroken_append_last hc h
    cases back with
    | nil => simp [hunbroken c (by simp)]
    | cons d back => simp [hc d (by simp)]
  simp only [splitPort, hspan, hwrong, if_true, ite_self]

theorem readHostPort_last {scheme : List Char} (hs : kindOf scheme = .special)
    (username : List Char) (password : Option (List Char)) {cs : List Char} (hc : Unbroken cs)
    {c : Char} (h : c.toNat ≤ 0x20) :
    ∃ fault, readHostPort scheme username password (cs ++ [c]) = .error fault := by
  have hcolon : c ≠ ':' := by
    rintro rfl
    exact absurd h (by decide)
  rw [readHostPort_special hs]
  rcases splitHost_last (unbroken_append_last hc h) hcolon with hsplit | ⟨port, hrest, hport⟩
  · obtain ⟨fault, hfault⟩ := Host.parse_append_last h cs
    rw [hsplit, hfault]
    exact ⟨fault, by simp [Except.bind]⟩
  · split
    · exact ⟨_, rfl⟩
    · cases Host.parse (splitHost .special false (cs ++ [c])).1 with
      | error fault => exact ⟨fault, rfl⟩
      | ok host =>
        simp only [Except.bind, hrest, readPort, splitPort_last scheme hport h, Option.isNone_some,
          Bool.false_eq_true, if_false]
        exact ⟨_, rfl⟩

/-- There is no authority that ends with a control character or a space. -/
theorem readAuthority_append_edges {scheme : List Char} (hs : kindOf scheme = .special)
    {whole edges : List Char} (hw : Unbroken whole) (he : Edges edges) (hne : edges ≠ []) :
    ∃ fault, readAuthority scheme (whole ++ edges) = .error fault := by
  obtain ⟨front, c, rfl⟩ := (List.eq_nil_or_concat edges).resolve_left hne
  rw [List.concat_eq_append, ← List.append_assoc]
  have hc : c.toNat ≤ 0x20 := he c (by simp)
  have hfront : Unbroken (whole ++ front) := by
    have hedges := unbroken_of_edges he
    intro d hd
    exact (List.mem_append.mp hd).elim (hw d) fun hd => hedges d (by simp [hd])
  -- One blank at the end is enough, whatever stands before it.
  generalize whole ++ front = cs at hfront
  have hspan := span_authority (unbroken_append_last hfront hc) terminated_nil
  rw [List.append_nil] at hspan
  have hat : '@' ∉ [c] := by
    intro hm
    rw [← List.mem_singleton.mp hm] at hc
    exact absurd hc (by decide)
  simp only [readAuthority, hs, hspan, List.append_nil]
  rcases exists_last '@' cs with hcs | ⟨user, after, rfl, hafter⟩
  · rw [splitLast_of_not_mem fun hm => (List.mem_append.mp hm).elim hcs hat]
    exact readHostPort_last hs [] none hfront hc
  · have hunbroken : Unbroken after := fun d hd => hfront d (by simp [hd])
    have hlast : '@' ∉ after ++ [c] := fun hm => (List.mem_append.mp hm).elim hafter hat
    rw [List.append_assoc, List.cons_append, splitLast_last hlast]
    cases user with
    | cons d user => exact readHostPort_last hs _ _ hunbroken hc
    | nil =>
      simp only [List.isEmpty_nil, Bool.not_true, Bool.and_false, Bool.false_eq_true, if_false]
      exact readHostPort_last hs [] none hunbroken hc

end ChatRelay.Url
