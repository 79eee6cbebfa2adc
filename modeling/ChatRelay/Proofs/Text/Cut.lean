import ChatRelay.Text.Cut
import ChatRelay.Proofs.Utf8.Decoder

/-!
Cutting a text to a number of bytes leaves the longest beginning that takes no more.
-/

namespace ChatRelay.Text

/-- A beginning of a text that takes so many bytes at most, and as long as can be. -/
structure CutTo (limit : Nat) (cs front : List Char) : Prop where
  begins : front <+: cs
  fits : (Utf8.encode front).length ≤ limit
  longest : ∀ other, other <+: cs → (Utf8.encode other).length ≤ limit → other <+: front

theorem length_encode (cs : List Char) : (Utf8.encode cs).length = byteSize cs := by
  induction cs with
  | nil => rfl
  | cons c cs ih =>
    rw [Utf8.encode, List.flatMap_cons, List.length_append, String.length_utf8EncodeChar, byteSize]
    exact congrArg (c.utf8Size + ·) ih

theorem utf8ByteSize_ofList (cs : List Char) : (String.ofList cs).utf8ByteSize = byteSize cs := by
  rw [String.utf8ByteSize, String.toByteArray_ofList, List.utf8Encode, List.size_toByteArray,
    ← length_encode, Utf8.encode]

theorem byteSize_toList (text : String) : byteSize text.toList = text.utf8ByteSize := by
  rw [← utf8ByteSize_ofList, String.ofList_toList]

theorem byteSize_append (front later : List Char) :
    byteSize (front ++ later) = byteSize front + byteSize later := by
  rw [← length_encode, Utf8.encode_append, List.length_append, length_encode, length_encode]

theorem byteSize_le_of_isPrefix {front cs : List Char} (h : front <+: cs) :
    byteSize front ≤ byteSize cs := by
  obtain ⟨later, rfl⟩ := h
  rw [byteSize_append]
  exact Nat.le_add_right _ _

/-! ### Bytes from the start -/

theorem takeBytes_begins (n : Nat) (cs : List Char) : takeBytes n cs <+: cs := by
  induction cs generalizing n with
  | nil => exact List.prefix_rfl
  | cons c cs ih =>
    rw [takeBytes]
    split
    · exact (List.prefix_cons_inj c).mpr (ih _)
    · exact List.nil_prefix

theorem byteSize_takeBytes_le (n : Nat) (cs : List Char) : byteSize (takeBytes n cs) ≤ n := by
  induction cs generalizing n with
  | nil => exact Nat.zero_le _
  | cons c cs ih =>
    rw [takeBytes]
    split
    · have hrest := ih (n - c.utf8Size)
      rw [byteSize]
      omega
    · exact Nat.zero_le _

theorem prefix_takeBytes {n : Nat} {cs front : List Char} (h : front <+: cs)
    (hfits : byteSize front ≤ n) : front <+: takeBytes n cs := by
  induction cs generalizing n front with
  | nil => exact h
  | cons c cs ih =>
    cases front with
    | nil => exact List.nil_prefix
    | cons d front =>
      obtain ⟨rfl, hrest⟩ := List.cons_prefix_cons.mp h
      rw [byteSize] at hfits
      rw [takeBytes, if_pos (by omega)]
      exact List.cons_prefix_cons.mpr ⟨rfl, ih hrest (by omega)⟩

/-- What is left out of a text that is too long begins with a character of four bytes at most. -/
theorem lt_byteSize_takeBytes {n : Nat} {cs : List Char} (h : n < byteSize cs) :
    n < byteSize (takeBytes n cs) + 4 := by
  induction cs generalizing n with
  | nil => exact absurd h (Nat.not_lt_zero n)
  | cons c cs ih =>
    have hc := c.utf8Size_le_four
    rw [byteSize] at h
    rw [takeBytes]
    split
    · have hrest := ih (n := n - c.utf8Size) (by omega)
      rw [byteSize]
      omega
    · rw [byteSize]
      omega

theorem cutTo_takeBytes (limit : Nat) (cs : List Char) : CutTo limit cs (takeBytes limit cs) where
  begins := takeBytes_begins limit cs
  fits := by
    rw [length_encode]
    exact byteSize_takeBytes_le limit cs
  longest := fun other hother hfits => prefix_takeBytes hother (length_encode other ▸ hfits)

/-! ### Boundaries -/

theorem takeBytes_of_fits {n m : Nat} {cs : List Char} (hnm : n ≤ m)
    (h : byteSize (takeBytes m cs) ≤ n) : takeBytes n cs = takeBytes m cs := by
  have hshorter : takeBytes n cs <+: takeBytes m cs :=
    prefix_takeBytes (takeBytes_begins n cs) (Nat.le_trans (byteSize_takeBytes_le n cs) hnm)
  have hlonger : takeBytes m cs <+: takeBytes n cs :=
    prefix_takeBytes (takeBytes_begins m cs) h
  exact hshorter.eq_of_length (Nat.le_antisymm hshorter.length_le hlonger.length_le)

theorem isBoundary_iff {cs : List Char} {n : Nat} :
    isBoundary cs n = true ↔ byteSize (takeBytes n cs) = n := by
  induction cs generalizing n with
  | nil => cases n <;> simp [isBoundary, takeBytes, byteSize]
  | cons c cs ih =>
    have hc := c.utf8Size_pos
    cases n with
    | zero =>
      rw [takeBytes, if_neg (by omega)]
      simp [isBoundary, byteSize]
    | succ n =>
      rw [isBoundary, Bool.and_eq_true, decide_eq_true_eq, ih, takeBytes]
      split
      · rw [byteSize]
        omega
      · simp only [byteSize]
        omega

theorem isBoundary_iff_isValid {text : String} {n : Nat} :
    isBoundary text.toList n = true ↔ String.Pos.Raw.IsValid text ⟨n⟩ := by
  rw [isBoundary_iff, String.Pos.Raw.isValid_iff_exists_append]
  constructor
  · intro hsize
    obtain ⟨later, hlater⟩ := takeBytes_begins n text.toList
    refine ⟨.ofList (takeBytes n text.toList), .ofList later, ?_, ?_⟩
    · rw [← String.ofList_append, hlater, String.ofList_toList]
    · rw [String.Pos.Raw.ext_iff, String.byteIdx_rawEndPos, utf8ByteSize_ofList, hsize]
  · rintro ⟨front, later, rfl, hn⟩
    rw [String.Pos.Raw.ext_iff, String.byteIdx_rawEndPos, ← byteSize_toList] at hn
    have hfront : front.toList <+: takeBytes n (front ++ later).toList := by
      rw [String.toList_append]
      exact prefix_takeBytes (List.prefix_append _ _) (Nat.le_of_eq hn.symm)
    have hle : n ≤ byteSize (takeBytes n (front ++ later).toList) :=
      Nat.le_trans (Nat.le_of_eq hn) (byteSize_le_of_isPrefix hfront)
    exact Nat.le_antisymm (byteSize_takeBytes_le _ _) hle

theorem takeBytes_lastBoundary (cs : List Char) (n : Nat) :
    takeBytes (lastBoundary cs n) cs = takeBytes n cs := by
  induction n with
  | zero => rfl
  | succ n ih =>
    rw [lastBoundary]
    split
    · rfl
    · -- No character ends here, so that nothing is lost one byte earlier.
      rename_i hboundary
      have hsize := byteSize_takeBytes_le (n + 1) cs
      have hne := mt isBoundary_iff.mpr hboundary
      rw [ih]
      exact takeBytes_of_fits n.le_succ (by omega)

/-- The search ends where a character does, also where it goes all the way back to the start. -/
theorem isBoundary_lastBoundary (cs : List Char) (n : Nat) :
    isBoundary cs (lastBoundary cs n) = true := by
  induction n with
  | zero => exact isBoundary.eq_1 cs
  | succ n ih =>
    rw [lastBoundary]
    split
    · assumption
    · exact ih

theorem lastBoundary_eq (cs : List Char) (n : Nat) :
    lastBoundary cs n = byteSize (takeBytes n cs) := by
  rw [← takeBytes_lastBoundary]
  exact (isBoundary_iff.mp (isBoundary_lastBoundary cs n)).symm

theorem le_lastBoundary {cs : List Char} {m n : Nat} (hm : m ≤ n) (h : isBoundary cs m = true) :
    m ≤ lastBoundary cs n := by
  rw [isBoundary_iff] at h
  have hfront : takeBytes m cs <+: takeBytes n cs :=
    prefix_takeBytes (takeBytes_begins m cs) (Nat.le_trans (Nat.le_of_eq h) hm)
  rw [lastBoundary_eq, ← h]
  exact byteSize_le_of_isPrefix hfront

/-- Where a search for a boundary stops that goes back byte by byte. -/
structure StopsAt (text : String) (start stop : Nat) : Prop where
  reached : stop ≤ start
  boundary : String.Pos.Raw.IsValid text ⟨stop⟩
  first : ∀ n, stop < n → n ≤ start → ¬ String.Pos.Raw.IsValid text ⟨n⟩

theorem stopsAt_lastBoundary (text : String) (start : Nat) :
    StopsAt text start (lastBoundary text.toList start) where
  reached := by
    rw [lastBoundary_eq]
    exact byteSize_takeBytes_le _ _
  boundary := isBoundary_iff_isValid.mp (isBoundary_lastBoundary _ _)
  first := fun _ hn hstart hvalid =>
    Nat.not_le.mpr hn (le_lastBoundary hstart (isBoundary_iff_isValid.mpr hvalid))

/-! ### The cut -/

theorem cut_eq_takeBytes (limit : Nat) (cs : List Char) : cut limit cs = takeBytes limit cs := by
  rw [cut]
  split
  · exact takeBytes_lastBoundary cs limit
  · rename_i hshort
    have hfits : byteSize cs ≤ limit := Nat.not_lt.mp hshort
    have hwhole : cs <+: takeBytes limit cs := prefix_takeBytes List.prefix_rfl hfits
    exact hwhole.eq_of_length_le (takeBytes_begins limit cs).length_le

theorem cutTo_cut (limit : Nat) (cs : List Char) : CutTo limit cs (cut limit cs) := by
  rw [cut_eq_takeBytes]
  exact cutTo_takeBytes limit cs

end ChatRelay.Text
