import Mathlib.Data.List.DropRight
import ChatRelay.Text.Blank

/-!
Trimming: what is dropped from the end of a text belongs to the class, and nothing is dropped
beyond a character outside it.
-/

namespace ChatRelay.Text

theorem exists_dropEnd (p : Char → Bool) (cs : List Char) :
    ∃ back, cs = dropEnd p cs ++ back ∧ ∀ c ∈ back, p c = true := by
  refine ⟨(cs.reverse.takeWhile p).reverse, ?_, ?_⟩
  · rw [dropEnd, ← List.reverse_append, List.takeWhile_append_dropWhile, List.reverse_reverse]
  · intro c hc
    exact List.all_eq_true.mp List.all_takeWhile c (List.mem_reverse.mp hc)

theorem dropEnd_of_forall {p : Char → Bool} {cs : List Char} (h : ∀ c ∈ cs, p c = false) :
    dropEnd p cs = cs := by
  have hkept : cs.reverse.dropWhile p = cs.reverse := by
    cases hr : cs.reverse with
    | nil => rfl
    | cons c rest =>
      have hc : c ∈ cs := List.mem_reverse.mp (hr ▸ List.mem_cons_self)
      exact List.dropWhile_cons_of_neg (by rw [h c hc]; decide)
  rw [dropEnd, hkept, List.reverse_reverse]

theorem dropWhile_append_cons {p : Char → Bool} {c : Char} (hc : p c = false)
    (front back : List Char) :
    (front ++ c :: back).dropWhile p = front.dropWhile p ++ c :: back := by
  -- At the latest the character outside the class stops the dropping.
  induction front with
  | nil => exact List.dropWhile_cons_of_neg (by rw [hc]; decide)
  | cons d front ih =>
    rw [List.cons_append, List.dropWhile_cons, List.dropWhile_cons]
    split
    · exact ih
    · rfl

theorem dropEnd_append_cons {p : Char → Bool} {c : Char} (hc : p c = false)
    (front back : List Char) : dropEnd p (front ++ c :: back) = front ++ c :: dropEnd p back := by
  have hreverse : (front ++ c :: back).reverse = back.reverse ++ c :: front.reverse := by
    simp
  rw [dropEnd, hreverse, dropWhile_append_cons hc, List.reverse_append, List.reverse_cons,
    List.reverse_reverse, List.append_assoc, List.singleton_append, dropEnd]

/-- A text between two characters that are no blanks is trimmed already. -/
theorem trim_enclosed {first last : Char} (hf : isBlank first = false) (hl : isBlank last = false)
    (body : List Char) : trim (first :: body ++ [last]) = first :: body ++ [last] := by
  have hfront : (first :: body ++ [last]).dropWhile isBlank = first :: body ++ [last] :=
    List.dropWhile_cons_of_neg (by rw [hf]; decide)
  rw [trim, hfront]
  exact dropEnd_append_cons hl (first :: body) []

theorem dropEnd_dropEnd (p : Char → Bool) (cs : List Char) :
    dropEnd p (dropEnd p cs) = dropEnd p cs := by
  rw [dropEnd, dropEnd, List.reverse_reverse, List.dropWhile_idempotent]

/-- What is left of a text without blanks in front is empty or begins as the text does. -/
theorem dropWhile_dropEnd {cs : List Char} (h : cs.dropWhile isBlank = cs) :
    (dropEnd isBlank cs).dropWhile isBlank = dropEnd isBlank cs := by
  obtain ⟨back, hback, -⟩ := exists_dropEnd isBlank cs
  cases hcs : dropEnd isBlank cs with
  | nil => rfl
  | cons c rest =>
    rw [hcs, List.cons_append] at hback
    rw [hback] at h
    apply List.dropWhile_cons_of_neg
    intro hc
    rw [List.dropWhile_cons_of_pos hc] at h
    have hshorter := (List.dropWhile_suffix isBlank (l := rest ++ back)).length_le
    rw [h, List.length_cons] at hshorter
    omega

theorem trim_trim (cs : List Char) : trim (trim cs) = trim cs := by
  rw [trim, trim, dropWhile_dropEnd (List.dropWhile_idempotent isBlank _), dropEnd_dropEnd]

theorem trim_subset (cs : List Char) : trim cs ⊆ cs := by
  intro c hc
  obtain ⟨back, hback, -⟩ := exists_dropEnd isBlank (cs.dropWhile isBlank)
  apply (List.dropWhile_suffix isBlank).subset
  rw [hback]
  exact List.mem_append_left back hc

/-! ### Blanks -/

theorem trim_eq_nil_iff {cs : List Char} : trim cs = [] ↔ ∀ c ∈ cs, isBlank c = true := by
  constructor
  · intro h
    obtain ⟨back, hback, hblank⟩ := exists_dropEnd isBlank (cs.dropWhile isBlank)
    rw [← trim, h, List.nil_append] at hback
    rw [← List.takeWhile_append_dropWhile (p := isBlank) (l := cs), hback]
    exact List.forall_mem_append.mpr ⟨List.all_eq_true.mp List.all_takeWhile, hblank⟩
  · intro h
    rw [trim, List.dropWhile_eq_nil_iff.mpr h]
    rfl

/-- Blanks in front make no difference. -/
theorem trim_blanks_append {front : List Char} (h : ∀ c ∈ front, isBlank c = true)
    (cs : List Char) : trim (front ++ cs) = trim cs := by
  rw [trim, List.dropWhile_append_of_pos h, trim]

/-- Blanks at the end make no difference. -/
theorem trim_append_blanks {back : List Char} (h : ∀ c ∈ back, isBlank c = true)
    (cs : List Char) : trim (cs ++ back) = trim cs := by
  by_cases hcs : ∀ c ∈ cs, isBlank c = true
  · rw [trim_eq_nil_iff.mpr hcs, trim_eq_nil_iff.mpr (List.forall_mem_append.mpr ⟨hcs, h⟩)]
  · have hsome : (cs.dropWhile isBlank).isEmpty = false := by
      rw [List.isEmpty_eq_false_iff]
      exact fun hnil => hcs (List.dropWhile_eq_nil_iff.mp hnil)
    have hback : ∀ c ∈ back.reverse, isBlank c = true :=
      fun c hc => h c (List.mem_reverse.mp hc)
    rw [trim, List.dropWhile_append, hsome, if_neg (by decide), dropEnd, List.reverse_append,
      List.dropWhile_append_of_pos hback, trim, dropEnd]

theorem trim_cons {c : Char} (hc : isBlank c = false) (cs : List Char) :
    trim (c :: cs) = c :: dropEnd isBlank cs := by
  rw [trim, List.dropWhile_cons_of_neg (by rw [hc]; decide)]
  exact dropEnd_append_cons hc [] cs

theorem isBlank_head_trim {cs rest : List Char} {c : Char} (h : trim cs = c :: rest) :
    isBlank c = false := by
  cases hcs : cs.dropWhile isBlank with
  | nil =>
    rw [trim, hcs] at h
    cases h
  | cons d ds =>
    have hne : cs.dropWhile isBlank ≠ [] := by
      rw [hcs]
      exact List.cons_ne_nil d ds
    have hd : isBlank d = false := by
      have hhead := List.head_dropWhile_not isBlank hne
      simpa only [hcs, List.head_cons] using hhead
    have hkept : dropEnd isBlank (d :: ds) = d :: dropEnd isBlank ds :=
      dropEnd_append_cons hd [] ds
    rw [trim, hcs, hkept] at h
    rw [← (List.cons.inj h).1, hd]

theorem trim_of_forall {cs : List Char} (h : ∀ c ∈ cs, isBlank c = false) : trim cs = cs := by
  cases cs with
  | nil => rfl
  | cons c cs =>
    obtain ⟨hc, hcs⟩ := List.forall_mem_cons.mp h
    rw [trim_cons hc, dropEnd_of_forall hcs]

theorem dropEnd_of_trim {cs : List Char} (h : trim cs = cs) : dropEnd isBlank cs = cs := by
  rw [← h, trim, dropEnd_dropEnd]

/-- A text is trimmed by taking blanks from its front and its end. -/
theorem exists_trim (cs : List Char) : ∃ front back, cs = front ++ trim cs ++ back ∧
    (∀ c ∈ front, isBlank c = true) ∧ ∀ c ∈ back, isBlank c = true := by
  obtain ⟨back, hback, hblank⟩ := exists_dropEnd isBlank (cs.dropWhile isBlank)
  refine ⟨cs.takeWhile isBlank, back, ?_, List.all_eq_true.mp List.all_takeWhile, hblank⟩
  rw [List.append_assoc, trim, ← hback, List.takeWhile_append_dropWhile]

/-- A trimmed text does not end with blanks. -/
theorem eq_nil_of_trim_eq_append {cs front back : List Char} (h : trim cs = front ++ back)
    (hback : ∀ c ∈ back, isBlank c = true) : back = [] := by
  -- Trimmed once more, it could lose the blanks at its end, and would be shorter.
  have htrim : front ++ back = trim front := by
    rw [← h, ← trim_trim cs, h, trim_append_blanks hback]
  obtain ⟨before, after, hfront, -, -⟩ := exists_trim front
  have hlength := congrArg List.length hfront
  rw [← htrim] at hlength
  simp only [List.length_append] at hlength
  exact List.eq_nil_of_length_eq_zero (by omega)

end ChatRelay.Text
