import ChatRelay.Proofs.Text.Trim

/-!
Pieces between separators: none of them holds a separator, and what is put together of pieces
holds nothing but what they and the separators hold. Blanks around a text are blanks around its
pieces. A text is cut once at its first separator.
-/

namespace ChatRelay.Text

theorem of_mem_splitOnP {α : Type} {p : α → Bool} {xs : List α} :
    ∀ piece ∈ xs.splitOnP p, ∀ x ∈ piece, p x = false ∧ x ∈ xs := by
  induction xs with
  | nil =>
    intro piece hpiece x hx
    rw [List.splitOnP_nil, List.mem_singleton] at hpiece
    rw [hpiece] at hx
    cases hx
  | cons y xs ih =>
    have hlater {piece : List α} (hpiece : piece ∈ xs.splitOnP p) {x : α} (hx : x ∈ piece) :
        p x = false ∧ x ∈ y :: xs :=
      ⟨(ih piece hpiece x hx).1, List.mem_cons_of_mem y (ih piece hpiece x hx).2⟩
    intro piece hpiece x hx
    rw [List.splitOnP_cons_eq_if_modifyHead] at hpiece
    split at hpiece
    · rcases List.mem_cons.mp hpiece with rfl | hpiece
      · cases hx
      · exact hlater hpiece hx
    · rename_i hy
      -- The character is put onto the first of the later pieces.
      obtain ⟨first, rest, hsplit⟩ := List.exists_cons_of_ne_nil (List.splitOnP_ne_nil p xs)
      rw [hsplit] at hpiece hlater
      rw [List.modifyHead_cons] at hpiece
      rcases List.mem_cons.mp hpiece with rfl | hpiece
      · rcases List.mem_cons.mp hx with rfl | hx
        · exact ⟨Bool.eq_false_iff.mpr hy, List.mem_cons_self⟩
        · exact hlater List.mem_cons_self hx
      · exact hlater (List.mem_cons_of_mem first hpiece) hx

theorem of_mem_intercalate {α : Type} {sep : List α} {xs : List (List α)} {a : α}
    (h : a ∈ sep.intercalate xs) : a ∈ sep ∨ ∃ x ∈ xs, a ∈ x := by
  induction xs with
  | nil => cases h
  | cons x xs ih =>
    cases xs with
    | nil =>
      rw [List.intercalate_singleton] at h
      exact .inr ⟨x, List.mem_cons_self, h⟩
    | cons y ys =>
      rw [List.intercalate_cons_cons, List.mem_append, List.mem_append] at h
      rcases h with (h | h) | h
      · exact .inr ⟨x, List.mem_cons_self, h⟩
      · exact .inl h
      · rcases ih h with h | ⟨z, hz, hm⟩
        · exact .inl h
        · exact .inr ⟨z, List.mem_cons_of_mem x hz, hm⟩

/-! ### Trimmed pieces -/

theorem map_trim_splitOn_blanks_append {sep : Char} (hsep : isBlank sep = false)
    {front : List Char} (h : ∀ c ∈ front, isBlank c = true) (cs : List Char) :
    ((front ++ cs).splitOn sep).map trim = (cs.splitOn sep).map trim := by
  have hfront : sep ∉ front := fun hm => Bool.false_ne_true (hsep.symm.trans (h sep hm))
  by_cases hcs : sep ∈ cs
  · obtain ⟨before, after, rfl, hbefore⟩ := List.eq_append_cons_of_mem hcs
    have hwhole : sep ∉ front ++ before := by
      rw [List.mem_append, not_or]
      exact ⟨hfront, hbefore⟩
    rw [← List.append_assoc, List.splitOn_append_cons_self, List.splitOn_append_cons_self,
      List.splitOn_eq_singleton hwhole, List.splitOn_eq_singleton hbefore, List.map_append,
      List.map_append, List.map_singleton, List.map_singleton, trim_blanks_append h]
  · have hwhole : sep ∉ front ++ cs := by
      rw [List.mem_append, not_or]
      exact ⟨hfront, hcs⟩
    rw [List.splitOn_eq_singleton hwhole, List.splitOn_eq_singleton hcs, List.map_singleton,
      List.map_singleton, trim_blanks_append h]

theorem map_trim_splitOn_append_blanks {sep : Char} (hsep : isBlank sep = false)
    {back : List Char} (h : ∀ c ∈ back, isBlank c = true) (cs : List Char) :
    ((cs ++ back).splitOn sep).map trim = (cs.splitOn sep).map trim := by
  have hback : sep ∉ back := fun hm => Bool.false_ne_true (hsep.symm.trans (h sep hm))
  by_cases hcs : sep ∈ cs
  · -- The blanks belong to what stands behind the separator.
    obtain ⟨before, after, hparts, -⟩ := List.eq_append_cons_of_mem hcs
    have hshorter : after.length < cs.length := by
      rw [hparts, List.length_append, List.length_cons]
      omega
    rw [hparts, List.append_assoc, List.cons_append, List.splitOn_append_cons_self,
      List.splitOn_append_cons_self, List.map_append, List.map_append,
      map_trim_splitOn_append_blanks hsep h after]
  · have hwhole : sep ∉ cs ++ back := by
      rw [List.mem_append, not_or]
      exact ⟨hcs, hback⟩
    rw [List.splitOn_eq_singleton hwhole, List.splitOn_eq_singleton hcs, List.map_singleton,
      List.map_singleton, trim_append_blanks h]
termination_by cs.length

/-- Trimming a text makes no difference to its trimmed pieces. -/
theorem map_trim_splitOn_trim {sep : Char} (hsep : isBlank sep = false) (cs : List Char) :
    ((trim cs).splitOn sep).map trim = (cs.splitOn sep).map trim := by
  obtain ⟨front, back, hcs, hfront, hback⟩ := exists_trim cs
  calc ((trim cs).splitOn sep).map trim
      = ((front ++ trim cs).splitOn sep).map trim :=
        (map_trim_splitOn_blanks_append hsep hfront _).symm
    _ = ((front ++ trim cs ++ back).splitOn sep).map trim :=
        (map_trim_splitOn_append_blanks hsep hback _).symm
    _ = (cs.splitOn sep).map trim := by rw [← hcs]

/-! ### At the first separator -/

theorem splitOnce_of_not_mem {sep : Char} {cs : List Char} (h : sep ∉ cs) :
    splitOnce sep cs = none := by
  induction cs with
  | nil => rfl
  | cons c cs ih =>
    rw [List.mem_cons, not_or] at h
    have hc : ¬ (c == sep) = true := fun heq => h.1 (beq_iff_eq.mp heq).symm
    rw [splitOnce, if_neg hc, ih h.2, Option.map_none]

theorem splitOnce_append_cons {sep : Char} {front : List Char} (h : sep ∉ front)
    (back : List Char) : splitOnce sep (front ++ sep :: back) = some (front, back) := by
  induction front with
  | nil => rw [List.nil_append, splitOnce, if_pos (beq_self_eq_true sep)]
  | cons c front ih =>
    rw [List.mem_cons, not_or] at h
    have hc : ¬ (c == sep) = true := fun heq => h.1 (beq_iff_eq.mp heq).symm
    rw [List.cons_append, splitOnce, if_neg hc, ih h.2, Option.map_some]

end ChatRelay.Text
