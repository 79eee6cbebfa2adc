import Mathlib.Data.List.Infix

/-!
Searching a text for the first place where a part stands. A part whose first character does not
come again in it cannot overlap with itself, so that it is found where it has been put unless it
stands in what is before it.
-/

namespace ChatRelay.Text

/-- A text cut at the first place where a part stands: what is before the part and behind it. -/
def cutAt? (part : List Char) : List Char → Option (List Char × List Char)
  | [] => none
  | c :: rest =>
    match List.isPrefixOf? part (c :: rest) with
    | some after => some ([], after)
    | none => (cutAt? part rest).map fun (before, after) => (c :: before, after)

theorem eq_append_of_cutAt? {part text before after : List Char}
    (h : cutAt? part text = some (before, after)) : text = before ++ (part ++ after) := by
  induction text generalizing before with
  | nil => cases h
  | cons c rest ih =>
    rw [cutAt?] at h
    split at h
    · rename_i hstart
      cases h
      exact (List.isPrefixOf?_eq_some_iff_append_eq.mp hstart).symm
    · obtain ⟨⟨before', after'⟩, hrest, hpair⟩ := Option.map_eq_some_iff.mp h
      cases hpair
      rw [ih hrest]
      rfl

theorem isPrefixOf?_eq_none_iff {part text : List Char} :
    List.isPrefixOf? part text = none ↔ ¬ part <+: text := by
  rw [Option.eq_none_iff_forall_ne_some]
  constructor
  · rintro h ⟨after, hafter⟩
    exact h after (List.isPrefixOf?_eq_some_iff_append_eq.mpr hafter)
  · intro h after hafter
    exact h ⟨after, List.isPrefixOf?_eq_some_iff_append_eq.mp hafter⟩

/-- What is before the first place does not hold the part. -/
theorem not_infix_of_cutAt? {part text before after : List Char} (hne : part ≠ [])
    (h : cutAt? part text = some (before, after)) : ¬ part <:+: before := by
  induction text generalizing before with
  | nil => cases h
  | cons c rest ih =>
    have hwhole := eq_append_of_cutAt? h
    rw [cutAt?] at h
    split at h
    · cases h
      exact fun hinfix => hne (List.infix_nil.mp hinfix)
    · rename_i hstart
      obtain ⟨⟨before', after'⟩, hrest, hpair⟩ := Option.map_eq_some_iff.mp h
      cases hpair
      intro hinfix
      rcases List.infix_cons_iff.mp hinfix with hbegins | hinfix
      · -- The part would stand at the start of the text, where it has been looked for.
        have htext := hbegins.trans (List.prefix_append (c :: before') (part ++ after))
        rw [← hwhole] at htext
        exact isPrefixOf?_eq_none_iff.mp hstart htext
      · exact ih hrest hinfix

/-- No place where the part stands comes before the one that is found. -/
theorem suffix_of_cutAt? {part text before after front back : List Char}
    (h : cutAt? part text = some (before, after)) (htext : text = front ++ (part ++ back)) :
    back <:+ after := by
  induction text generalizing before front with
  | nil => cases h
  | cons c rest ih =>
    rw [cutAt?] at h
    split at h
    · rename_i hstart
      cases h
      have hwhole := List.isPrefixOf?_eq_some_iff_append_eq.mp hstart
      have heq : part ++ after = front ++ (part ++ back) := hwhole.trans htext
      have hback : back <:+ part ++ after := by
        rw [heq, ← List.append_assoc]
        exact List.suffix_append (front ++ part) back
      have hlength : back.length ≤ after.length := by
        have hlengths := congrArg List.length heq
        rw [List.length_append, List.length_append, List.length_append] at hlengths
        omega
      exact List.suffix_of_suffix_length_le hback (List.suffix_append part after) hlength
    · rename_i hstart
      obtain ⟨⟨before', after'⟩, hrest, hpair⟩ := Option.map_eq_some_iff.mp h
      cases hpair
      cases front with
      | nil =>
        exact absurd ⟨back, htext.symm⟩ (isPrefixOf?_eq_none_iff.mp hstart)
      | cons d front => exact ih hrest (List.cons.inj htext).2

/-- Nothing is found exactly when the part does not stand anywhere. -/
theorem cutAt?_eq_none_iff {part text : List Char} (hne : part ≠ []) :
    cutAt? part text = none ↔ ¬ part <:+: text := by
  induction text with
  | nil => exact ⟨fun _ hinfix => hne (List.infix_nil.mp hinfix), fun _ => rfl⟩
  | cons c rest ih =>
    rw [List.infix_cons_iff, not_or, ← ih, cutAt?]
    split
    · rename_i after hstart
      have hbegins : part <+: c :: rest := ⟨after, List.isPrefixOf?_eq_some_iff_append_eq.mp hstart⟩
      simp [hbegins]
    · rename_i hstart
      simp [isPrefixOf?_eq_none_iff.mp hstart]

/-- A part does not begin in front of where it stands and end in it. -/
theorem prefix_of_prefix_append {d : Char} {tail before after : List Char} (hd : d ∉ tail)
    (hne : before ≠ []) (h : d :: tail <+: before ++ (d :: tail ++ after)) :
    d :: tail <+: before := by
  obtain ⟨more, hmore⟩ := h
  rcases List.append_eq_append_iff.mp hmore with ⟨between, hbefore, -⟩ | ⟨back, hpart, hback⟩
  · exact ⟨between, hbefore.symm⟩
  · cases back with
    | nil =>
      rw [List.append_nil] at hpart
      rw [hpart]
    | cons e back =>
      -- The part would have its first character again, at the place where the second one begins.
      obtain ⟨rfl, -⟩ := List.cons.inj hback
      obtain ⟨c, front, rfl⟩ := List.exists_cons_of_ne_nil hne
      obtain ⟨-, htail⟩ := List.cons.inj hpart
      exact absurd (htail ▸ List.mem_append_right front List.mem_cons_self) hd

/-- The part is found where it has been put, if it does not stand before. -/
theorem cutAt?_append {d : Char} {tail before : List Char} (hd : d ∉ tail)
    (h : ¬ d :: tail <:+: before) (after : List Char) :
    cutAt? (d :: tail) (before ++ (d :: tail ++ after)) = some (before, after) := by
  induction before with
  | nil =>
    have hstart : List.isPrefixOf? (d :: tail) (d :: tail ++ after) = some after :=
      List.isPrefixOf?_eq_some_iff_append_eq.mpr rfl
    rw [List.nil_append, List.cons_append, cutAt?, ← List.cons_append, hstart]
  | cons c before ih =>
    have hno : ¬ d :: tail <+: c :: before ++ (d :: tail ++ after) := fun hbegins =>
      h (prefix_of_prefix_append hd (List.cons_ne_nil _ _) hbegins).isInfix
    have hrest : ¬ d :: tail <:+: before := fun hinfix => h (List.infix_cons hinfix)
    rw [List.cons_append] at hno
    rw [List.cons_append, cutAt?, isPrefixOf?_eq_none_iff.mpr hno, ih hrest]
    rfl

end ChatRelay.Text
