import ChatRelay.Proofs.Gate.Traversal
import ChatRelay.Proofs.Text.Split

/-!
Entries count by whole segments. The gate compares texts and then looks at one more character;
that is to compare what stands between the slashes, empty pieces included.
-/

namespace ChatRelay.Text

/-- A text is its pieces with the separators between them. -/
theorem splitOn_inj {sep : Char} {cs ds : List Char} (h : cs.splitOn sep = ds.splitOn sep) :
    cs = ds :=
  calc cs = [sep].intercalate (cs.splitOn sep) := (List.intercalate_splitOn sep).symm
    _ = [sep].intercalate (ds.splitOn sep) := by rw [h]
    _ = ds := List.intercalate_splitOn sep

/-- The first pieces of a text are those of a text that it goes on after, with a separator. -/
theorem splitOn_prefix_iff {sep : Char} {front cs : List Char} :
    front.splitOn sep <+: cs.splitOn sep ↔ cs = front ∨ front ++ [sep] <+: cs := by
  constructor
  · rintro ⟨later, hlater⟩
    cases later with
    | nil =>
      rw [List.append_nil] at hlater
      exact .inl (splitOn_inj hlater.symm)
    | cons next later =>
      -- The later pieces are pieces of a text of their own, which stands behind a separator.
      have hpieces : ∀ piece ∈ next :: later, sep ∉ piece := by
        intro piece hpiece hsep
        have hmem : piece ∈ cs.splitOn sep := hlater ▸ List.mem_append_right _ hpiece
        exact absurd (of_mem_splitOnP piece hmem sep hsep).1 (by simp)
      have hback : ([sep].intercalate (next :: later)).splitOn sep = next :: later :=
        List.splitOn_intercalate sep hpieces (List.cons_ne_nil next later)
      have hcs : front ++ sep :: [sep].intercalate (next :: later) = cs := by
        have hsame : (front ++ sep :: [sep].intercalate (next :: later)).splitOn sep =
            cs.splitOn sep := by
          rw [List.splitOn_append_cons_self, hback, hlater]
        exact splitOn_inj hsame
      refine .inr ⟨[sep].intercalate (next :: later), ?_⟩
      rw [List.append_assoc, List.singleton_append, hcs]
  · rintro (rfl | ⟨later, rfl⟩)
    · exact List.prefix_rfl
    · rw [List.append_assoc, List.singleton_append, List.splitOn_append_cons_self]
      exact List.prefix_append _ _

end ChatRelay.Text

namespace ChatRelay.Gate

/-- A path is permitted if the segments of an entry are the first of its segments. -/
theorem Allowlist.permits_iff_segments (a : Allowlist) (backendPath : List Char) :
    a.permits backendPath = true ↔
      ∃ entry ∈ a.entries, entry.splitOn '/' <+: backendPath.splitOn '/' := by
  rw [permits_eq_true_iff]
  exact exists_congr fun entry => and_congr_right fun _ => Text.splitOn_prefix_iff.symm

/-- A slash at the end of an entry begins a segment of its own, which is empty. -/
example : Allowlist.permits ⟨[], ["/a/".toList]⟩ "/a/b".toList = false ∧
    Allowlist.permits ⟨[], ["/a/".toList]⟩ "/a//b".toList = true := by decide

end ChatRelay.Gate
