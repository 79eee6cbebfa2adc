import ChatRelay.Gate.Allowlist
import Mathlib.Data.List.Basic

/-!
What it takes for the gate to let a path through, and what it then makes of the path.
-/

namespace ChatRelay.Gate

theorem Allowlist.resolve_nil (a : Allowlist) : a.resolve [] = .error .empty := rfl

theorem Allowlist.resolve_of_ne_nil (a : Allowlist) {path : List Char} (h : path ≠ []) :
    a.resolve path = match normalize? path with
      | none => .error .malformed
      | some url => match (a.root ++ ['/']).isPrefixOf? url.pathText with
        | none => .error (.outsideRoot a.root)
        | some rest =>
          if hidesTraversal ('/' :: rest) then .error .traversal
          else if !a.permits ('/' :: rest) then .error (.notAllowed ('/' :: rest))
          else .ok ⟨url.pathText, '/' :: rest, url.query⟩ := by
  cases path with
  | nil => exact absurd rfl h
  | cons c path => rfl

/-- A path is let through when it passes all checks; what is passed on begins with a slash. -/
theorem Allowlist.resolve_eq_ok_iff {a : Allowlist} {path : List Char} {t : Target} :
    a.resolve path = .ok t ↔ path ≠ [] ∧ ∃ url rest, normalize? path = some url ∧
      url.pathText = a.root ++ '/' :: rest ∧ hidesTraversal ('/' :: rest) = false ∧
      a.permits ('/' :: rest) = true ∧ t = ⟨url.pathText, '/' :: rest, url.query⟩ := by
  have hroot {text rest : List Char} : (a.root ++ ['/']).isPrefixOf? text = some rest ↔
      text = a.root ++ '/' :: rest := by
    rw [List.isPrefixOf?_eq_some_iff_append_eq, List.append_assoc, List.singleton_append, eq_comm]
  by_cases hne : path = []
  · rw [hne, resolve_nil]
    simp
  · rw [a.resolve_of_ne_nil hne]
    -- A refusal at any of the checks is no result, and so all of them have been passed.
    constructor
    · intro h
      refine ⟨hne, ?_⟩
      split at h
      · cases h
      · rename_i url hurl
        split at h
        · cases h
        · rename_i rest hrest
          split at h
          · cases h
          · split at h
            · cases h
            · rename_i htraversal hpermits
              exact ⟨url, rest, hurl, hroot.mp hrest, Bool.eq_false_iff.mpr htraversal,
                by simpa using hpermits, (Except.ok.inj h).symm⟩
    · rintro ⟨-, url, rest, hurl, hrest, htraversal, hpermits, rfl⟩
      simp only [hurl, hroot.mpr hrest, htraversal, hpermits, Bool.not_true,
        Bool.false_eq_true, if_false]

end ChatRelay.Gate
