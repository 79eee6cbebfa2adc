import ChatRelay.Config.Basic

/-!
What it takes for a configuration to be accepted.
-/

namespace ChatRelay.Config

theorem check_eq_ok_iff {c : Config} : c.check = .ok () ↔
    (isAbsolute c.routes.httpRoot = true ∧ endsWithSlash c.routes.httpRoot = false) ∧
      isAbsolute c.routes.socketPath = true ∧
      (∀ path ∈ c.routes.allowedPaths, isAbsolute path = true) ∧
      Gate.checkBackend c.backend.url.toList = .ok () := by
  have hpaths : c.routes.allowedPaths.find? (!isAbsolute ·) = none ↔
      ∀ path ∈ c.routes.allowedPaths, isAbsolute path = true := by
    simp only [List.find?_eq_none, Bool.not_eq_true', Bool.not_eq_false]
  rw [← hpaths, check]
  -- One case for each thing that is looked at; what is found wrong first is the fault.
  cases isAbsolute c.routes.httpRoot with
  | false => exact iff_of_false (fun h => nomatch h) fun h => nomatch h.1.1
  | true =>
    cases endsWithSlash c.routes.httpRoot with
    | true => exact iff_of_false (fun h => nomatch h) fun h => nomatch h.1.2
    | false =>
      cases isAbsolute c.routes.socketPath with
      | false => exact iff_of_false (fun h => nomatch h) fun h => nomatch h.2.1
      | true =>
        cases c.routes.allowedPaths.find? (!isAbsolute ·) with
        | some path => exact iff_of_false (fun h => nomatch h) fun h => nomatch h.2.2.1
        | none =>
          cases Gate.checkBackend c.backend.url.toList with
          | error fault => exact iff_of_false (fun h => nomatch h) fun h => nomatch h.2.2.2
          | ok _ => exact iff_of_true rfl ⟨⟨rfl, rfl⟩, rfl, rfl, rfl⟩

theorem head?_of_isAbsolute {path : String} (h : isAbsolute path = true) :
    path.toList.head? = some '/' :=
  beq_iff_eq.mp h

theorem getLast?_of_endsWithSlash {path : String} (h : endsWithSlash path = false) :
    path.toList.getLast? ≠ some '/' :=
  beq_eq_false_iff_ne.mp h

end ChatRelay.Config
