import ChatRelay.Proofs.Url.Standard

/-!
A path in which nothing is to be encoded is made of the pieces between its slashes. Reading it
resolves dots and changes no piece, so that it grows by a slash at most.
-/

namespace ChatRelay.Url

/-- A character that stands in a path as it is. -/
def Kept (c : Char) : Prop := pathSet c = false ∧ c ≠ '\\'

theorem Kept.eq_slash {c : Char} (h : Kept c) (hslash : isSlash .special c = true) : c = '/' := by
  simpa [isSlash, h.2] using hslash

theorem not_mem_of_kept {cs : List Char} (h : ∀ c ∈ cs, Kept c) : '#' ∉ cs ∧ '?' ∉ cs :=
  ⟨fun hm => (of_pathSet (h '#' hm).1).2.1 rfl, fun hm => (of_pathSet (h '?' hm).1).2.2 rfl⟩

theorem writeSegments_splitSlashes {cs : List Char} (h : ∀ c ∈ cs, Kept c) :
    writeSegments (splitSlashes .special cs) = '/' :: cs := by
  induction cs with
  | nil => rfl
  | cons c cs ih =>
    obtain ⟨hc, hcs⟩ := List.forall_mem_cons.mp h
    have hlater := ih hcs
    rw [splitSlashes] at hlater ⊢
    rw [List.splitOnP_cons_eq_if_modifyHead]
    split
    · rename_i hslash
      rw [writeSegments_cons, hlater, hc.eq_slash hslash]
      rfl
    · -- The character is put onto the first of the later pieces.
      obtain ⟨first, rest, hsplit⟩ :=
        List.exists_cons_of_ne_nil (List.splitOnP_ne_nil (isSlash .special) cs)
      rw [hsplit, writeSegments_cons] at hlater
      rw [hsplit, List.modifyHead_cons, writeSegments_cons]
      exact congrArg ('/' :: c :: ·) (List.cons.inj hlater).2

theorem kept_pieces {cs : List Char} (h : ∀ c ∈ cs, Kept c) :
    ∀ s ∈ splitSlashes .special cs, ∀ c ∈ s, pathSet c = false ∧ isSlash .special c = false := by
  intro s hs c hc
  obtain ⟨hslash, hmem⟩ := Text.of_mem_splitOnP s hs c hc
  exact ⟨(h c hmem).1, hslash⟩

/-! ### Lengths -/

theorem length_writeSegments_cons (first : List Char) (rest : List (List Char)) :
    (writeSegments (first :: rest)).length = first.length + 1 + (writeSegments rest).length := by
  rw [writeSegments_cons, List.length_append, List.length_cons]

theorem length_goUp (done : List (List Char)) :
    (writeSegments (goUp done)).length ≤ (writeSegments done).length := by
  cases done with
  | nil => exact Nat.le_refl 0
  | cons first rest =>
    rw [goUp]
    split
    · exact Nat.le_refl _
    · rw [length_writeSegments_cons]
      omega

theorem length_place (isLast : Bool) (done : List (List Char)) (segment : List Char) :
    (writeSegments (place isLast done segment)).length ≤
      segment.length + 1 + (writeSegments done).length := by
  have hup := length_goUp done
  have hempty (more : List (List Char)) :
      (writeSegments ([] :: more)).length = 1 + (writeSegments more).length :=
    length_writeSegments_cons [] more
  rw [place]
  split
  · split
    · rw [hempty]
      omega
    · omega
  · split
    · split
      · rw [hempty]
        omega
      · omega
    · rw [length_writeSegments_cons]

theorem length_placeAll (segments done : List (List Char)) :
    (writeSegments (placeAll done segments)).length ≤
      (writeSegments done).length + (writeSegments segments).length := by
  induction segments generalizing done with
  | nil => exact Nat.le_refl _
  | cons segment rest ih =>
    rw [length_writeSegments_cons]
    cases rest with
    | nil =>
      have hlast := length_place true done segment
      exact hlast.trans (by omega)
    | cons next rest =>
      have hstep := length_place false done segment
      exact (ih _).trans (by omega)

theorem length_writeSegments_reverse (parts : List (List Char)) :
    (writeSegments parts.reverse).length = (writeSegments parts).length := by
  rw [writeSegments, writeSegments, List.length_flatMap, List.length_flatMap, List.map_reverse,
    List.sum_reverse]

/-- Reading a path in which nothing is to be encoded makes it no longer, but for a slash. -/
theorem length_write_readPath {cs : List Char} (h : ∀ c ∈ cs, Kept c) :
    (readPath .special cs).write.length ≤ cs.length + 1 := by
  have hdrop : ∀ c ∈ dropSlash .special cs, Kept c ∧ c ∈ cs := by
    intro c hc
    cases cs with
    | nil => cases hc
    | cons first rest =>
      rw [dropSlash] at hc
      split at hc
      · exact ⟨h c (List.mem_cons_of_mem first hc), List.mem_cons_of_mem first hc⟩
      · exact ⟨h c hc, hc⟩
  have hlength : (dropSlash .special cs).length ≤ cs.length := by
    cases cs with
    | nil => exact Nat.le_refl 0
    | cons first rest =>
      rw [dropSlash]
      split
      · exact Nat.le_succ _
      · exact Nat.le_refl _
  have hencoded : (splitSlashes .special (dropSlash .special cs)).map (percentEncode pathSet) =
      splitSlashes .special (dropSlash .special cs) := by
    refine (List.map_congr_left fun s hs => percentEncode_eq_self fun c hc => ?_).trans
      (List.map_id _)
    exact (kept_pieces (fun c hc => (hdrop c hc).1) s hs c hc).1
  have hplaced := length_placeAll (splitSlashes .special (dropSlash .special cs)) []
  rw [writeSegments_splitSlashes fun c hc => (hdrop c hc).1, List.length_cons] at hplaced
  have hkind : (Kind.special == Kind.general && cs.isEmpty) = false := rfl
  simp only [readPath, reduceCtorEq, decide_false, Bool.false_and, Bool.false_eq_true, if_false,
    Path.write, readSegments, hencoded, List.reverse_nil, length_writeSegments_reverse]
  have hnil : (writeSegments []).length = 0 := rfl
  omega

end ChatRelay.Url
