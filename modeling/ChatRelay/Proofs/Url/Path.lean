import ChatRelay.Gate.Allowlist
import ChatRelay.Proofs.Text.Split
import ChatRelay.Proofs.Text.Trim
import ChatRelay.Proofs.Url.Percent
import Mathlib.Data.List.Induction

/-!
Paths are read once. The segments that reading leaves are encoded, hold no slash and are no
dots, and segments of this kind are read back from their text as they are.
-/

namespace ChatRelay.Url

/-- A segment in which nothing is left to encode, to split or to resolve. -/
structure Settled (segment : List Char) : Prop where
  encoded : ∀ c ∈ segment, pathSet c = false
  whole : ∀ c ∈ segment, isSlash .special c = false
  not_single : isSingleDot segment = false
  not_double : isDoubleDot segment = false

theorem settled_nil : Settled [] where
  encoded := fun _ h => nomatch h
  whole := fun _ h => nomatch h
  not_single := by decide
  not_double := by decide

theorem stable_isSlash : Stable (isSlash .special) := ⟨by decide, by decide⟩

/-! ### What reading leaves -/

section Reading

variable {done : List (List Char)} {segment : List Char}

theorem settled_goUp (hdone : ∀ s ∈ done, Settled s) : ∀ s ∈ goUp done, Settled s := by
  cases done with
  | nil => exact hdone
  | cons first rest =>
    rw [goUp]
    split
    · exact hdone
    · exact fun s hs => hdone s (List.mem_cons_of_mem first hs)

theorem settled_place (hdone : ∀ s ∈ done, Settled s) (he : ∀ c ∈ segment, pathSet c = false)
    (hw : ∀ c ∈ segment, isSlash .special c = false) (isLast : Bool) :
    ∀ s ∈ place isLast done segment, Settled s := by
  have hempty {more : List (List Char)} (hmore : ∀ s ∈ more, Settled s) :
      ∀ s ∈ [] :: more, Settled s := List.forall_mem_cons.mpr ⟨settled_nil, hmore⟩
  rw [place]
  split
  · split
    · exact hempty (settled_goUp hdone)
    · exact settled_goUp hdone
  · rename_i hdouble
    split
    · split
      · exact hempty hdone
      · exact hdone
    · rename_i hsingle
      exact List.forall_mem_cons.mpr
        ⟨⟨he, hw, Bool.eq_false_iff.mpr hsingle, Bool.eq_false_iff.mpr hdouble⟩, hdone⟩

theorem place_last_ne_nil (done : List (List Char)) (segment : List Char) :
    place true done segment ≠ [] := by
  simp only [place, if_true]
  split
  · exact List.cons_ne_nil _ _
  · split <;> exact List.cons_ne_nil _ _

theorem settled_placeAll {segments : List (List Char)} (hdone : ∀ s ∈ done, Settled s)
    (he : ∀ s ∈ segments, ∀ c ∈ s, pathSet c = false)
    (hw : ∀ s ∈ segments, ∀ c ∈ s, isSlash .special c = false) :
    ∀ s ∈ placeAll done segments, Settled s := by
  induction segments generalizing done with
  | nil => exact hdone
  | cons segment rest ih =>
    obtain ⟨hefirst, herest⟩ := List.forall_mem_cons.mp he
    obtain ⟨hwfirst, hwrest⟩ := List.forall_mem_cons.mp hw
    cases rest with
    | nil => exact settled_place hdone hefirst hwfirst true
    | cons next rest => exact ih (settled_place hdone hefirst hwfirst false) herest hwrest

theorem placeAll_ne_nil {segments : List (List Char)} (hne : segments ≠ []) :
    placeAll done segments ≠ [] := by
  induction segments generalizing done with
  | nil => exact absurd rfl hne
  | cons segment rest ih =>
    cases rest with
    | nil => exact place_last_ne_nil done segment
    | cons next rest => exact ih (List.cons_ne_nil next rest)

/-- Whatever text is read, only settled segments are left of it. -/
theorem settled_readSegments {before : List (List Char)} (hb : ∀ s ∈ before, Settled s)
    (cs : List Char) : ∀ s ∈ readSegments .special before cs, Settled s := by
  intro s hs
  refine settled_placeAll ?_ ?_ ?_ s (List.mem_reverse.mp hs)
  · exact fun s hs => hb s (List.mem_reverse.mp hs)
  · intro s hs
    obtain ⟨piece, -, rfl⟩ := List.mem_map.mp hs
    exact kept_percentEncode stable_pathSet piece
  · intro s hs
    obtain ⟨piece, hpiece, rfl⟩ := List.mem_map.mp hs
    exact forall_percentEncode stable_isSlash fun c hc _ =>
      (Text.of_mem_splitOnP piece hpiece c hc).1

theorem readSegments_ne_nil (kind : Kind) (before : List (List Char)) (cs : List Char) :
    readSegments kind before cs ≠ [] := by
  have hsplit : (splitSlashes kind cs).map (percentEncode pathSet) ≠ [] := fun h =>
    List.splitOnP_ne_nil _ cs (List.map_eq_nil_iff.mp h)
  exact fun h => placeAll_ne_nil hsplit (List.reverse_eq_nil_iff.mp h)

end Reading

/-! ### Reading settled segments -/

theorem placeAll_settled {segments : List (List Char)} (h : ∀ s ∈ segments, Settled s)
    (done : List (List Char)) : placeAll done segments = segments.reverse ++ done := by
  have hplace {s : List Char} (hs : Settled s) (isLast : Bool) (done : List (List Char)) :
      place isLast done s = s :: done := by
    simp only [place, hs.not_double, hs.not_single, Bool.false_eq_true, if_false]
  induction segments generalizing done with
  | nil => rfl
  | cons segment rest ih =>
    obtain ⟨hfirst, hrest⟩ := List.forall_mem_cons.mp h
    cases rest with
    | nil => exact hplace hfirst true done
    | cons next rest =>
      have hstep : placeAll done (segment :: next :: rest) =
          placeAll (place false done segment) (next :: rest) := rfl
      rw [hstep, hplace hfirst, ih hrest, List.reverse_cons (a := segment), List.append_assoc,
        List.singleton_append]

theorem writeSegments_cons (first : List Char) (rest : List (List Char)) :
    writeSegments (first :: rest) = '/' :: first ++ writeSegments rest := List.flatMap_cons

theorem writeSegments_append (front back : List (List Char)) :
    writeSegments (front ++ back) = writeSegments front ++ writeSegments back :=
  List.flatMap_append

theorem splitSlashes_writeSegments {first : List Char} {rest : List (List Char)}
    (h : ∀ s ∈ first :: rest, ∀ c ∈ s, isSlash .special c = false) :
    splitSlashes .special (first ++ writeSegments rest) = first :: rest := by
  induction rest generalizing first with
  | nil =>
    have hfirst := (List.forall_mem_cons.mp h).1
    rw [writeSegments, List.flatMap_nil, List.append_nil, splitSlashes,
      List.splitOnP_eq_singleton hfirst]
  | cons next rest ih =>
    obtain ⟨hfirst, hrest⟩ := List.forall_mem_cons.mp h
    have hslash : isSlash .special '/' = true := by decide
    have hlater := ih hrest
    rw [splitSlashes] at hlater ⊢
    rw [writeSegments_cons, List.cons_append,
      List.splitOnP_append_cons_of_forall_mem hfirst '/' hslash, hlater]

theorem readPath_writeSegments {parts : List (List Char)} (hne : parts ≠ [])
    (h : ∀ s ∈ parts, Settled s) : readPath .special (writeSegments parts) = .segments parts := by
  cases parts with
  | nil => exact absurd rfl hne
  | cons first rest =>
    have hslash : isSlash .special '/' = true := by decide
    have hencoded : (first :: rest).map (percentEncode pathSet) = first :: rest :=
      (List.map_congr_left fun s hs => percentEncode_eq_self (h s hs).encoded).trans
        (List.map_id _)
    have hdrop : dropSlash .special (writeSegments (first :: rest)) =
        first ++ writeSegments rest := by
      rw [writeSegments_cons, List.cons_append, dropSlash, if_pos hslash]
    have hkind : (Kind.special == Kind.general && (writeSegments (first :: rest)).isEmpty) =
        false := by rfl
    simp only [readPath, reduceCtorEq, decide_false, Bool.false_and, Bool.false_eq_true, if_false,
      readSegments, hdrop, splitSlashes_writeSegments fun s hs => (h s hs).whole, hencoded,
      placeAll_settled h, List.reverse_nil, List.append_nil, List.reverse_reverse]

/-! ### Settled segments behind other text -/

theorem splitSlashes_append (cs : List Char) {later : List (List Char)} (hne : later ≠ [])
    (h : ∀ s ∈ later, ∀ c ∈ s, isSlash .special c = false) :
    splitSlashes .special (cs ++ writeSegments later) = splitSlashes .special cs ++ later := by
  obtain ⟨first, rest, rfl⟩ := List.exists_cons_of_ne_nil hne
  have hslash : isSlash .special '/' = true := by decide
  have hlater := splitSlashes_writeSegments h
  rw [splitSlashes] at hlater
  rw [splitSlashes, splitSlashes, writeSegments_cons, List.cons_append,
    List.splitOnP_append_cons _ _ hslash, hlater]

theorem placeAll_append (segments : List (List Char)) {later : List (List Char)}
    (hne : later ≠ []) (h : ∀ s ∈ later, Settled s) (done : List (List Char)) :
    placeAll done (segments ++ later) = later.reverse ++ segments.foldl (place false) done := by
  induction segments generalizing done with
  | nil => exact placeAll_settled h done
  | cons segment rest ih =>
    -- None of them is the last segment, since others follow.
    obtain ⟨next, more, hmore⟩ :=
      List.exists_cons_of_ne_nil (List.append_ne_nil_of_right_ne_nil rest hne)
    rw [List.cons_append, hmore, placeAll, ← hmore, ih, List.foldl_cons]
    exact List.cons_ne_nil next more

/-- Behind a text that begins a path, settled segments are the last segments of the path. -/
theorem exists_readPath_append {cs : List Char}
    (h : ∀ c ∈ cs.head?, isSlash .special c = true) :
    ∃ front, ∀ later, later ≠ [] → (∀ s ∈ later, Settled s) →
      readPath .special (cs ++ writeSegments later) = .segments (front ++ later) := by
  cases cs with
  | nil => exact ⟨[], fun later hne hlater => readPath_writeSegments hne hlater⟩
  | cons c cs =>
    refine ⟨(((splitSlashes .special cs).map (percentEncode pathSet)).foldl (place false)
      []).reverse, fun later hne hlater => ?_⟩
    have hencoded : later.map (percentEncode pathSet) = later :=
      (List.map_congr_left fun s hs => percentEncode_eq_self (hlater s hs).encoded).trans
        (List.map_id _)
    have hkind : (Kind.special == Kind.general && (c :: cs ++ writeSegments later).isEmpty) =
        false := rfl
    simp only [readPath, reduceCtorEq, decide_false, Bool.false_and, Bool.false_eq_true, if_false,
      List.cons_append, dropSlash, h c rfl, if_true, readSegments,
      splitSlashes_append cs hne fun s hs => (hlater s hs).whole, List.map_append, hencoded,
      placeAll_append _ hne hlater, List.reverse_nil, List.reverse_append, List.reverse_reverse]

/-! ### Parts of a path -/

theorem trimSlashes_append_slash (cs : List Char) :
    Gate.trimSlashes (cs ++ ['/']) = Gate.trimSlashes cs := by
  rw [Gate.trimSlashes, Text.dropEnd, List.reverse_append, List.reverse_singleton,
    List.singleton_append, List.dropWhile_cons_of_pos rfl]
  rfl

theorem trimSlashes_append_cons {c : Char} (hc : c ≠ '/') (front back : List Char) :
    Gate.trimSlashes (front ++ c :: back) = front ++ c :: Gate.trimSlashes back :=
  Text.dropEnd_append_cons (p := (· == '/')) (beq_eq_false_iff_ne.mpr hc) front back

/-- A rest of a path that begins with a slash is made of segments of the path. -/
theorem exists_writeSegments_of_append {parts : List (List Char)}
    (h : ∀ s ∈ parts, ∀ c ∈ s, isSlash .special c = false) {front rest : List Char}
    (hparts : writeSegments parts = front ++ '/' :: rest) :
    ∃ later, later <:+ parts ∧ later ≠ [] ∧ writeSegments later = '/' :: rest := by
  induction parts generalizing front with
  | nil =>
    cases front with
    | nil => cases hparts
    | cons c front => cases hparts
  | cons first parts ih =>
    obtain ⟨hfirst, hlater⟩ := List.forall_mem_cons.mp h
    cases front with
    | nil => exact ⟨first :: parts, List.suffix_rfl, List.cons_ne_nil _ _, hparts⟩
    | cons c front =>
      rw [writeSegments_cons, List.cons_append, List.cons_append] at hparts
      have htail := (List.cons.inj hparts).2
      -- The slash stands behind the first segment, which has none.
      obtain ⟨middle, hmiddle⟩ : ∃ middle, writeSegments parts = middle ++ '/' :: rest := by
        rcases List.append_eq_append_iff.mp htail with ⟨middle, -, hm⟩ | ⟨middle, hm, hrest⟩
        · exact ⟨middle, hm⟩
        · cases middle with
          | nil => exact ⟨[], hrest.symm⟩
          | cons d middle =>
            obtain ⟨rfl, -⟩ := List.cons.inj hrest
            exact absurd (hfirst '/' (by simp [hm])) (by decide)
      obtain ⟨later, hsuffix, hne, hwrite⟩ := ih hlater hmiddle
      exact ⟨later, hsuffix.trans (List.suffix_cons first parts), hne, hwrite⟩

/-- A path without the slashes at its end is made of the first segments of the path. -/
theorem exists_trimSlashes_writeSegments {parts : List (List Char)}
    (h : ∀ s ∈ parts, ∀ c ∈ s, isSlash .special c = false) :
    ∃ front, front <+: parts ∧ Gate.trimSlashes (writeSegments parts) = writeSegments front := by
  -- The induction is on the segments from the last one: an empty one is a slash at the end.
  induction parts using List.reverseRecOn with
  | nil => exact ⟨[], List.nil_prefix, rfl⟩
  | append_singleton parts last ih =>
    have hwrite : writeSegments (parts ++ [last]) = writeSegments parts ++ '/' :: last := by
      rw [writeSegments_append, writeSegments_cons, writeSegments, writeSegments,
        List.flatMap_nil, List.append_nil]
    rcases List.eq_nil_or_concat last with rfl | ⟨body, c, rfl⟩
    · obtain ⟨front, hfront, htrim⟩ := ih fun s hs => h s (List.mem_append_left _ hs)
      refine ⟨front, hfront.trans (List.prefix_append _ _), ?_⟩
      rw [hwrite, trimSlashes_append_slash, htrim]
    · refine ⟨parts ++ [body.concat c], List.prefix_rfl, ?_⟩
      have hc : c ≠ '/' := by
        rintro rfl
        exact absurd (h _ (List.mem_append_right _ (List.mem_singleton_self _)) '/' (by simp))
          (by decide)
      have hlast : writeSegments (parts ++ [body.concat c]) =
          (writeSegments parts ++ '/' :: body) ++ [c] := by
        rw [hwrite]
        simp
      rw [hlast, trimSlashes_append_cons hc]
      rfl

end ChatRelay.Url
