import ChatRelay.Proofs.Chat.Payload
import ChatRelay.Proofs.Text.Split

/-!
Parameters that are written as pairs. Every piece between two commas must be a pair, or the text
says nothing at all. What a key is given last counts; blanks do not, and neither does the order of
pairs with different keys.
-/

namespace ChatRelay.Chat.Parameters

open Json (Members)

/-! ### Pieces -/

/-- A piece says that a key has a value: what stands on either side of its first equals sign,
without the blanks around it. -/
def Says (piece key value : List Char) : Prop :=
  ∃ before after, piece = before ++ '=' :: after ∧ '=' ∉ before ∧ key = Text.trim before ∧
    key ≠ [] ∧ value = Text.trim after

/-- A piece that is no pair: there is no equals sign in it, or only blanks before the first one. -/
def SaysNothing (piece : List Char) : Prop :=
  '=' ∉ piece ∨ ∃ before after, piece = before ++ '=' :: after ∧ '=' ∉ before ∧
    ∀ c ∈ before, Text.isBlank c = true

/-- What the pieces of a text say, one after the other. -/
def SaysAll (text : String) (said : List (List Char × List Char)) : Prop :=
  List.Forall₂ (fun piece m => Says piece m.1 m.2) (pieces text.toList) said

/-- A text that is not an object, with blanks around it or without. -/
def NoObject (text : String) : Prop :=
  ∀ ms, Json.parse? (String.ofList (Text.trim text.toList)) ≠ some (.object ms)

/-- A piece is a pair or it is none. -/
theorem exists_says_or_saysNothing (piece : List Char) :
    (∃ key value, Says piece key value) ∨ SaysNothing piece := by
  by_cases hsep : '=' ∈ piece
  · obtain ⟨before, after, hpiece, hbefore⟩ := List.eq_append_cons_of_mem hsep
    by_cases hkey : Text.trim before = []
    · exact .inr (.inr ⟨before, after, hpiece, hbefore, Text.trim_eq_nil_iff.mp hkey⟩)
    · exact .inl ⟨_, _, before, after, hpiece, hbefore, rfl, hkey, rfl⟩
  · exact .inr (.inl hsep)

theorem pair?_append_cons {before : List Char} (h : '=' ∉ before) (after : List Char) :
    pair? (before ++ '=' :: after) = if Text.trim before = [] then none
      else some (String.ofList (Text.trim before), scalar (Text.trim after)) := by
  rw [pair?, Text.splitOnce_append_cons h]
  simp only [← List.isEmpty_iff]
  rfl

theorem Says.pair? {piece key value : List Char} (h : Says piece key value) :
    pair? piece = some (String.ofList key, scalar value) := by
  obtain ⟨before, after, rfl, hbefore, rfl, hkey, rfl⟩ := h
  rw [pair?_append_cons hbefore, if_neg hkey]

theorem SaysNothing.pair? {piece : List Char} (h : SaysNothing piece) : pair? piece = none := by
  rcases h with hsep | ⟨before, after, rfl, hbefore, hblank⟩
  · rw [Parameters.pair?, Text.splitOnce_of_not_mem hsep]
    rfl
  · rw [pair?_append_cons hbefore, if_pos (Text.trim_eq_nil_iff.mpr hblank)]

theorem Says.not_saysNothing {piece key value : List Char} (h : Says piece key value) :
    ¬ SaysNothing piece := by
  intro hnothing
  cases h.pair?.symm.trans hnothing.pair?

theorem pair?_eq_some_iff {piece : List Char} {m : String × Json} : pair? piece = some m ↔
    ∃ key value, Says piece key value ∧ m = (String.ofList key, scalar value) := by
  constructor
  · intro h
    rcases exists_says_or_saysNothing piece with ⟨key, value, hmeans⟩ | hnothing
    · exact ⟨key, value, hmeans, Option.some.inj (h.symm.trans hmeans.pair?)⟩
    · cases h.symm.trans hnothing.pair?
  · rintro ⟨key, value, hmeans, rfl⟩
    exact hmeans.pair?

theorem pair?_eq_none_iff {piece : List Char} : pair? piece = none ↔ SaysNothing piece := by
  constructor
  · intro h
    rcases exists_says_or_saysNothing piece with ⟨key, value, hmeans⟩ | hnothing
    · cases h.symm.trans hmeans.pair?
    · exact hnothing
  · exact SaysNothing.pair?

theorem exists_says_iff {piece : List Char} {key : String} :
    (∃ v, pair? piece = some (key, v)) ↔ ∃ value, Says piece key.toList value := by
  constructor
  · rintro ⟨v, hv⟩
    obtain ⟨key', value, hmeans, heq⟩ := pair?_eq_some_iff.mp hv
    obtain ⟨rfl, -⟩ := Prod.mk.inj heq
    rw [String.toList_ofList]
    exact ⟨value, hmeans⟩
  · rintro ⟨value, hmeans⟩
    have hpair := hmeans.pair?
    rw [String.ofList_toList] at hpair
    exact ⟨scalar value, hpair⟩

/-! ### Texts -/

/-- Blanks around a text make no difference to its pieces. -/
theorem pieces_trim (cs : List Char) : pieces (Text.trim cs) = pieces cs := by
  rw [pieces, Text.map_trim_splitOn_trim (by decide), pieces]

theorem pairs?_trim (cs : List Char) : pairs? (Text.trim cs) = pairs? cs := by
  rw [pairs?, pieces_trim, pairs?]

theorem exists_object_or_noObject (text : String) :
    (∃ ms, Json.parse? (String.ofList (Text.trim text.toList)) = some (.object ms)) ∨
      NoObject text := by
  rw [NoObject, ← not_exists]
  exact Classical.em _

theorem parse_of_object {text : String} {ms : Members}
    (h : Json.parse? (String.ofList (Text.trim text.toList)) = some (.object ms)) :
    parse text = ms.keep (· ∉ reserved) := by
  unfold parse
  dsimp only
  rw [h]

theorem NoObject.parse_eq {text : String} (h : NoObject text) :
    parse text = (Members.ofList ((pairs? text.toList).getD [])).keep (· ∉ reserved) := by
  unfold parse
  dsimp only
  split
  · rename_i ms hparse
    exact absurd hparse (h ms)
  · rw [pairs?_trim]

/-- One piece that is no pair is enough for the text to say nothing. -/
theorem NoObject.parse_eq_nil {text : String} (h : NoObject text)
    (hp : pieces text.toList = [] ∨ ∃ piece ∈ pieces text.toList, SaysNothing piece) :
    parse text = [] := by
  have hpairs : (pairs? text.toList).getD [] = [] := by
    rcases hp with hp | ⟨piece, hmem, hnothing⟩
    · rw [pairs?, hp]
      rfl
    · -- The pieces are read as a whole, so that no pair is kept of those before it.
      rw [pairs?, mapM_eq_none_iff.mpr ⟨piece, hmem, pair?_eq_none_iff.mpr hnothing⟩]
      rfl
  rw [h.parse_eq, hpairs]
  rfl

/-- The pairs of a text, all of whose pieces are pairs. -/
theorem NoObject.exists_pairs {text : String} (h : NoObject text)
    (hp : ∀ piece ∈ pieces text.toList, ¬ SaysNothing piece) :
    ∃ pairs, (pieces text.toList).mapM pair? = some pairs ∧
      parse text = (Members.ofList pairs).keep (· ∉ reserved) := by
  cases hpairs : pairs? text.toList with
  | none =>
    obtain ⟨piece, hmem, hnone⟩ := mapM_eq_none_iff.mp hpairs
    exact absurd (pair?_eq_none_iff.mp hnone) (hp piece hmem)
  | some pairs =>
    refine ⟨pairs, hpairs, ?_⟩
    rw [h.parse_eq, hpairs]
    rfl

/-! ### The table -/

section Table

variable {found : List (List Char)} {pairs : List (String × Json)}

/-- The keys of the pairs are those that the pieces say something of. -/
theorem exists_mem_pairs_iff (hpairs : found.mapM pair? = some pairs) {key : String} :
    (∃ v, (key, v) ∈ pairs) ↔ ∃ piece ∈ found, ∃ value, Says piece key.toList value := by
  constructor
  · rintro ⟨v, hv⟩
    obtain ⟨piece, hmem, hpiece⟩ := exists_of_mem_mapM hpairs hv
    exact ⟨piece, hmem, exists_says_iff.mp ⟨v, hpiece⟩⟩
  · rintro ⟨piece, hmem, hmeans⟩
    obtain ⟨v, hv⟩ := exists_says_iff.mpr hmeans
    obtain ⟨m, hm, hpiece⟩ := exists_mem_of_mapM hpairs hmem
    obtain rfl := Option.some.inj (hv.symm.trans hpiece)
    exact ⟨v, hm⟩

/-- The pair of a piece, with those of the other pieces around it. -/
theorem exists_pairs_append_cons {earlier later : List (List Char)} {piece : List Char}
    {m : String × Json}
    (hpairs : (earlier ++ piece :: later).mapM pair? = some pairs)
    (hpiece : pair? piece = some m) : ∃ before after, pairs = before ++ m :: after ∧
      later.mapM pair? = some after := by
  -- There is one pair for each piece, so that the pairs split where the pieces do.
  have hmap := mapM_eq_some_iff.mp hpairs
  rw [List.map_append, List.map_cons, hpiece] at hmap
  obtain ⟨before, rest, rfl, -, hrest⟩ := List.map_eq_append_iff.mp hmap.symm
  obtain ⟨m', after, rfl, hm', hafter⟩ := List.map_eq_cons_iff.mp hrest
  obtain rfl := Option.some.inj hm'
  exact ⟨before, after, rfl, mapM_eq_some_iff.mpr hafter.symm⟩

/-- A key has the value of the last piece that says something of it. -/
theorem get?_ofList_pairs {earlier later : List (List Char)} {piece value : List Char}
    {key : String} (hpairs : (earlier ++ piece :: later).mapM pair? = some pairs)
    (hmeans : Says piece key.toList value)
    (hlast : ∀ other ∈ later, ∀ v, ¬ Says other key.toList v) :
    (Members.ofList pairs).get? key = some (scalar value) := by
  have hpiece := hmeans.pair?
  rw [String.ofList_toList] at hpiece
  obtain ⟨before, after, rfl, hafter⟩ := exists_pairs_append_cons hpairs hpiece
  -- A later pair with the key would be what one of the later pieces says of it.
  apply Members.get?_ofList_append_cons
  rintro ⟨k, v⟩ hm rfl
  obtain ⟨other, hother, value', hmeans'⟩ := (exists_mem_pairs_iff hafter).mp ⟨v, hm⟩
  exact hlast other hother value' hmeans'

/-- The pairs in the order of their pieces. -/
theorem SaysAll.pairs? {text : String} {said : List (List Char × List Char)}
    (h : SaysAll text said) :
    pairs? text.toList = some (said.map fun m => (String.ofList m.1, scalar m.2)) := by
  -- Only what the pieces say matters, not the text that they are pieces of.
  rw [SaysAll] at h
  rw [Parameters.pairs?]
  generalize pieces text.toList = found at h ⊢
  induction h with
  | nil => rfl
  | cons hmeans _ ih =>
    rw [List.mapM_cons, hmeans.pair?, ih]
    rfl

/-- Pairs with different keys may stand in any order. -/
theorem ofList_eq_of_filter {said said' : List (List Char × List Char)}
    (h : ∀ key, said.filter (·.1 = key) = said'.filter (·.1 = key)) :
    Members.ofList (said.map fun m => (String.ofList m.1, scalar m.2)) =
      Members.ofList (said'.map fun m => (String.ofList m.1, scalar m.2)) := by
  -- The order of the pairs is lost in the table, but for those that have the same key.
  apply (Members.ordered_ofList _).ext (Members.ordered_ofList _)
  intro key
  -- The pairs of one key come from what is said of that key.
  have hkey : ((fun m : String × Json => decide (m.1 = key)) ∘
      fun m : List Char × List Char => (String.ofList m.1, scalar m.2)) =
        fun m => decide (m.1 = key.toList) := by
    funext m
    apply decide_eq_decide.mpr
    constructor
    · rintro rfl
      exact String.toList_ofList.symm
    · intro hm
      exact (congrArg String.ofList hm).trans String.ofList_toList
  rw [← Members.get?_ofList_filter, ← Members.get?_ofList_filter (said'.map _), List.filter_map,
    List.filter_map, hkey, h]

end Table

/-! ### All or nothing -/

/-- Of a text that is no object either every piece is a pair, or nothing is read. The keys are then
those of the pairs, but for those that the relay owns, and each has the value that is given last;
texts in which each key is given the same values one after the other say the same. -/
theorem parse_of_noObject {text : String} (h : NoObject text) :
    ((pieces text.toList = [] ∨ ∃ piece ∈ pieces text.toList, SaysNothing piece) →
        parse text = []) ∧
      ((∀ piece ∈ pieces text.toList, ¬ SaysNothing piece) →
        (parse text).Ordered ∧
        (∀ key, ((parse text).get? key).isSome = true ↔ key ∉ reserved ∧
          ∃ piece ∈ pieces text.toList, ∃ value, Says piece key.toList value) ∧
        ∀ key earlier piece later value, key ∉ reserved →
          pieces text.toList = earlier ++ piece :: later → Says piece key.toList value →
          (∀ other ∈ later, ∀ v, ¬ Says other key.toList v) →
          (parse text).get? key = some (scalar value)) ∧
      ∀ text' said said', NoObject text' → SaysAll text said → SaysAll text' said' →
        (∀ key, said.filter (·.1 = key) = said'.filter (·.1 = key)) →
        parse text = parse text' := by
  refine ⟨h.parse_eq_nil, fun hp => ?_, fun text' said said' h' hsaid hsaid' hfilter => ?_⟩
  · obtain ⟨pairs, hpairs, hparse⟩ := h.exists_pairs hp
    -- Each key is looked up among the pairs, unless the relay owns it.
    have hget (key : String) : (parse text).get? key =
        if key ∉ reserved then (Members.ofList pairs).get? key else none := by
      rw [hparse, Members.get?_keep]
      simp only [decide_eq_true_iff]
    refine ⟨ordered_parse text, fun key => ?_, ?_⟩
    · rw [hget]
      by_cases hkey : key ∉ reserved
      · rw [if_pos hkey, Members.isSome_get?_ofList_iff, exists_mem_pairs_iff hpairs]
        exact (and_iff_right hkey).symm
      · rw [if_neg hkey]
        exact iff_of_false (by decide) fun h => hkey h.1
    · intro key earlier piece later value hkey hpieces hmeans hlast
      rw [hpieces] at hpairs
      rw [hget, if_pos hkey]
      exact get?_ofList_pairs hpairs hmeans hlast
  · rw [h.parse_eq, h'.parse_eq, hsaid.pairs?, hsaid'.pairs?, Option.getD_some, Option.getD_some,
      ofList_eq_of_filter hfilter]

theorem noObject_of_isNone {text : String}
    (h : (Json.parse? (String.ofList (Text.trim text.toList))).isNone = true) : NoObject text := by
  intro ms hparse
  rw [hparse] at h
  cases h

/-- Pairs with blanks and a piece of blanks among them, and a key that is given twice. -/
def spacedText : String := " b = 1 , ,a= x=y, b=+2 "

/-- The same pairs in another order. -/
def swappedText : String := "a=x=y,b=1,b=+2"

/-- Pairs of which the last one has no key. -/
def keylessText : String := "b=1,a=x=y, =2"

theorem parse_spacedText :
    NoObject spacedText ∧ NoObject swappedText ∧ NoObject keylessText ∧
      parse keylessText = [] ∧ (parse spacedText).get? "b" = some (.number (.int 2)) ∧
      parse spacedText = parse swappedText := by
  have hspaced : NoObject spacedText := noObject_of_isNone (by decide +kernel)
  have hswapped : NoObject swappedText := noObject_of_isNone (by decide +kernel)
  have hkeyless : NoObject keylessText := noObject_of_isNone (by decide +kernel)
  have hpieces : pieces spacedText.toList =
      ["b = 1".toList, "a= x=y".toList, "b=+2".toList] := by decide +kernel
  have hpieces' : pieces swappedText.toList =
      ["a=x=y".toList, "b=1".toList, "b=+2".toList] := by decide +kernel
  have hbroken : ['=', '2'] ∈ pieces keylessText.toList := by decide +kernel
  have hone : Says "b = 1".toList ['b'] ['1'] := ⟨"b ".toList, " 1".toList, by decide +kernel⟩
  have htext : Says "a= x=y".toList ['a'] "x=y".toList :=
    ⟨['a'], " x=y".toList, by decide +kernel⟩
  have htwo : Says "b=+2".toList ['b'] ['+', '2'] := ⟨['b'], ['+', '2'], by decide +kernel⟩
  have hone' : Says "b=1".toList ['b'] ['1'] := ⟨['b'], ['1'], by decide +kernel⟩
  have htext' : Says "a=x=y".toList ['a'] "x=y".toList :=
    ⟨['a'], "x=y".toList, by decide +kernel⟩
  have hsaid : SaysAll spacedText [(['b'], ['1']), (['a'], "x=y".toList), (['b'], ['+', '2'])] := by
    rw [SaysAll, hpieces]
    exact .cons hone (.cons htext (.cons htwo .nil))
  have hsaid' : SaysAll swappedText
      [(['a'], "x=y".toList), (['b'], ['1']), (['b'], ['+', '2'])] := by
    rw [SaysAll, hpieces']
    exact .cons htext' (.cons hone' (.cons htwo .nil))
  obtain ⟨-, hpairs, hsame⟩ := parse_of_noObject hspaced
  refine ⟨hspaced, hswapped, hkeyless, ?_, ?_, ?_⟩
  · have hnothing : SaysNothing ['=', '2'] :=
      .inr ⟨[], ['2'], rfl, List.not_mem_nil, fun _ h => nomatch h⟩
    exact (parse_of_noObject hkeyless).1 (.inr ⟨_, hbroken, hnothing⟩)
  · have hall : ∀ piece ∈ pieces spacedText.toList, ¬ SaysNothing piece := by
      rw [hpieces]
      exact List.forall_mem_cons.mpr ⟨hone.not_saysNothing, List.forall_mem_cons.mpr
        ⟨htext.not_saysNothing, List.forall_mem_singleton.mpr htwo.not_saysNothing⟩⟩
    exact (hpairs hall).2.2 "b" ["b = 1".toList, "a= x=y".toList] "b=+2".toList [] ['+', '2']
      (by decide) hpieces htwo (fun _ h => nomatch h)
  · refine hsame swappedText _ _ hswapped hsaid hsaid' fun key => ?_
    by_cases ha : ['a'] = key
    · rw [← ha]
      decide +kernel
    · by_cases hb : ['b'] = key
      · rw [← hb]
        decide +kernel
      · simp [ha, hb]

end ChatRelay.Chat.Parameters
