import ChatRelay.Proofs.Stream.Lossless
import ChatRelay.Proofs.Stream.Markers
import ChatRelay.Proofs.Stream.Scanning

/-!
The markers in the text of a chat. Nothing is escaped for the sake of the tags: deltas are written
as they are, and JSON leaves the characters of tags alone. A client that scans the text finds the
steps, and the deltas around them, exactly when it is not led astray by tags in either.
-/

namespace ChatRelay.Stream

open Json (Occurs)
open Json.Read

/-- What a line says in a chat: a text that is not empty, or a step. -/
def Item.ofLine? (line : List Char) : Option Item :=
  match Frame.ofLine? line with
  | some (.data payload) => (chatDelta? payload).map .delta
  | some (.progress line) => do
    let rest ← List.isPrefixOf? progressStart line.toList
    let payload ← Json.parse? (String.ofList rest)
    some (.step payload)
  | _ => none

/-- What the lines before the end of a stream say. -/
def said (events : List Event) : List Item :=
  (linesBeforeEnd (arriving events)).filterMap Item.ofLine?

def Item.stepText? : Item → Option (List Char)
  | .delta _ => none
  | .step v => some (Step.ofPayload v).write

/-- The parts that the client is to find: each step by itself, and the text of the deltas before
it put together. -/
def separated : List Item → Parts
  | [] => ⟨[], []⟩
  | .delta s :: items => (separated items).addText s.toList
  | .step v :: items => (separated items).addMarker (Step.ofPayload v).write

/-! ### The parts of a stream -/

theorem bodies_separated (items : List Item) :
    (separated items).bodies = items.filterMap Item.stepText? := by
  induction items with
  | nil => rfl
  | cons item items ih =>
    cases item with
    | delta s => rw [separated, Parts.bodies_addText, ih]; rfl
    | step v => rw [separated, Parts.bodies_addMarker, ih]; rfl

theorem outside_separated (items : List Item) :
    (separated items).outside = (String.join (items.filterMap Item.delta?)).toList := by
  induction items with
  | nil => rfl
  | cons item items ih =>
    cases item with
    | delta s =>
      rw [separated, Parts.outside_addText, ih]
      simp [Item.delta?, String.toList_join]
    | step v => rw [separated, Parts.outside_addMarker, ih]; rfl

theorem text_separated (items : List Item) :
    (separated items).text = (String.join (items.filterMap Item.write?)).toList := by
  induction items with
  | nil => rfl
  | cons item items ih =>
    cases item with
    | delta s =>
      rw [separated, Parts.text_addText, ih]
      by_cases hs : s = "" <;> simp [Item.write?, hs, String.toList_join]
    | step v =>
      rw [separated, Parts.text_addMarker, ih, ← Step.toList_marker]
      simp [Item.write?, String.toList_join]

/-! ### What is said -/

theorem Item.ofLine?_data (rest : List Char) :
    Item.ofLine? (dataStart ++ rest) = if Text.trim rest ∈ sentinels then none
      else (chatDelta? (String.ofList (Text.trim rest))).map .delta := by
  rw [Item.ofLine?, Stream.ofLine?_data]
  by_cases hs : Text.trim rest ∈ sentinels
  · rw [if_pos hs, if_pos hs]
  · rw [if_neg hs, if_neg hs]

theorem Item.ofLine?_progress (rest : List Char) :
    Item.ofLine? (progressStart ++ rest) =
      (Json.parse? (String.ofList rest)).map .step := by
  have hp : progressStart.isPrefixOf? (progressStart ++ rest) = some rest :=
    List.isPrefixOf?_eq_some_iff_append_eq.mpr rfl
  simp only [Item.ofLine?, Stream.ofLine?_progress, String.toList_ofList, hp, bind, Option.bind_some]
  cases Json.parse? (String.ofList rest) <;> rfl

theorem lineWrite?_eq_ofLine? (line : List Char) :
    lineWrite? .chat line = (Item.ofLine? line).bind Item.write? := by
  rcases line_cases line with ⟨rest, rfl⟩ | ⟨rest, rfl⟩ | hnone
  · rw [lineWrite?_data, Item.ofLine?_data]
    split
    · rfl
    · cases hdelta : chatDelta? (String.ofList (Text.trim rest)) with
      | none => rfl
      | some s =>
        obtain ⟨-, -, hne, -⟩ := chatDelta?_eq_some_iff.mp hdelta
        exact (if_neg hne).symm
  · rw [lineWrite?_progress, Item.ofLine?_progress]
    cases Json.parse? (String.ofList rest) <;> rfl
  · rw [lineWrite?, Item.ofLine?, hnone]
    rfl

theorem writes_eq_said (events : List Event) :
    writes .chat events = (said events).filterMap Item.write? := by
  rw [writes_eq, said, List.filterMap_filterMap]
  exact List.filterMap_congr fun line _ => lineWrite?_eq_ofLine? line

/-- A step that is said has been read from its line. -/
theorem exists_parsed_of_said {events : List Event} {v : Json} (h : .step v ∈ said events) :
    ∃ text, Json.parse? text = some v := by
  obtain ⟨line, -, hline⟩ := List.mem_filterMap.mp h
  rcases line_cases line with ⟨rest, rfl⟩ | ⟨rest, rfl⟩ | hnone
  · rw [Item.ofLine?_data] at hline
    split at hline
    · cases hline
    · obtain ⟨s, -, hs⟩ := Option.map_eq_some_iff.mp hline
      cases hs
  · rw [Item.ofLine?_progress] at hline
    obtain ⟨v', hparse, hv⟩ := Option.map_eq_some_iff.mp hline
    cases hv
    exact ⟨_, hparse⟩
  · rw [Item.ofLine?, hnone] at hline
    cases hline

/-- What is written in a chat is what its lines say. Scanning the text finds each step where it is,
and the text of the deltas around the steps, exactly when no text before a step holds an opening
tag, no step a closing one, and what is behind the last step no opening tag that is closed. The
text of a step is JSON in any case. It is read as the step if the doubles in it are read back and
one more level is allowed than for the payload. -/
theorem scanned_writes (events : List Event) :
    writes .chat events = (said events).filterMap Item.write? ∧
      (separated (said events)).bodies = (said events).filterMap Item.stepText? ∧
      (separated (said events)).outside =
        (String.join ((said events).filterMap Item.delta?)).toList ∧
      (scanned (String.join (writes .chat events)).toList = separated (said events) ↔
        (separated (said events)).Separable) ∧
      ∀ v, .step v ∈ said events →
        entire skipValue (Utf8.encode (Step.ofPayload v).write) = .ok () ∧
          ((∀ x, Occurs (.real x) (.object (Step.ofPayload v).fields) →
              NumberReadsBack (.real x)) →
            entire (value (depthLimit + 1)) (Utf8.encode (Step.ofPayload v).write) =
              .ok (Json.ofMembers (Step.ofPayload v).fields)) := by
  have hwrites := writes_eq_said events
  refine ⟨hwrites, bodies_separated _, outside_separated _, ?_, ?_⟩
  · rw [hwrites, ← text_separated]
    exact scanned_text_eq_iff _
  · intro v hv
    obtain ⟨text, hparse⟩ := exists_parsed_of_said hv
    exact ⟨Step.entire_skipValue_write _, Step.entire_write hparse⟩

/-- Of what a backend sends, all is said but the empty deltas. -/
theorem said_encodeItems {items : List Item}
    (reads : ∀ v, .step v ∈ items → Json.parse? v.compact = some v) :
    said [.chunk (encodeItems items)] = items.filter (·.write?.isSome) := by
  have hline : ∀ item ∈ items, Item.ofLine? item.line = Option.guard (·.write?.isSome) item := by
    intro item hitem
    cases item with
    | delta s =>
      rw [Item.line, Item.ofLine?_data, trim_deltaPayload, if_neg (deltaPayload_not_sentinel s),
        String.ofList_toList, chatDelta?_deltaPayload]
      by_cases hs : s = "" <;> simp [Option.guard, Item.write?, hs]
    | step v =>
      rw [Item.line, Item.ofLine?_progress, String.ofList_toList, reads v hitem]
      rfl
  rw [said, arriving, show arriving [] = [] from rfl, linesBeforeEnd_encodeItems,
    List.filterMap_map, ← List.filterMap_eq_filter]
  exact List.filterMap_congr hline

def half : ChatRelay.Number.Double := ⟨false, 0x10000000000000, -53⟩

theorem numberReadsBack_half : NumberReadsBack (.real half) := by
  intro depth rest hrest
  have hwrite : (Json.Number.real half).write = '0' :: '.' :: ['5'] := by decide +kernel
  have hreal : real false 5 (-1) = .ok (.real half) := rfl
  have hdigits : Number.AllDigits ['5'] := List.forall_mem_singleton.mpr rfl
  have hvalue : Nat.ofDigitChars 10 ['5'] 0 = 5 := rfl
  have hfraction : fraction false 0 0 (Utf8.encode ['5'] ++ rest) = .ok (.real half, rest) := by
    rw [fraction_digits (List.cons_ne_nil _ _) hdigits (by decide) hrest, hvalue]
    exact congrArg (Except.map fun m => (m, rest)) hreal
  rw [hwrite]
  exact Reading.value_eq (.number (skipBlanks_cons (by decide) _) (by decide) hfraction)

def halfStep : Json := .object [("name", .string "<"), ("payload", .number (.real half))]

theorem numbers_halfStep {n : Json.Number} (h : Occurs n halfStep) : n = .real half := by
  cases h with
  | member hm h =>
    simp only [List.mem_cons, List.not_mem_nil, or_false] at hm
    rcases hm with rfl | rfl
    · cases h
    · cases h
      rfl

/-- A step between two deltas that look like parts of a tag. -/
def halfItems : List Item := [.delta "<intermediate", .step halfStep, .delta "step>"]

/-- The step is found, and read as itself. -/
theorem scanned_halfItems :
    .step halfStep ∈ said [.chunk (encodeItems halfItems)] ∧
      (∀ x, Occurs (.real x) (.object (Step.ofPayload halfStep).fields) →
        NumberReadsBack (.real x)) ∧
      (separated (said [.chunk (encodeItems halfItems)])).Separable ∧
      entire (value (depthLimit + 1)) (Utf8.encode (Step.ofPayload halfStep).write) =
        .ok (Json.ofMembers (Step.ofPayload halfStep).fields) := by
  obtain ⟨hwrites, -, -, hscan, hsteps⟩ := scanned_writes [.chunk (encodeItems halfItems)]
  rw [hwrites, ← text_separated] at hscan
  have hdoubles : ∀ x, Occurs (.real x) (.object (Step.ofPayload halfStep).fields) →
      NumberReadsBack (.real x) := by
    intro x hx
    cases hx with
    | member hm hx =>
      rw [numbers_halfStep (Step.occurs_of_fields _ hm hx)]
      exact numberReadsBack_half
  have hback : ReadsBack depthLimit halfStep := by
    refine .object ?_ rfl
    intro m hm
    simp only [List.mem_cons, List.not_mem_nil, or_false] at hm
    rcases hm with rfl | rfl
    · exact .string "<"
    · exact .number numberReadsBack_half
  have hreads : ∀ v, .step v ∈ halfItems → Json.parse? v.compact = some v := by
    intro v hv
    simp only [halfItems, List.mem_cons, reduceCtorEq, Item.step.injEq, List.not_mem_nil, or_false,
      false_or] at hv
    rw [hv, Json.parse?, parse_compact hback]
    rfl
  have hsaid : .step halfStep ∈ said [.chunk (encodeItems halfItems)] := by
    rw [said_encodeItems hreads]
    simp [halfItems, Item.write?]
  exact ⟨hsaid, hdoubles, hscan.mp (by decide +kernel), (hsteps halfStep hsaid).2 hdoubles⟩

/-- A step whose name is a closing tag. -/
def closingItems : List Item := [.step (.object [("name", .string "</intermediatestep>")])]

/-- Two deltas that make up an opening tag, and a step. -/
def openingItems : List Item := [.delta "<intermediate", .delta "step>", .step (.object [])]

/-- A step with a number that is printed as the double that it is read as, and read as another. -/
def roundedEvents : List Event :=
  [.chunk (encodeLine "intermediate_data: \x7b\"payload\":5e32\x7d".toList)]

/-- Tags in a step or in the deltas hide the steps, and a step with a number that is rounded is
not read as itself. -/
theorem not_recovered :
    (scanned (String.join (writes .chat [.chunk (encodeItems closingItems)])).toList).bodies ≠
        (said [.chunk (encodeItems closingItems)]).filterMap Item.stepText? ∧
      (scanned (String.join (writes .chat [.chunk (encodeItems openingItems)])).toList).bodies ≠
        (said [.chunk (encodeItems openingItems)]).filterMap Item.stepText? ∧
      ∃ v, .step v ∈ said roundedEvents ∧
        entire (value (depthLimit + 1)) (Utf8.encode (Step.ofPayload v).write) ≠
          .ok (Json.ofMembers (Step.ofPayload v).fields) := by
  rw [writes_eq_said, ← text_separated, writes_eq_said, ← text_separated]
  refine ⟨by decide +kernel, by decide +kernel, ?_⟩
  -- The texts of what is read and of the step are compared, since they can be computed.
  let reread : Item → Bool
    | .delta _ => true
    | .step v =>
      (entire (value (depthLimit + 1)) (Utf8.encode (Step.ofPayload v).write)).toOption.map
        Json.write = some (Json.ofMembers (Step.ofPayload v).fields).write
  have hany : (said roundedEvents).any (fun item => !reread item) = true := by decide +kernel
  obtain ⟨item, hitem, hreread⟩ := List.any_eq_true.mp hany
  cases item with
  | delta s => cases hreread
  | step v =>
    refine ⟨v, hitem, fun hread => ?_⟩
    simp [reread, hread, Except.toOption] at hreread

end ChatRelay.Stream
