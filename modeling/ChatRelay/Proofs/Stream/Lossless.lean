import ChatRelay.Proofs.Json.RoundTrip
import ChatRelay.Proofs.Stream.Writes
import ChatRelay.Proofs.Text.Trim
import Mathlib

/-!
A chat stream is relayed without loss. Escaping keeps line feeds out of the lines, so that each
line that a backend writes is one line of the stream, whatever its deltas and steps hold.
-/

namespace ChatRelay.Stream

/-- What a backend says in a chat: a piece of its answer, or a step on its way there. -/
inductive Item where
  | delta (s : String)
  | step (v : Json)

def deltaPayload (s : String) : Json :=
  .object [("choices", .array [.object [("delta", .object [("content", .string s)])]])]

/-- The line on which a backend says something. -/
def Item.line : Item → List Char
  | .delta s => dataStart ++ (deltaPayload s).compact.toList
  | .step v => progressStart ++ v.compact.toList

/-- What the client is to be sent: a delta as it is, if it is not empty, and a step's marker. -/
def Item.write? : Item → Option String
  | .delta s => if s = "" then none else some s
  | .step v => some (Step.ofPayload v).marker

def Item.delta? : Item → Option String
  | .delta s => some s
  | .step _ => none

def encodeLine (line : List Char) : List UInt8 := Utf8.encode line ++ [lineFeed]

def endLine : List Char := "data: [DONE]".toList

def encodeItems (items : List Item) : List UInt8 :=
  items.flatMap (encodeLine ·.line) ++ encodeLine endLine

/-! ### One line -/

theorem lineFeed_not_mem_encode {line : List Char} (h : ∀ c ∈ line, 0x20 ≤ c.toNat) :
    lineFeed ∉ Utf8.encode line := by
  intro hb
  obtain ⟨c, hc, hb⟩ := List.mem_flatMap.mp hb
  have hprintable := h c hc
  have hfeed : lineFeed.toNat = 0x0A := rfl
  rcases Utf8.of_mem_encodeChar hb with h | h <;> omega

theorem lineText_encode {line : List Char} (h : ∀ c ∈ line, 0x20 ≤ c.toNat) :
    lineText (Utf8.encode line) = line := by
  rw [lineText, Utf8.decodeLossy_encode, dropReturns]
  -- A line that is printable has no carriage return to lose.
  apply Text.dropEnd_of_forall
  intro c hc
  have hprintable := h c hc
  apply beq_false_of_ne
  rintro rfl
  revert hprintable
  decide

theorem completeLines_encodeLine {line : List Char} (h : ∀ c ∈ line, 0x20 ≤ c.toNat)
    (rest : List UInt8) :
    completeLines (encodeLine line ++ rest) = line :: completeLines rest := by
  rw [completeLines, encodeLine, List.append_assoc, List.singleton_append,
    byteLines_line (lineFeed_not_mem_encode h), List.map_cons, lineText_encode h, completeLines]

theorem printable_line (item : Item) : ∀ c ∈ item.line, 0x20 ≤ c.toNat := by
  have hdata : ∀ c ∈ dataStart, 0x20 ≤ c.toNat := Json.printable_of_all rfl
  have hprogress : ∀ c ∈ progressStart, 0x20 ≤ c.toNat := Json.printable_of_all rfl
  intro c hc
  cases item with
  | delta s =>
    rw [Item.line, Json.compact, String.toList_ofList] at hc
    exact (List.mem_append.mp hc).elim (hdata c) (Json.printable_write _ c)
  | step v =>
    rw [Item.line, Json.compact, String.toList_ofList] at hc
    exact (List.mem_append.mp hc).elim (hprogress c) (Json.printable_write _ c)

theorem completeLines_encodeItems (items : List Item) (further : List UInt8) :
    completeLines (encodeItems items ++ further) =
      items.map Item.line ++ endLine :: completeLines further := by
  have hend : ∀ c ∈ endLine, 0x20 ≤ c.toNat := Json.printable_of_all rfl
  induction items with
  | nil => exact completeLines_encodeLine hend further
  | cons item items ih =>
    rw [encodeItems, List.flatMap_cons, List.append_assoc, List.append_assoc,
      completeLines_encodeLine (printable_line item), ← List.append_assoc, ← encodeItems, ih,
      List.map_cons, List.cons_append]

/-! ### What a line says -/

/-- A delta has no numbers, and one key at each level. -/
theorem readsBack_deltaPayload (s : String) :
    Json.Read.ReadsBack Json.Read.depthLimit (deltaPayload s) := by
  have hsingle {depth : Nat} (key : String) {v : Json} (hv : Json.Read.ReadsBack depth v) :
      Json.Read.ReadsBack (depth + 1) (.object [(key, v)]) :=
    .object (fun m hm => by rw [List.mem_singleton.mp hm]; exact hv) rfl
  have hcontent := hsingle "content" (@Json.Read.ReadsBack.string 123 s)
  have hdelta := hsingle "delta" hcontent
  apply hsingle "choices"
  apply Json.Read.ReadsBack.array
  intro x hx
  rw [List.mem_singleton.mp hx]
  exact hdelta

theorem deltaPayload_not_sentinel (s : String) : (deltaPayload s).compact.toList ∉ sentinels := by
  -- The sentinels are not JSON, and a payload is.
  intro hs
  have hparse := parse?_sentinel hs
  rw [String.ofList_toList, Json.parse?,
    Json.Read.parse_compact (readsBack_deltaPayload s)] at hparse
  cases hparse

theorem trim_deltaPayload (s : String) :
    Text.trim (deltaPayload s).compact.toList = (deltaPayload s).compact.toList := by
  rw [Json.compact, String.toList_ofList, deltaPayload, Json.write]
  exact Text.trim_enclosed (by decide) (by decide) _

theorem chatDelta?_deltaPayload (s : String) :
    chatDelta? (deltaPayload s).compact = if s = "" then none else some s := by
  have hmessage : (deltaPayload s).at? ["choices", "0", "message", "content"] = none := rfl
  have hdelta : (deltaPayload s).at? ["choices", "0", "delta", "content"] = some (.string s) := rfl
  have hparse : Json.parse? (deltaPayload s).compact = some (deltaPayload s) := by
    rw [Json.parse?, Json.Read.parse_compact (readsBack_deltaPayload s)]
    rfl
  split
  · rename_i hs
    rw [Option.eq_none_iff_forall_not_mem]
    intro text htext
    obtain ⟨value, hvalue, hne, hplace⟩ := chatDelta?_eq_some_iff.mp htext
    rw [hparse] at hvalue
    cases hvalue
    rw [hmessage, hdelta, hs] at hplace
    rcases hplace with hplace | ⟨-, hplace⟩
    · cases hplace
    · cases hplace
      exact hne rfl
  · rename_i hs
    refine chatDelta?_eq_some_iff.mpr ⟨_, hparse, hs, .inr ⟨?_, hdelta⟩⟩
    intro text htext
    rw [hmessage] at htext
    cases htext

theorem lineWrite?_line {item : Item}
    (reads : ∀ v, item = .step v → Json.parse? v.compact = some v) :
    lineWrite? .chat item.line = item.write? := by
  cases item with
  | delta s =>
    rw [Item.line, lineWrite?_data, trim_deltaPayload, if_neg (deltaPayload_not_sentinel s),
      String.ofList_toList]
    exact chatDelta?_deltaPayload s
  | step v =>
    rw [Item.line, lineWrite?_progress, String.ofList_toList, reads v rfl]
    rfl

theorem isEndMarker_line (item : Item) : isEndMarker item.line = false := by
  have hne : Frame.ofLine? item.line ≠ some .done := by
    cases item with
    | delta s =>
      rw [Item.line, ofLine?_data, trim_deltaPayload, if_neg (deltaPayload_not_sentinel s)]
      exact fun h => nomatch h
    | step v =>
      rw [Item.line, ofLine?_progress]
      exact fun h => nomatch h
  exact Bool.eq_false_iff.mpr fun h => hne (ofLine?_eq_done_iff.mpr h)

theorem linesBeforeEnd_encodeItems (items : List Item) (further : List UInt8) :
    linesBeforeEnd (encodeItems items ++ further) = items.map Item.line := by
  have hlines : ∀ line ∈ items.map Item.line, (!isEndMarker line) = true := by
    intro line hline
    obtain ⟨item, -, rfl⟩ := List.mem_map.mp hline
    rw [isEndMarker_line]
    rfl
  have hend : ¬ (!isEndMarker endLine) = true := by decide
  rw [linesBeforeEnd, completeLines_encodeItems, List.takeWhile_append_of_pos hlines,
    List.takeWhile_cons_of_neg (p := fun line => !isEndMarker line) hend, List.append_nil]

/-! ### A whole stream -/

theorem exists_arriving_chunks (chunks : List (List UInt8)) (later : List Event) :
    ∃ more, arriving (chunks.map .chunk ++ later) = chunks.flatten ++ more := by
  obtain ⟨more, hmore⟩ := exists_arriving_append (chunks.map .chunk) later
  exact ⟨more, by rw [hmore, arriving_map_chunk]⟩

/-- Empty deltas are not written, and add nothing. -/
theorem join_deltaWrites (items : List Item) :
    String.join (items.filterMap fun item => item.delta?.bind fun _ => item.write?) =
      String.join (items.filterMap Item.delta?) := by
  induction items with
  | nil => rfl
  | cons item items ih =>
    cases item with
    | step v => exact ih
    | delta s =>
      by_cases hs : s = ""
      · simpa [Item.delta?, Item.write?, hs] using ih
      · simpa [Item.delta?, Item.write?, hs] using ih

/-- However the bytes of a chat stream are cut, and whatever bytes and events follow them, each
delta that is not empty is written as it is, and each step as its marker. -/
theorem writes_encodeItems (items : List Item) (further : List UInt8)
    (chunks : List (List UInt8)) (later : List Event)
    (reads : ∀ v, .step v ∈ items → Json.parse? v.compact = some v)
    (cut : chunks.flatten = encodeItems items ++ further) :
    writes .chat (chunks.map .chunk ++ later) = items.filterMap Item.write? ∧
      String.join (items.filterMap fun item => item.delta?.bind fun _ => item.write?) =
        String.join (items.filterMap Item.delta?) := by
  refine ⟨?_, join_deltaWrites items⟩
  obtain ⟨more, hmore⟩ := exists_arriving_chunks chunks later
  have hlines : linesBeforeEnd (arriving (chunks.map .chunk ++ later)) = items.map Item.line := by
    rw [hmore, cut, List.append_assoc, linesBeforeEnd_encodeItems]
  have hline : ∀ item ∈ items, lineWrite? .chat item.line = item.write? := by
    intro item hitem
    exact lineWrite?_line fun v hv => reads v (hv ▸ hitem)
  calc writes .chat (chunks.map .chunk ++ later)
      = (items.map Item.line).filterMap (lineWrite? .chat) := by rw [writes_eq, hlines]
    _ = items.filterMap fun item => lineWrite? .chat item.line := by rw [List.filterMap_map]; rfl
    _ = items.filterMap Item.write? := List.filterMap_congr hline

/-- A step with a number in it. -/
def countingStep : Json := .object [("id", .number (.int 7)), ("name", .string "x")]

/-- A delta that looks like the end of a stream, a step, and an empty delta. -/
def hardItems : List Item := [.delta "data: [DONE]\r\n\"é", .step countingStep, .delta ""]

/-- The items arrive byte by byte, a malformed byte behind them, and are written whole. -/
theorem writes_hardItems :
    (∀ v, .step v ∈ hardItems → Json.parse? v.compact = some v) ∧
      ((encodeItems hardItems ++ [0xFF]).map ([·])).flatten = encodeItems hardItems ++ [0xFF] ∧
      writes .chat (((encodeItems hardItems ++ [0xFF]).map ([·])).map .chunk ++ [.stall]) =
        ["data: [DONE]\r\n\"é", (Step.ofPayload countingStep).marker] := by
  have hreads : ∀ v, .step v ∈ hardItems → Json.parse? v.compact = some v := by
    intro v hv
    have hstep : Json.parse? countingStep.compact = some countingStep := by cbv
    simp only [hardItems, List.mem_cons, reduceCtorEq, Item.step.injEq, List.not_mem_nil, or_false,
      false_or] at hv
    rw [hv, hstep]
  have hcut : ((encodeItems hardItems ++ [0xFF]).map ([·])).flatten =
      encodeItems hardItems ++ [0xFF] := by
    rw [← List.flatMap_def, List.flatMap_singleton']
  have hwrites : hardItems.filterMap Item.write? =
      ["data: [DONE]\r\n\"é", (Step.ofPayload countingStep).marker] := by
    simp [hardItems, Item.write?]
  refine ⟨hreads, hcut, ?_⟩
  rw [(writes_encodeItems hardItems [0xFF] _ [.stall] hreads hcut).1, hwrites]

end ChatRelay.Stream
