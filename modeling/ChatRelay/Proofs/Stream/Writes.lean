import ChatRelay.Proofs.Stream.Chunking
import ChatRelay.Stream.Relay
import Mathlib.Data.List.TakeWhile

/-!
What a client is sent depends on the complete lines of the bytes that arrive, and on nothing
else: each line up to the end marker is written or passed over on its own, and what comes after
the end of the stream or after the end marker makes no difference.
-/

namespace ChatRelay.Stream

def Event.isEnd : Event → Bool
  | .chunk _ => false
  | _ => true

def isEndMarker (line : List Char) : Bool :=
  (dataStart.isPrefixOf? line).any fun rest => sentinels.contains (Text.trim rest)

/-- The lines that may be written: those before the first end marker. -/
def linesBeforeEnd (bytes : List UInt8) : List (List Char) :=
  (completeLines bytes).takeWhile (!isEndMarker ·)

def lineWrite? (flavor : Flavor) (line : List Char) : Option String :=
  (Frame.ofLine? line).bind (render? flavor)

/-- What the client is to be sent for a line: of a data line in a chat the message's text, or the
delta's where the message has none; of a data line with a value all of its payload; and of a
progress line its marker. -/
inductive Renders : Flavor → List Char → String → Prop where
  | message {rest : List Char} {value : Json} {text : String}
      (parsed : Json.parse? (String.ofList (Text.trim rest)) = some value)
      (found : value.at? ["choices", "0", "message", "content"] = some (.string text))
      (nonempty : text ≠ "") : Renders .chat (dataStart ++ rest) text
  | delta {rest : List Char} {value : Json} {text : String}
      (parsed : Json.parse? (String.ofList (Text.trim rest)) = some value)
      (no_message : ∀ s, value.at? ["choices", "0", "message", "content"] = some (.string s) →
        s = "")
      (found : value.at? ["choices", "0", "delta", "content"] = some (.string text))
      (nonempty : text ≠ "") : Renders .chat (dataStart ++ rest) text
  | generated {rest : List Char} {value : Json} {text : String}
      (parsed : Json.parse? (String.ofList (Text.trim rest)) = some value)
      (found : value.get? "value" = some (.string text))
      (nonempty : text ≠ "") :
      Renders .generate (dataStart ++ rest) (String.ofList (Text.trim rest))
  | progress {flavor : Flavor} {rest : List Char} {value : Json}
      (parsed : Json.parse? (String.ofList rest) = some value) :
      Renders flavor (progressStart ++ rest) (Step.ofPayload value).marker

/-! ### One line -/

theorem ofLine?_data (rest : List Char) :
    Frame.ofLine? (dataStart ++ rest) =
      if Text.trim rest ∈ sentinels then some .done
      else some (.data (String.ofList (Text.trim rest))) := by
  have hp : dataStart.isPrefixOf? (dataStart ++ rest) = some rest :=
    List.isPrefixOf?_eq_some_iff_append_eq.mpr rfl
  simp only [Frame.ofLine?, hp]

theorem ofLine?_progress (rest : List Char) :
    Frame.ofLine? (progressStart ++ rest) =
      some (.progress (String.ofList (progressStart ++ rest))) := by
  have hp : progressStart.isPrefixOf (progressStart ++ rest) = true :=
    List.isPrefixOf_iff_prefix.mpr (List.prefix_append _ _)
  have hd : dataStart.isPrefixOf? (progressStart ++ rest) = none := rfl
  simp only [Frame.ofLine?, hd, hp, if_true]

theorem line_cases (line : List Char) :
    (∃ rest, line = dataStart ++ rest) ∨ (∃ rest, line = progressStart ++ rest) ∨
      Frame.ofLine? line = none := by
  cases hd : dataStart.isPrefixOf? line with
  | some rest => exact .inl ⟨rest, (List.isPrefixOf?_eq_some_iff_append_eq.mp hd).symm⟩
  | none =>
    right
    by_cases hp : progressStart.isPrefixOf line
    · obtain ⟨rest, hrest⟩ := List.isPrefixOf_iff_prefix.mp hp
      exact .inl ⟨rest, hrest.symm⟩
    · right
      simp only [Frame.ofLine?, hd, hp, Bool.false_eq_true, if_false]

theorem ofLine?_eq_done_iff {line : List Char} :
    Frame.ofLine? line = some .done ↔ isEndMarker line = true := by
  unfold Frame.ofLine? isEndMarker
  cases hd : dataStart.isPrefixOf? line with
  | some rest =>
    by_cases hs : Text.trim rest ∈ sentinels <;> simp [hs]
  | none =>
    by_cases hp : progressStart.isPrefixOf line <;> simp [hp]

theorem textAt_eq_some_iff {value : Json} {path : List String} {s : String} :
    (value.at? path).bind Json.text? = some s ↔ value.at? path = some (.string s) := by
  cases value.at? path with
  | none => simp
  | some found => cases found <;> simp [Json.text?]

/-- The text of a chat payload is the message's, or the delta's where the message has none. -/
theorem chatDelta?_eq_some_iff {payload text : String} :
    chatDelta? payload = some text ↔ ∃ value, Json.parse? payload = some value ∧ text ≠ "" ∧
      (value.at? ["choices", "0", "message", "content"] = some (.string text) ∨
        (∀ s, value.at? ["choices", "0", "message", "content"] = some (.string s) → s = "") ∧
          value.at? ["choices", "0", "delta", "content"] = some (.string text)) := by
  simp only [chatDelta?, bind, Option.bind_eq_some_iff]
  refine exists_congr fun value => and_congr_right fun _ => ?_
  simp only [← textAt_eq_some_iff, deltaPaths, List.filterMap_cons, List.filterMap_nil]
  -- Whether each of the two places has a text decides what the search finds.
  cases (value.at? ["choices", "0", "message", "content"]).bind Json.text? with
  | none =>
    cases (value.at? ["choices", "0", "delta", "content"]).bind Json.text? with
    | none => simp
    | some d =>
      by_cases hd : d = "" <;> simp [hd]
      grind
  | some m =>
    cases (value.at? ["choices", "0", "delta", "content"]).bind Json.text? with
    | none =>
      by_cases hm : m = "" <;> simp [hm]
      grind
    | some d =>
      by_cases hm : m = "" <;> by_cases hd : d = "" <;> simp [hm, hd] <;> grind

theorem generatedChunk?_eq_some_iff {payload text : String} :
    generatedChunk? payload = some text ↔ text = payload ∧ ∃ value s,
      Json.parse? payload = some value ∧ value.get? "value" = some (.string s) ∧ s ≠ "" := by
  simp only [generatedChunk?, bind, Option.bind_eq_some_iff]
  constructor
  · rintro ⟨value, hparse, hvalue⟩
    split at hvalue
    · rename_i s hs
      split at hvalue
      · cases hvalue
      · exact ⟨(Option.some.inj hvalue).symm, value, s, hparse, hs, ‹_›⟩
    · cases hvalue
  · rintro ⟨rfl, value, s, hparse, hs, hne⟩
    exact ⟨value, hparse, by simp only [hs, if_neg hne]⟩

theorem markerOfLine?_progress (rest : List Char) :
    Step.markerOfLine? (String.ofList (progressStart ++ rest)) =
      (Json.parse? (String.ofList rest)).map fun value => (Step.ofPayload value).marker := by
  have hp : progressStart.isPrefixOf? (progressStart ++ rest) = some rest :=
    List.isPrefixOf?_eq_some_iff_append_eq.mpr rfl
  simp only [Step.markerOfLine?, Step.ofLine?, String.toList_ofList, hp, bind, Option.bind_some]
  cases Json.parse? (String.ofList rest) <;> rfl

theorem parse?_sentinel {payload : List Char} (h : payload ∈ sentinels) :
    Json.parse? (String.ofList payload) = none := by
  simp only [sentinels, List.mem_cons, List.not_mem_nil, or_false] at h
  rcases h with rfl | rfl <;> rfl

theorem lineWrite?_data (flavor : Flavor) (rest : List Char) :
    lineWrite? flavor (dataStart ++ rest) = if Text.trim rest ∈ sentinels then none else
      match flavor with
      | .chat => chatDelta? (String.ofList (Text.trim rest))
      | .generate => generatedChunk? (String.ofList (Text.trim rest)) := by
  rw [lineWrite?, ofLine?_data]
  split
  · rfl
  · cases flavor <;> rfl

theorem lineWrite?_progress (flavor : Flavor) (rest : List Char) :
    lineWrite? flavor (progressStart ++ rest) =
      (Json.parse? (String.ofList rest)).map fun value => (Step.ofPayload value).marker := by
  rw [lineWrite?, ofLine?_progress, Option.bind_some, render?, markerOfLine?_progress]

/-- What is written for a line is what is to be sent for it. -/
theorem lineWrite?_eq_some_iff {flavor : Flavor} {line : List Char} {text : String} :
    lineWrite? flavor line = some text ↔ Renders flavor line text := by
  constructor
  · -- The start of the line says what it carries, and the reading of that what it renders to.
    intro h
    rcases line_cases line with ⟨rest, rfl⟩ | ⟨rest, rfl⟩ | hnone
    · rw [lineWrite?_data] at h
      split at h
      · cases h
      · cases flavor with
        | chat =>
          obtain ⟨value, hparse, hne, hm | ⟨hno, hd⟩⟩ := chatDelta?_eq_some_iff.mp h
          · exact .message hparse hm hne
          · exact .delta hparse hno hd hne
        | generate =>
          obtain ⟨rfl, value, s, hparse, hs, hne⟩ := generatedChunk?_eq_some_iff.mp h
          exact .generated hparse hs hne
    · rw [lineWrite?_progress] at h
      obtain ⟨value, hparse, rfl⟩ := Option.map_eq_some_iff.mp h
      exact .progress hparse
    · rw [lineWrite?, hnone] at h
      cases h
  · intro h
    -- The sentinels are not JSON, so that a payload that has been parsed is none of them.
    have hpayload {rest : List Char} {value : Json}
        (hparse : Json.parse? (String.ofList (Text.trim rest)) = some value) :
        Text.trim rest ∉ sentinels := fun hs => by
      rw [parse?_sentinel hs] at hparse
      cases hparse
    cases h with
    | message parsed found nonempty =>
      rw [lineWrite?_data, if_neg (hpayload parsed)]
      exact chatDelta?_eq_some_iff.mpr ⟨_, parsed, nonempty, .inl found⟩
    | delta parsed no_message found nonempty =>
      rw [lineWrite?_data, if_neg (hpayload parsed)]
      exact chatDelta?_eq_some_iff.mpr ⟨_, parsed, nonempty, .inr ⟨no_message, found⟩⟩
    | generated parsed found nonempty =>
      rw [lineWrite?_data, if_neg (hpayload parsed)]
      exact generatedChunk?_eq_some_iff.mpr ⟨rfl, _, _, parsed, found, nonempty⟩
    | progress parsed => rw [lineWrite?_progress, parsed, Option.map_some]

/-! ### The bytes that arrive -/

theorem arriving_end {stop : Event} (h : stop.isEnd = true) (later : List Event) :
    arriving (stop :: later) = [] := by
  cases stop with
  | chunk bytes => cases h
  | failure => rfl
  | stall => rfl
  | ended => rfl

theorem arriving_append (events later : List Event) :
    arriving (events ++ later) = if events.any Event.isEnd then arriving events
      else arriving events ++ arriving later := by
  induction events with
  | nil => rfl
  | cons event events ih =>
    cases event with
    | chunk bytes =>
      simp only [List.cons_append, arriving, ih, List.any_cons, Event.isEnd, Bool.false_or]
      split
      · rfl
      · rw [List.append_assoc]
    | failure => rfl
    | stall => rfl
    | ended => rfl

theorem arriving_append_end (events : List Event) {stop : Event} (h : stop.isEnd = true)
    (later : List Event) : arriving (events ++ stop :: later) = arriving events := by
  rw [arriving_append, arriving_end h, List.append_nil, ite_self]

theorem exists_arriving_append (events later : List Event) :
    ∃ more, arriving (events ++ later) = arriving events ++ more := by
  rw [arriving_append]
  split
  · exact ⟨[], (List.append_nil _).symm⟩
  · exact ⟨arriving later, rfl⟩

theorem arriving_map_chunk (chunks : List (List UInt8)) :
    arriving (chunks.map .chunk) = chunks.flatten := by
  induction chunks with
  | nil => rfl
  | cons chunk chunks ih => rw [List.map_cons, arriving, ih, List.flatten_cons]

theorem exists_byteLines_append (a b : List UInt8) :
    ∃ more, byteLines (a ++ b) = byteLines a ++ more := by
  induction a using separator_induction lineFeed with
  | last piece h => exact ⟨_, by rw [byteLines_of_not_mem h, List.nil_append]⟩
  | line piece rest h ih =>
    obtain ⟨more, hmore⟩ := ih
    refine ⟨more, ?_⟩
    rw [List.append_assoc, List.cons_append, byteLines_line h, byteLines_line h, hmore,
      List.cons_append]

theorem exists_completeLines_append (a b : List UInt8) :
    ∃ more, completeLines (a ++ b) = completeLines a ++ more := by
  obtain ⟨more, hmore⟩ := exists_byteLines_append a b
  exact ⟨more.map lineText, by rw [completeLines, hmore, List.map_append, completeLines]⟩

/-! ### The writes -/

theorem resting_isDone {p : Parser} (hp : p.Resting) (h : p.isDone = true) :
    p = ⟨.done, [], none⟩ := by
  cases hp with
  | waiting _ => cases h
  | done => rfl

/-- The writes are the renderings of the frames of all bytes that arrive. -/
theorem writesFrom_eq {p : Parser} (hp : p.Resting) (flavor : Flavor) (events : List Event) :
    writesFrom flavor p events = (p.feed (arriving events)).1.filterMap (render? flavor) := by
  -- The induction is on the events, and the parser is at rest before each of them.
  induction events generalizing p with
  | nil =>
    rw [show arriving [] = [] from rfl, Parser.feed_nil hp]
    rfl
  | cons event events ih =>
    cases event with
    | chunk bytes =>
      have hrest := Parser.resting_feed hp bytes
      rw [arriving, Parser.feed_append hp, List.filterMap_append]
      simp only [writesFrom]
      congr 1
      -- A parser that is done gives nothing for what comes later, just as nothing is read.
      by_cases hdone : (p.feed bytes).2.isDone
      · rw [if_pos hdone, resting_isDone hrest hdone]
        rfl
      · rw [if_neg hdone, ih hrest]
    | failure => rw [arriving_end rfl, Parser.feed_nil hp]; rfl
    | stall => rw [arriving_end rfl, Parser.feed_nil hp]; rfl
    | ended => rw [arriving_end rfl, Parser.feed_nil hp]; rfl

/-- The end marker is not written, and the frames before it are those of the lines before it. -/
theorem filterMap_throughDone (flavor : Flavor) (lines : List (List Char)) :
    (throughDone (lines.filterMap Frame.ofLine?)).filterMap (render? flavor) =
      (lines.takeWhile (!isEndMarker ·)).filterMap (lineWrite? flavor) := by
  induction lines with
  | nil => rfl
  | cons line lines ih =>
    by_cases hend : isEndMarker line = true
    · have hline := ofLine?_eq_done_iff.mpr hend
      rw [List.takeWhile_cons_of_neg (by simp [hend]), List.filterMap_cons, hline]
      rfl
    · rw [List.takeWhile_cons_of_pos (by simp [hend]), List.filterMap_cons, List.filterMap_cons,
        lineWrite?]
      cases hline : Frame.ofLine? line with
      | none => exact ih
      | some frame =>
        have hne : frame ≠ .done := fun h => hend (ofLine?_eq_done_iff.mp (h ▸ hline))
        simp only [throughDone_cons hne, List.filterMap_cons, ih, Option.bind_some]

theorem writes_eq (flavor : Flavor) (events : List Event) :
    writes flavor events =
      (linesBeforeEnd (arriving events)).filterMap (lineWrite? flavor) := by
  calc writes flavor events
      = (Parser.fresh.feed (arriving events)).1.filterMap (render? flavor) :=
        writesFrom_eq Parser.resting_fresh flavor events
    _ = (framesOf (arriving events)).filterMap (render? flavor) := by rw [Parser.feed_fresh]
    _ = (linesBeforeEnd (arriving events)).filterMap (lineWrite? flavor) :=
        filterMap_throughDone flavor _

/-! ### More bytes, more events -/

theorem linesBeforeEnd_mono (a b : List UInt8) : linesBeforeEnd a <+: linesBeforeEnd (a ++ b) := by
  obtain ⟨more, hmore⟩ := exists_completeLines_append a b
  rw [linesBeforeEnd, linesBeforeEnd, hmore, List.takeWhile_append]
  split
  · exact (List.takeWhile_prefix _).trans (List.prefix_append _ _)
  · exact List.prefix_rfl

theorem linesBeforeEnd_append_of_marker {a : List UInt8} {line : List Char}
    (hline : line ∈ completeLines a) (hend : isEndMarker line = true) (b : List UInt8) :
    linesBeforeEnd (a ++ b) = linesBeforeEnd a := by
  obtain ⟨more, hmore⟩ := exists_completeLines_append a b
  -- The lines up to the marker are not all lines, so that they stop short of what follows.
  have hshort :
      ((completeLines a).takeWhile (!isEndMarker ·)).length ≠ (completeLines a).length := by
    intro hlength
    have hall := (List.takeWhile_prefix (!isEndMarker ·)).eq_of_length hlength
    have hkept := List.takeWhile_eq_self_iff.mp hall line hline
    rw [hend] at hkept
    cases hkept
  rw [linesBeforeEnd, linesBeforeEnd, hmore, List.takeWhile_append, if_neg hshort]

theorem completeLines_append_of_not_mem (bytes : List UInt8) {piece : List UInt8}
    (h : lineFeed ∉ piece) : completeLines (bytes ++ piece) = completeLines bytes := by
  rw [completeLines, byteLines_append_of_not_mem bytes h, completeLines]

theorem writes_append_end (flavor : Flavor) (events : List Event) {stop : Event}
    (h : stop.isEnd = true) (later : List Event) :
    writes flavor (events ++ stop :: later) = writes flavor events := by
  rw [writes_eq, arriving_append_end events h, writes_eq]

theorem writes_append_of_marker (flavor : Flavor) {events : List Event} {line : List Char}
    (hline : line ∈ completeLines (arriving events)) (hend : isEndMarker line = true)
    (later : List Event) : writes flavor (events ++ later) = writes flavor events := by
  obtain ⟨more, hmore⟩ := exists_arriving_append events later
  rw [writes_eq, hmore, linesBeforeEnd_append_of_marker hline hend, writes_eq]

theorem writes_append_unfinished (flavor : Flavor) (events : List Event) {piece : List UInt8}
    (h : lineFeed ∉ piece) : writes flavor (events ++ [.chunk piece]) = writes flavor events := by
  rw [writes_eq, writes_eq, arriving_append]
  split
  · rfl
  · rw [arriving, show arriving [] = [] from rfl, List.append_nil, linesBeforeEnd,
      completeLines_append_of_not_mem _ h, linesBeforeEnd]

theorem writes_mono (flavor : Flavor) {start events : List Event} (h : start <+: events) :
    writes flavor start <+: writes flavor events := by
  obtain ⟨later, rfl⟩ := h
  obtain ⟨more, hmore⟩ := exists_arriving_append start later
  rw [writes_eq, writes_eq, hmore]
  exact (linesBeforeEnd_mono _ _).filterMap _

/-- The writes are what the lines before the end say, one write for each such line and in their
order. Whatever happens behind an end of the stream or behind the end marker adds nothing, nor
does an unfinished line, and more events never take back a write. -/
theorem writes_eq_rendered_lines (flavor : Flavor) (events : List Event) :
    writes flavor events =
        (linesBeforeEnd (arriving events)).filterMap (lineWrite? flavor) ∧
      (∀ line text, lineWrite? flavor line = some text ↔ Renders flavor line text) ∧
      (∀ stop later, stop.isEnd = true →
        writes flavor (events ++ stop :: later) = writes flavor events) ∧
      (∀ line later, line ∈ completeLines (arriving events) → isEndMarker line = true →
        writes flavor (events ++ later) = writes flavor events) ∧
      (∀ piece, lineFeed ∉ piece →
        writes flavor (events ++ [.chunk piece]) = writes flavor events) ∧
      ∀ start, start <+: events → writes flavor start <+: writes flavor events := by
  refine ⟨writes_eq flavor events, fun line text => lineWrite?_eq_some_iff, ?_, ?_, ?_, ?_⟩
  · exact fun stop later hstop => writes_append_end flavor events hstop later
  · exact fun line later hline hend => writes_append_of_marker flavor hline hend later
  · exact fun piece hpiece => writes_append_unfinished flavor events hpiece
  · exact fun start hstart => writes_mono flavor hstart

/-- A delta and an end marker, cut inside the `é` and inside the marker. -/
def markedStream : List Event :=
  [.chunk (Utf8.encode "data: \x7b\"choices\":[\x7b\"delta\":\x7b\"content\":\"".toList ++ [0xC3]),
    .chunk (0xA9 :: Utf8.encode "\"\x7d\x7d]\x7d\ndata: [DO".toList),
    .chunk (Utf8.encode "NE]\n".toList)]

/-- The delta is written; an error, bytes behind the marker and half a line add nothing. -/
theorem writes_markedStream :
    writes .chat markedStream = ["é"] ∧
      Event.failure.isEnd = true ∧ "data: [DONE]".toList ∈ completeLines (arriving markedStream) ∧
      isEndMarker "data: [DONE]".toList = true ∧ lineFeed ∉ Utf8.encode "data: ".toList ∧
      markedStream.take 2 <+: markedStream ∧
      writes .chat (markedStream ++ .failure :: markedStream) = writes .chat markedStream ∧
      writes .chat (markedStream ++ markedStream) = writes .chat markedStream ∧
      writes .chat (markedStream ++ [.chunk (Utf8.encode "data: ".toList)]) =
        writes .chat markedStream ∧
      writes .chat (markedStream.take 2) <+: writes .chat markedStream := by
  obtain ⟨hlines, -, hend, hmarker, hpiece, hstart⟩ := writes_eq_rendered_lines .chat markedStream
  have hmem : "data: [DONE]".toList ∈ completeLines (arriving markedStream) := by decide +kernel
  have hmark : isEndMarker "data: [DONE]".toList = true := by decide +kernel
  have hopen : lineFeed ∉ Utf8.encode "data: ".toList := by decide +kernel
  have hearly : markedStream.take 2 <+: markedStream := List.take_prefix _ _
  exact ⟨hlines.trans (by decide +kernel), rfl, hmem, hmark, hopen, hearly,
    hend .failure markedStream rfl, hmarker _ markedStream hmem hmark, hpiece _ hopen,
    hstart _ hearly⟩

end ChatRelay.Stream
