import ChatRelay.Proofs.Stream.Lines

/-!
How the bytes of a stream are cut into chunks makes no difference. Feeding carries the unfinished
line and the unfinished character across every cut, so that feeding two chunks is feeding them
joined, and what a fresh parser gives is what the lines of the bytes say.
-/

namespace ChatRelay.Stream

/-- Frames up to and with the end marker. -/
def throughDone : List Frame → List Frame
  | [] => []
  | .done :: _ => [.done]
  | frame :: frames => frame :: throughDone frames

/-- The frames of a byte string: its lines are cut at the byte level, each is decoded and read on
its own, and the first end marker is the last frame. -/
def framesOf (bytes : List UInt8) : List Frame :=
  throughDone ((completeLines bytes).filterMap Frame.ofLine?)

/-! ### Frames up to the end marker -/

theorem throughDone_cons {frame : Frame} (h : frame ≠ .done) (frames : List Frame) :
    throughDone (frame :: frames) = frame :: throughDone frames := by
  cases frame with
  | done => exact absurd rfl h
  | data payload => rfl
  | progress line => rfl

theorem done_mem_throughDone {frames : List Frame} :
    .done ∈ throughDone frames ↔ .done ∈ frames := by
  induction frames with
  | nil => rfl
  | cons frame frames ih =>
    by_cases hf : frame = .done
    · simp [hf, throughDone]
    · rw [throughDone_cons hf, List.mem_cons, List.mem_cons, ih]

theorem throughDone_append_of_mem {frames : List Frame} (h : .done ∈ frames)
    (more : List Frame) : throughDone (frames ++ more) = throughDone frames := by
  induction frames with
  | nil => cases h
  | cons frame frames ih =>
    by_cases hf : frame = .done
    · rw [hf]
      rfl
    · have hmem := (List.mem_cons.mp h).resolve_left (Ne.symm hf)
      rw [List.cons_append, throughDone_cons hf, throughDone_cons hf, ih hmem]

theorem throughDone_append_of_not_mem {frames : List Frame} (h : .done ∉ frames)
    (more : List Frame) : throughDone (frames ++ more) = frames ++ throughDone more := by
  induction frames with
  | nil => rfl
  | cons frame frames ih =>
    obtain ⟨hf, hfs⟩ := List.ne_and_not_mem_of_not_mem_cons h
    rw [List.cons_append, throughDone_cons (Ne.symm hf), ih hfs, List.cons_append]

theorem throughDone_of_not_mem {frames : List Frame} (h : .done ∉ frames) :
    throughDone frames = frames := by
  simpa only [List.append_nil, throughDone] using throughDone_append_of_not_mem h []

namespace Parser

/-! ### One chunk -/

def framesOfLines (lines : List (List Char)) : List Frame :=
  throughDone (lines.filterMap fun line => Frame.ofLine? (dropReturns line))

/-- A parser between two calls: it waits with an unfinished line, or has ended and holds
nothing. -/
inductive Resting : Parser → Prop where
  | waiting {buffer : List Char} {tail : Utf8.State} (unfinished : '\n' ∉ buffer) :
      Resting ⟨.awaitingChunk, buffer, tail⟩
  | done : Resting ⟨.done, [], none⟩

theorem resting_fresh : Resting fresh := .waiting (List.not_mem_nil)

theorem framesOfLines_cons (line : List Char) (lines : List (List Char)) :
    framesOfLines (line :: lines) = match Frame.ofLine? (dropReturns line) with
      | none => framesOfLines lines
      | some .done => [.done]
      | some frame => frame :: framesOfLines lines := by
  unfold framesOfLines
  rw [List.filterMap_cons]
  cases Frame.ofLine? (dropReturns line) with
  | none => rfl
  | some frame => cases frame <;> rfl

theorem dispatch_eq (p : Parser) (lines : List (List Char)) :
    p.dispatch lines = (framesOfLines lines,
      if .done ∈ framesOfLines lines then p.finish else { p with phase := .awaitingChunk }) := by
  induction lines with
  | nil => rfl
  | cons line lines ih =>
    rw [framesOfLines_cons, dispatch]
    cases Frame.ofLine? (dropReturns line) with
    | none => exact ih
    | some frame =>
      cases frame with
      | done => rfl
      | data payload => simp [ih]
      | progress line => simp [ih]

/-- A waiting parser reads the lines that a chunk completes and keeps what is behind them. -/
theorem feed_waiting (buffer : List Char) (tail : Utf8.State) (chunk : List UInt8) :
    feed ⟨.awaitingChunk, buffer, tail⟩ chunk =
      let cut := cutLines (buffer ++ Utf8.replace (Utf8.run tail chunk).1)
      (framesOfLines cut.1, if .done ∈ framesOfLines cut.1 then ⟨.done, [], none⟩
        else ⟨.awaitingChunk, cut.2, (Utf8.run tail chunk).2⟩) := by
  simp only [feed, isDone, split, decode]
  cases hcut : cutLines (buffer ++ Utf8.replace (Utf8.run tail chunk).1) with
  | mk lines last =>
    cases lines with
    | nil =>
      -- Without a line feed the parser keeps its whole text, which is then the last line.
      have hlast := last_of_no_lines (congrArg Prod.fst hcut)
      rw [hcut] at hlast
      simp only at hlast
      simp [dispatch_eq, framesOfLines, throughDone, hlast]
    | cons line lines => simp [dispatch_eq, finish]

theorem feed_done (chunk : List UInt8) :
    feed ⟨.done, [], none⟩ chunk = ([], ⟨.done, [], none⟩) := rfl

theorem feed_nil {p : Parser} (hp : p.Resting) : p.feed [] = ([], p) := by
  cases hp with
  | done => rfl
  | waiting unfinished =>
    rw [feed_waiting]
    simp only [Utf8.run, Utf8.replace, List.map_nil, List.append_nil]
    rw [cutLines_of_not_mem unfinished]
    rfl

theorem resting_feed {p : Parser} (hp : p.Resting) (chunk : List UInt8) :
    Resting (p.feed chunk).2 := by
  cases hp with
  | done => exact .done
  | waiting _ =>
    rw [feed_waiting]
    dsimp only
    split
    · exact .done
    · exact .waiting (newline_not_mem_last _)

/-! ### Many chunks -/

theorem framesOfLines_append_of_mem {lines : List (List Char)}
    (h : .done ∈ framesOfLines lines) (more : List (List Char)) :
    framesOfLines (lines ++ more) = framesOfLines lines := by
  rw [framesOfLines, List.filterMap_append,
    throughDone_append_of_mem (done_mem_throughDone.mp h)]
  rfl

theorem framesOfLines_append_of_not_mem {lines : List (List Char)}
    (h : .done ∉ framesOfLines lines) (more : List (List Char)) :
    framesOfLines (lines ++ more) = framesOfLines lines ++ framesOfLines more := by
  have hn := fun hm => h (done_mem_throughDone.mpr hm)
  rw [framesOfLines, List.filterMap_append, throughDone_append_of_not_mem hn,
    framesOfLines, throughDone_of_not_mem hn, framesOfLines]

/-- Feeding two byte strings one after the other is feeding them joined. -/
theorem feed_append {p : Parser} (hp : p.Resting) (a b : List UInt8) :
    p.feed (a ++ b) =
      ((p.feed a).1 ++ ((p.feed a).2.feed b).1, ((p.feed a).2.feed b).2) := by
  cases hp with
  | done => rfl
  | @waiting buffer tail _ =>
    have htext : buffer ++ Utf8.replace (Utf8.run tail (a ++ b)).1 =
        (buffer ++ Utf8.replace (Utf8.run tail a).1) ++
          Utf8.replace (Utf8.run (Utf8.run tail a).2 b).1 := by
      simp only [Utf8.run_append, Utf8.replace, List.map_append, List.append_assoc]
    have htail : (Utf8.run tail (a ++ b)).2 = (Utf8.run (Utf8.run tail a).2 b).2 := by
      rw [Utf8.run_append]
    rw [feed_waiting, feed_waiting, htext, htail, cutLines_append]
    dsimp only
    -- With an end marker in the first chunk the second one is not read; without one the parser
    -- waits with the unfinished line of the first.
    by_cases h : .done ∈ framesOfLines (cutLines (buffer ++ Utf8.replace (Utf8.run tail a).1)).1
    · rw [if_pos h, framesOfLines_append_of_mem h, if_pos h, feed_done]
      simp only [List.append_nil]
    · rw [if_neg h, feed_waiting, framesOfLines_append_of_not_mem h]
      simp only [List.mem_append, h, false_or]

theorem feedAll_eq_feed_flatten {p : Parser} (hp : p.Resting) (chunks : List (List UInt8)) :
    p.feedAll chunks = p.feed chunks.flatten := by
  induction chunks generalizing p with
  | nil => exact (feed_nil hp).symm
  | cons chunk chunks ih =>
    have hrest := resting_feed hp chunk
    rw [List.flatten_cons, feed_append hp, ← ih hrest]
    rfl

theorem feed_fresh (bytes : List UInt8) : (fresh.feed bytes).1 = framesOf bytes := by
  rw [fresh, feed_waiting]
  simp only [List.nil_append, lines_of_run, framesOfLines, framesOf, completeLines,
    List.filterMap_map]
  rfl

/-- Whatever the chunks, a fresh parser gives the frames of the byte string that they make up,
each of whose lines is decoded with one U+FFFD for each malformed piece; and chunks of the same
bytes leave the same parser behind. -/
theorem feedAll_fresh (bytes : List UInt8) (chunks : List (List UInt8))
    (cut : chunks.flatten = bytes) :
    (fresh.feedAll chunks).1 = framesOf bytes ∧
      (∀ piece text, Utf8.Decodes piece text ↔ text = Utf8.decodeLossy piece) ∧
      ∀ others : List (List UInt8), others.flatten = bytes →
        fresh.feedAll others = fresh.feedAll chunks := by
  refine ⟨?_, fun piece text => Utf8.decodes_iff, ?_⟩
  · rw [feedAll_eq_feed_flatten resting_fresh, cut, feed_fresh]
  · intro others hothers
    rw [feedAll_eq_feed_flatten resting_fresh, feedAll_eq_feed_flatten resting_fresh, cut, hothers]

/-- A line cut inside its `é` and between carriage return and line feed is read as a whole. -/
theorem feedAll_fresh_cut_character :
    [[0x64, 0x61, 0x74, 0x61, 0x3A, 0x20, 0xC3], [], [0xA9, 0x0D], [0x0A, 0xE2]].flatten =
        ([0x64, 0x61, 0x74, 0x61, 0x3A, 0x20, 0xC3, 0xA9, 0x0D, 0x0A, 0xE2] : List UInt8) ∧
      (fresh.feedAll [[0x64, 0x61, 0x74, 0x61, 0x3A, 0x20, 0xC3], [], [0xA9, 0x0D],
        [0x0A, 0xE2]]).1 = [.data "é"] ∧
      fresh.feedAll [[0x64, 0x61, 0x74, 0x61, 0x3A, 0x20, 0xC3, 0xA9, 0x0D, 0x0A, 0xE2]] =
        fresh.feedAll [[0x64, 0x61, 0x74, 0x61, 0x3A, 0x20, 0xC3], [], [0xA9, 0x0D],
          [0x0A, 0xE2]] := by
  have h := feedAll_fresh [0x64, 0x61, 0x74, 0x61, 0x3A, 0x20, 0xC3, 0xA9, 0x0D, 0x0A, 0xE2]
    [[0x64, 0x61, 0x74, 0x61, 0x3A, 0x20, 0xC3], [], [0xA9, 0x0D], [0x0A, 0xE2]] rfl
  exact ⟨rfl, h.1.trans (by decide), h.2.2 [[0x64, 0x61, 0x74, 0x61, 0x3A, 0x20, 0xC3, 0xA9, 0x0D,
    0x0A, 0xE2]] rfl⟩

end Parser

end ChatRelay.Stream
