import Mathlib.Data.List.DropRight
import ChatRelay.Proofs.Stream.Writes
import ChatRelay.Proofs.Text.Trim
import ChatRelay.Proofs.Utf8.Length

/-!
A parser over its whole life, in which chunks are fed to it and it is ended from outside at any
time. Between two calls it waits with what the unfinished line has decoded to, or it is done and
holds nothing; what it holds is bounded by the unfinished line, and nothing comes out of it behind
an end marker.
-/

namespace ChatRelay.Stream

/-! ### The unfinished line -/

/-- The bytes behind the last line feed. -/
def unfinished (bytes : List UInt8) : List UInt8 := bytes.rtakeWhile (· != lineFeed)

theorem unfinished_of_not_mem {piece : List UInt8} (h : lineFeed ∉ piece) :
    unfinished piece = piece := by
  apply List.rtakeWhile_eq_self_iff.mpr
  intro b hb
  apply bne_iff_ne.mpr
  rintro rfl
  exact h hb

theorem unfinished_line (piece rest : List UInt8) :
    unfinished (piece ++ lineFeed :: rest) = unfinished rest := by
  induction rest using List.reverseRecOn with
  | nil => exact List.rtakeWhile_concat_neg _ _ _ (by decide)
  | append_singleton rest b ih =>
    rw [← List.cons_append, ← List.append_assoc, unfinished, unfinished, List.rtakeWhile_concat,
      List.rtakeWhile_concat]
    split
    · exact congrArg (· ++ [b]) ih
    · rfl

/-- What is behind the last line of the decoded text is what the unfinished line decodes to. -/
theorem last_of_run (bytes : List UInt8) :
    (cutLines (Utf8.replace (Utf8.run none bytes).1)).2 =
        Utf8.replace (Utf8.run none (unfinished bytes)).1 ∧
      (Utf8.run none bytes).2 = (Utf8.run none (unfinished bytes)).2 := by
  induction bytes using separator_induction lineFeed with
  | last piece h =>
    have hn : '\n' ∉ Utf8.replace (Utf8.run none piece).1 := fun hm =>
      h (Utf8.byte_mem_of_ascii_mem_replace Utf8.begun_none (by decide) hm)
    rw [cutLines_of_not_mem hn, unfinished_of_not_mem h]
    exact ⟨rfl, rfl⟩
  | line piece rest h ih =>
    obtain ⟨htext, htail⟩ := Utf8.run_ascii piece rest (b := lineFeed) (by decide)
    have hc : Char.ofNat lineFeed.toNat = '\n' := rfl
    rw [htext, htail, hc, cutLines_line (newline_not_mem_decodeLossy h), unfinished_line]
    exact ih

theorem newline_not_mem_lines (text : List Char) : ∀ line ∈ (cutLines text).1, '\n' ∉ line := by
  induction text using separator_induction '\n' with
  | last line h =>
    rw [cutLines_of_not_mem h]
    exact List.forall_mem_nil _
  | line line rest h ih =>
    rw [cutLines_line h]
    exact List.forall_mem_cons.mpr ⟨h, ih⟩

/-! ### Frames -/

/-- What every frame that comes out of a parser keeps: a payload is trimmed and is no end marker,
a progress line begins as one, and neither goes over a line end. -/
def Frame.Sound : Frame → Prop
  | .data payload =>
    Text.trim payload.toList = payload.toList ∧ '\n' ∉ payload.toList ∧
      payload.toList ∉ sentinels
  | .progress line => progressStart <+: line.toList ∧ '\n' ∉ line.toList
  | .done => True

theorem sound_of_ofLine? {line : List Char} {frame : Frame} (hline : '\n' ∉ line)
    (h : Frame.ofLine? line = some frame) : frame.Sound := by
  rcases line_cases line with ⟨rest, rfl⟩ | ⟨rest, rfl⟩ | hnone
  · rw [ofLine?_data] at h
    split at h
    · cases h
      trivial
    · rename_i hsentinel
      cases h
      rw [Frame.Sound, String.toList_ofList]
      have hrest : '\n' ∉ Text.trim rest := fun hm =>
        hline (List.mem_append_right _ (Text.trim_subset rest hm))
      exact ⟨Text.trim_trim rest, hrest, hsentinel⟩
  · rw [ofLine?_progress] at h
    cases h
    rw [Frame.Sound, String.toList_ofList]
    exact ⟨List.prefix_append _ _, hline⟩
  · rw [hnone] at h
    cases h

/-- Behind an end marker there is no frame, and so there is one at most. -/
theorem eq_nil_of_throughDone {frames front back : List Frame} (h : throughDone frames = frames)
    (hframes : frames = front ++ .done :: back) : .done ∉ front ∧ back = [] := by
  induction front generalizing frames with
  | nil =>
    rw [hframes, List.nil_append, throughDone] at h
    exact ⟨List.not_mem_nil, (List.cons.inj h).2.symm⟩
  | cons frame front ih =>
    by_cases hf : frame = .done
    · rw [hframes, hf, List.cons_append, throughDone] at h
      exact absurd (List.cons.inj h).2.symm (by simp)
    · rw [hframes, List.cons_append, throughDone_cons hf] at h
      obtain ⟨hfront, hback⟩ := ih (List.cons.inj h).2 rfl
      exact ⟨fun hm => (List.mem_cons.mp hm).elim (fun he => hf he.symm) hfront, hback⟩

theorem throughDone_throughDone (frames : List Frame) :
    throughDone (throughDone frames) = throughDone frames := by
  induction frames with
  | nil => rfl
  | cons frame frames ih =>
    by_cases hf : frame = .done
    · rw [hf]
      rfl
    · rw [throughDone_cons hf, throughDone_cons hf, ih]

theorem mem_of_mem_throughDone {frame : Frame} {frames : List Frame}
    (h : frame ∈ throughDone frames) : frame ∈ frames := by
  induction frames with
  | nil => exact h
  | cons first frames ih =>
    by_cases hf : first = .done
    · rw [hf] at h ⊢
      exact List.mem_singleton.mp h ▸ List.mem_cons_self
    · rw [throughDone_cons hf] at h
      rcases List.mem_cons.mp h with rfl | h
      · exact List.mem_cons_self
      · exact List.mem_cons_of_mem _ (ih h)

namespace Parser

theorem sound_of_mem_framesOfLines {lines : List (List Char)} (hlines : ∀ line ∈ lines, '\n' ∉ line)
    {frame : Frame} (h : frame ∈ framesOfLines lines) : frame.Sound := by
  obtain ⟨line, hmem, hline⟩ := List.mem_filterMap.mp (mem_of_mem_throughDone h)
  refine sound_of_ofLine? (fun hm => hlines line hmem ?_) hline
  obtain ⟨back, hback, -⟩ := Text.exists_dropEnd (· == '\r') line
  rw [hback]
  exact List.mem_append_left _ hm

/-! ### Calls -/

/-- What is done to a parser from outside. -/
inductive Call where
  | feed (chunk : List UInt8)
  | finish
  | cancel

/-- The bytes that a call feeds. -/
def Call.bytes : Call → List UInt8
  | .feed chunk => chunk
  | .finish | .cancel => []

def call (p : Parser) : Call → List Frame × Parser
  | .feed chunk => p.feed chunk
  | .finish => ([], p.finish)
  | .cancel => ([], p.cancel)

/-- The frames that come out of a parser over some calls, and the parser after them. -/
def follow (p : Parser) : List Call → List Frame × Parser
  | [] => ([], p)
  | c :: calls =>
    let (frames, p) := p.call c
    let (more, p) := p.follow calls
    (frames ++ more, p)

theorem follow_cons (p : Parser) (c : Call) (calls : List Call) :
    p.follow (c :: calls) = ((p.call c).1 ++ ((p.call c).2.follow calls).1,
      ((p.call c).2.follow calls).2) := rfl

/-- A parser between two calls, after some bytes: it waits with what the unfinished line has
decoded to, or it is done. -/
inductive After (fed : List UInt8) : Parser → Prop where
  | waiting : After fed ⟨.awaitingChunk, Utf8.replace (Utf8.run none (unfinished fed)).1,
      (Utf8.run none (unfinished fed)).2⟩
  | done : After fed ⟨.done, [], none⟩

theorem after_fresh : After [] fresh := .waiting

/-- One call takes a parser after some bytes to one after these and its own. -/
theorem After.call {fed : List UInt8} {p : Parser} (hp : After fed p) (c : Call) :
    After (fed ++ c.bytes) (p.call c).2 := by
  cases c with
  | finish => exact .done
  | cancel => exact .done
  | feed chunk =>
    cases hp with
    | done => exact .done
    | waiting =>
      rw [Parser.call, ← (last_of_run fed).1, ← (last_of_run fed).2, feed_waiting]
      dsimp only
      split
      · exact .done
      · -- The line goes on with the chunk as if both had been fed at once.
        have htext : (cutLines (Utf8.replace (Utf8.run none (fed ++ chunk)).1)).2 =
            (cutLines ((cutLines (Utf8.replace (Utf8.run none fed).1)).2 ++
              Utf8.replace (Utf8.run (Utf8.run none fed).2 chunk).1)).2 := by
          rw [Utf8.run_append, Utf8.replace, List.map_append, ← Utf8.replace, ← Utf8.replace,
            cutLines_append]
        have htail : (Utf8.run none (fed ++ chunk)).2 =
            (Utf8.run (Utf8.run none fed).2 chunk).2 := by
          rw [Utf8.run_append]
        rw [← htext, ← htail, (last_of_run _).1, (last_of_run _).2]
        exact .waiting

theorem After.follow {fed : List UInt8} {p : Parser} (hp : After fed p) (calls : List Call) :
    After (fed ++ calls.flatMap Call.bytes) (p.follow calls).2 := by
  induction calls generalizing fed p with
  | nil =>
    rw [List.flatMap_nil, List.append_nil]
    exact hp
  | cons c calls ih =>
    rw [List.flatMap_cons, ← List.append_assoc]
    exact ih (hp.call c)

/-! ### Frames of a run -/

theorem call_done (c : Call) : call ⟨.done, [], none⟩ c = ([], ⟨.done, [], none⟩) := by
  cases c <;> rfl

theorem follow_done (calls : List Call) :
    Parser.follow ⟨.done, [], none⟩ calls = ([], ⟨.done, [], none⟩) := by
  induction calls with
  | nil => rfl
  | cons c calls ih =>
    rw [follow_cons, call_done, ih]
    rfl

theorem follow_append (p : Parser) (calls more : List Call) :
    p.follow (calls ++ more) =
      ((p.follow calls).1 ++ ((p.follow calls).2.follow more).1,
        ((p.follow calls).2.follow more).2) := by
  induction calls generalizing p with
  | nil => rfl
  | cons c calls ih =>
    simp only [List.cons_append, follow_cons, ih, List.append_assoc]

/-- The frames of one call are sound and end with the first end marker, with which the parser is
done. -/
theorem Resting.frames_call {p : Parser} (hp : p.Resting) (c : Call) :
    throughDone (p.call c).1 = (p.call c).1 ∧
      (.done ∈ (p.call c).1 → (p.call c).2 = ⟨.done, [], none⟩) ∧
      ∀ frame ∈ (p.call c).1, frame.Sound := by
  cases c with
  | finish => exact ⟨rfl, fun _ => rfl, List.forall_mem_nil _⟩
  | cancel => exact ⟨rfl, fun _ => rfl, List.forall_mem_nil _⟩
  | feed chunk =>
    cases hp with
    | done => exact ⟨rfl, fun _ => rfl, List.forall_mem_nil _⟩
    | waiting =>
      rw [Parser.call, feed_waiting]
      refine ⟨throughDone_throughDone _, fun hdone => if_pos hdone, ?_⟩
      exact fun frame hframe => sound_of_mem_framesOfLines (newline_not_mem_lines _) hframe

theorem Resting.call {p : Parser} (hp : p.Resting) (c : Call) : Resting (p.call c).2 := by
  cases c with
  | feed chunk => exact resting_feed hp chunk
  | finish => exact .done
  | cancel => exact .done

theorem Resting.frames_follow {p : Parser} (hp : p.Resting) (calls : List Call) :
    throughDone (p.follow calls).1 = (p.follow calls).1 ∧
      ∀ frame ∈ (p.follow calls).1, frame.Sound := by
  induction calls generalizing p with
  | nil => exact ⟨rfl, List.forall_mem_nil _⟩
  | cons c calls ih =>
    obtain ⟨hfirst, hdone, hsound⟩ := hp.frames_call c
    obtain ⟨hrest, hsound'⟩ := ih (hp.call c)
    constructor
    · by_cases hend : .done ∈ (p.call c).1
      · rw [follow_cons, hdone hend, follow_done, List.append_nil, hfirst]
      · exact (throughDone_append_of_not_mem hend _).trans (congrArg _ hrest)
    · exact List.forall_mem_append.mpr ⟨hsound, hsound'⟩

/-! ### What a parser holds -/

/-- What a parser may be between two calls, after some bytes. -/
structure Kept (fed : List UInt8) (p : Parser) : Prop where
  phase : p.phase = .awaitingChunk ∨ p.phase = .done
  empty : p.phase = .done → p.buffer = [] ∧ p.tail = none ∧ p.buffered = 0
  unfinished_line : '\n' ∉ p.buffer
  unfinished_character : ∃ c later, later ≠ [] ∧ String.utf8EncodeChar c = p.tail.held ++ later
  few_held : p.tail.held.length ≤ 3
  bounded : p.buffered ≤ 3 * (unfinished fed).length

theorem After.kept {fed : List UInt8} {p : Parser} (hp : After fed p) : Kept fed p := by
  cases hp with
  | done =>
    exact {
      phase := .inr rfl
      empty := fun _ => ⟨rfl, rfl, rfl⟩
      unfinished_line := List.not_mem_nil
      unfinished_character := Utf8.begun_none.exists_character
      few_held := Nat.zero_le _
      bounded := Nat.zero_le _ }
  | waiting =>
    have hbegun : Utf8.State.Begun (Utf8.run none (unfinished fed)).2 :=
      Utf8.begun_run Utf8.begun_none _
    have hlength := Utf8.length_run Utf8.begun_none (unfinished fed)
    exact {
      phase := .inl rfl
      empty := fun hdone => nomatch hdone
      unfinished_line := (last_of_run fed).1 ▸ newline_not_mem_last _
      unfinished_character := hbegun.exists_character
      few_held := hbegun.length_held_le
      bounded := by
        simp only [buffered, Utf8.State.held, List.length_nil] at hlength ⊢
        omega }

theorem After.eq_done {fed : List UInt8} {p : Parser} (hp : After fed p) (h : p.phase = .done) :
    p = ⟨.done, [], none⟩ := by
  cases hp with
  | waiting => cases h
  | done => rfl

/-- Whatever is fed to a fresh parser, and whenever it is ended from outside, it waits with an
unfinished line and an unfinished character that the bytes behind the last line feed bound, or it
is done for good and holds nothing. The frames are sound, and none comes behind an end marker. -/
theorem follow_fresh (calls : List Call) :
    Kept (calls.flatMap Call.bytes) (fresh.follow calls).2 ∧
      ((fresh.follow calls).2.phase = .done → ∀ more,
        (fresh.follow (calls ++ more)).1 = (fresh.follow calls).1 ∧
          (fresh.follow (calls ++ more)).2.phase = .done) ∧
      (∀ front back, (fresh.follow calls).1 = front ++ .done :: back →
        .done ∉ front ∧ back = []) ∧
      ∀ frame ∈ (fresh.follow calls).1, frame.Sound := by
  have hafter : After (calls.flatMap Call.bytes) (fresh.follow calls).2 :=
    after_fresh.follow calls
  obtain ⟨hframes, hsound⟩ := resting_fresh.frames_follow calls
  refine ⟨hafter.kept, fun hdone more => ?_, ?_, hsound⟩
  · rw [follow_append, hafter.eq_done hdone, follow_done]
    exact ⟨List.append_nil _, rfl⟩
  · exact fun front back hsplit => eq_nil_of_throughDone hframes hsplit

/-- A message cut inside its `é`, and an end marker with the beginning of a line behind it. -/
def markedCalls : List Call :=
  [.feed (Utf8.encode dataStart ++ [0xC3]), .feed (0xA9 :: Utf8.encode "\ndata: [DONE]\nda".toList)]

/-- A line behind the end marker. -/
def lateCalls : List Call := [.feed (Utf8.encode "data: x\n".toList), .cancel]

theorem follow_markedCalls :
    (fresh.follow markedCalls).1 = [.data "é"] ++ .done :: [] ∧
      (fresh.follow markedCalls).2.phase = .done ∧
      Kept (markedCalls.flatMap Call.bytes) (fresh.follow markedCalls).2 ∧
      (fresh.follow (markedCalls ++ lateCalls)).1 = (fresh.follow markedCalls).1 ∧
      (fresh.follow (markedCalls ++ lateCalls)).2.phase = .done ∧
      Frame.done ∉ [Frame.data "é"] ∧ Frame.Sound (.data "é") := by
  have hframes : (fresh.follow markedCalls).1 = [.data "é"] ++ .done :: [] := by decide +kernel
  have hdone : (fresh.follow markedCalls).2.phase = .done := by decide +kernel
  obtain ⟨hkept, hstays, hlast, hsound⟩ := follow_fresh markedCalls
  have hmem : Frame.data "é" ∈ (fresh.follow markedCalls).1 := by
    rw [hframes]
    exact List.mem_cons_self
  obtain ⟨hlater, hphase⟩ := hstays hdone lateCalls
  exact ⟨hframes, hdone, hkept, hlater, hphase, (hlast _ _ hframes).1, hsound _ hmem⟩

end Parser

end ChatRelay.Stream
