import ChatRelay.Proofs.Utf8.Decoding
import ChatRelay.Stream.Parser

/-!
The lines of a byte string, cut before anything is decoded, are the lines of the decoded text:
a line feed is never part of a longer sequence, and none comes out of other bytes.
-/

namespace ChatRelay.Stream

def lineFeed : UInt8 := 0x0A

/-- The pieces of a byte string that a line feed ends. -/
def byteLines (bytes : List UInt8) : List (List UInt8) := (bytes.splitOn lineFeed).dropLast

def lineText (piece : List UInt8) : List Char := dropReturns (Utf8.decodeLossy piece)

/-- The texts of the lines that a byte string completes. -/
def completeLines (bytes : List UInt8) : List (List Char) := (byteLines bytes).map lineText

/-! ### Lists and their first separator -/

/-- Every list is free of a separator or goes on behind the first one. -/
theorem separator_induction {α : Type*} [DecidableEq α] (sep : α) {motive : List α → Prop}
    (last : ∀ piece, sep ∉ piece → motive piece)
    (line : ∀ piece rest, sep ∉ piece → motive rest → motive (piece ++ sep :: rest))
    (xs : List α) : motive xs := by
  induction hn : xs.length using Nat.strongRecOn generalizing xs with
  | ind n ih =>
    by_cases h : sep ∈ xs
    · obtain ⟨piece, rest, hxs, hp⟩ := List.eq_append_cons_of_mem h
      rw [hxs, List.length_append, List.length_cons] at hn
      rw [hxs]
      exact line piece rest hp (ih rest.length (by omega) rest rfl)
    · exact last xs h

theorem byteLines_of_not_mem {piece : List UInt8} (h : lineFeed ∉ piece) :
    byteLines piece = [] := by
  rw [byteLines, List.splitOn_eq_singleton h]
  rfl

theorem byteLines_line {piece : List UInt8} (h : lineFeed ∉ piece) (rest : List UInt8) :
    byteLines (piece ++ lineFeed :: rest) = piece :: byteLines rest := by
  rw [byteLines, List.splitOn_append_cons_self_of_not_mem h,
    List.dropLast_cons_of_ne_nil (List.splitOn_ne_nil _ _)]
  rfl

theorem byteLines_append_of_not_mem (bytes : List UInt8) {piece : List UInt8}
    (h : lineFeed ∉ piece) : byteLines (bytes ++ piece) = byteLines bytes := by
  induction bytes using separator_induction lineFeed with
  | last front hf =>
    rw [byteLines_of_not_mem hf, byteLines_of_not_mem]
    exact fun hm => (List.mem_append.mp hm).elim hf h
  | line front rest hf ih =>
    rw [List.append_assoc, List.cons_append, byteLines_line hf, byteLines_line hf, ih]

/-! ### Cutting the decoded text -/

theorem cutLines_of_not_mem {text : List Char} (h : '\n' ∉ text) : cutLines text = ([], text) := by
  induction text with
  | nil => rfl
  | cons c rest ih =>
    obtain ⟨hc, hrest⟩ := List.ne_and_not_mem_of_not_mem_cons h
    simp only [cutLines, ih hrest, if_neg (Ne.symm hc)]

theorem cutLines_line {line : List Char} (h : '\n' ∉ line) (rest : List Char) :
    cutLines (line ++ '\n' :: rest) = (line :: (cutLines rest).1, (cutLines rest).2) := by
  induction line with
  | nil => simp only [List.nil_append, cutLines, if_pos]
  | cons c line ih =>
    obtain ⟨hc, hline⟩ := List.ne_and_not_mem_of_not_mem_cons h
    simp only [List.cons_append, cutLines, ih hline, if_neg (Ne.symm hc)]

theorem cutLines_append (a b : List Char) :
    cutLines (a ++ b) = ((cutLines a).1 ++ (cutLines ((cutLines a).2 ++ b)).1,
      (cutLines ((cutLines a).2 ++ b)).2) := by
  induction a using separator_induction '\n' with
  | last line h => rw [cutLines_of_not_mem h, List.nil_append]
  | line line rest h ih =>
    rw [List.append_assoc, List.cons_append, cutLines_line h, cutLines_line h, ih]
    rfl

theorem newline_not_mem_last (text : List Char) : '\n' ∉ (cutLines text).2 := by
  induction text using separator_induction '\n' with
  | last line h => rwa [cutLines_of_not_mem h]
  | line line rest h ih => rwa [cutLines_line h]

theorem last_of_no_lines {text : List Char} (h : (cutLines text).1 = []) :
    (cutLines text).2 = text := by
  induction text using separator_induction '\n' with
  | last line hl => rw [cutLines_of_not_mem hl]
  | line line rest hl ih =>
    rw [cutLines_line hl] at h
    cases h

theorem newline_not_mem_decodeLossy {piece : List UInt8} (h : lineFeed ∉ piece) :
    '\n' ∉ Utf8.decodeLossy piece := by
  intro hm
  rcases List.mem_append.mp hm with hm | hm
  · exact h (Utf8.byte_mem_of_ascii_mem_replace Utf8.begun_none (by decide) hm)
  · split at hm <;> simp at hm

/-- Cutting and decoding commute: the lines of the decoded text are the decoded lines. -/
theorem lines_of_run (bytes : List UInt8) :
    (cutLines (Utf8.replace (Utf8.run none bytes).1)).1 =
      (byteLines bytes).map Utf8.decodeLossy := by
  induction bytes using separator_induction lineFeed with
  | last piece h =>
    have hn : '\n' ∉ Utf8.replace (Utf8.run none piece).1 := fun hm =>
      h (Utf8.byte_mem_of_ascii_mem_replace Utf8.begun_none (by decide) hm)
    rw [cutLines_of_not_mem hn, byteLines_of_not_mem h]
    rfl
  | line piece rest h ih =>
    -- The line feed closes the text of the piece, and decoding starts afresh behind it.
    have hrun := (Utf8.run_ascii piece rest (b := lineFeed) (by decide)).1
    have hc : Char.ofNat lineFeed.toNat = '\n' := rfl
    rw [hrun, hc, cutLines_line (newline_not_mem_decodeLossy h), ih, byteLines_line h]
    rfl

end ChatRelay.Stream
