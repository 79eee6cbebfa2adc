import ChatRelay.Endpoint.Answer
import ChatRelay.Proofs.Utf8.Decoding

/-!
How the failure of a backend goes back to the client. Every endpoint answers it alike and under
its own status. The body is read as text before it is sent, so that it comes back as it was if it
is UTF-8, has no byte-order mark, and is read in no other character set.
-/

namespace ChatRelay

/-! ### Bytes that come back -/

/-- No text is written with a byte in front that begins no character. -/
theorem Utf8.encode_ne_cons {b : UInt8} (hb : start b = ([none], none)) (cs : List Char)
    (rest : List UInt8) : encode cs ≠ b :: rest := by
  intro h
  have hread : decodeLossy (b :: rest) = '\uFFFD' :: decodeLossy rest := by
    apply decodeLossy_of_run
    rw [run_cons, step, hb]
    rfl
  have hcs : cs = '\uFFFD' :: decodeLossy rest := by
    rw [← hread, ← h, decodeLossy_encode]
  -- The byte would then be the first one of the mark for what is malformed.
  rw [hcs, encode_cons] at h
  have hfirst : b = 0xEF := (List.cons.inj h).1.symm
  rw [hfirst] at hb
  exact absurd hb (by decide)

namespace Text.Charset

def utf8Mark : List UInt8 := [0xEF, 0xBB, 0xBF]

/-- A byte-order mark of UTF-8 is taken off, whatever else is said about the bytes. -/
theorem read_utf8Mark (label : Option String) (rest : List UInt8) :
    read label (utf8Mark ++ rest) = Utf8.decodeLossy rest := rfl

theorem encode_read_utf8Mark_ne (label : Option String) (rest : List UInt8) :
    Utf8.encode (read label (utf8Mark ++ rest)) ≠ utf8Mark ++ rest := by
  intro h
  have hmark : utf8Mark ++ rest = String.utf8EncodeChar '\uFEFF' ++ rest := rfl
  have hread := congrArg Utf8.decodeLossy h
  rw [read_utf8Mark, Utf8.decodeLossy_encode, hmark, Utf8.decodeLossy_encodeChar_append] at hread
  -- A text would be as long as itself with the mark before it.
  have hlength := congrArg List.length hread
  rw [List.length_cons] at hlength
  omega

theorem ofMark?_encode {cs : List Char} (h : ¬ utf8Mark <+: Utf8.encode cs) :
    ofMark? (Utf8.encode cs) = none := by
  unfold ofMark?
  split
  · rename_i rest hbytes
    exact absurd ⟨rest, hbytes.symm⟩ h
  · rename_i rest hbytes
    exact absurd hbytes (Utf8.encode_ne_cons (by decide) cs _)
  · rename_i rest hbytes
    exact absurd hbytes (Utf8.encode_ne_cons (by decide) cs _)
  · rfl

/-- Text without a mark is read as it was written where no other character set is named. -/
theorem read_encode {label : Option String}
    (hlabel : label = none ∨ label.bind ofLabel? = some .utf8) {cs : List Char}
    (h : ¬ utf8Mark <+: Utf8.encode cs) : read label (Utf8.encode cs) = cs := by
  have hset : (label.bind ofLabel?).getD .utf8 = .utf8 := by
    rcases hlabel with rfl | hlabel
    · rfl
    · rw [hlabel, Option.getD_some]
  rw [read, ofMark?_encode h]
  dsimp only
  rw [hset]
  exact Utf8.decodeLossy_encode cs

end Text.Charset

/-! ### Failures -/

open Text.Charset (utf8Mark)

/-- The character set that a content type names. -/
def Reply.charset? (r : Reply) : Option String :=
  (Http.Header.find? "content-type" r.headers).bind Http.MediaType.charset?

/-- That a content type names no character set, or UTF-8. -/
def Reply.NamesUtf8 (r : Reply) : Prop :=
  r.charset? = none ∨ r.charset?.bind Text.Charset.ofLabel? = some .utf8

namespace Endpoint

variable {r : Reply} {bytes : List UInt8}

theorem answer_of_failure (h : Http.isSuccess r.status = false) (e : Endpoint) (origin : String) :
    e.answer origin r = r.relayed := by
  have hfailed : ¬ Http.isSuccess r.status = true := Bool.eq_false_iff.mp h
  cases e with
  | generate => exact if_neg hfailed
  | generateStream => exact if_neg hfailed
  | chat => exact if_neg hfailed
  | chatStream => exact if_neg hfailed
  | rag => exact if_neg hfailed

theorem body_relayed (h : Reply.bytes? r.events = some bytes) :
    r.relayed.body = Utf8.encode (Text.Charset.read r.charset? bytes) := by
  have htext : r.text? = some (String.ofList (Text.Charset.read r.charset? bytes)) := by
    rw [Reply.text?, h, Option.map_some]
    rfl
  rw [Reply.relayed, htext, Option.getD_some, Http.Response.ofText, Utf8.bytes,
    String.toList_ofList]

/-- A failure whose body can be read goes back under its status, alike from all endpoints. A body
that comes back as it was is UTF-8 and has no byte-order mark, and such a body does come back so
if the content type names no other character set. -/
theorem answer_failure (hstatus : Http.isSuccess r.status = false)
    (hbody : Reply.bytes? r.events = some bytes) (e : Endpoint) (origin : String) :
    (e.answer origin r).status = r.status ∧
      (∀ e' origin', Endpoint.answer e' origin' r = e.answer origin r) ∧
      ((e.answer origin r).body = bytes →
        (∃ cs, bytes = Utf8.encode cs) ∧ ¬ utf8Mark <+: bytes) ∧
      (r.NamesUtf8 → (∃ cs, bytes = Utf8.encode cs) → ¬ utf8Mark <+: bytes →
        (e.answer origin r).body = bytes) := by
  have hanswer : ∀ e' origin', Endpoint.answer e' origin' r = r.relayed :=
    fun e' origin' => answer_of_failure hstatus e' origin'
  rw [hanswer e origin, body_relayed hbody]
  refine ⟨rfl, hanswer, ?_, ?_⟩
  · intro hsame
    refine ⟨⟨_, hsame.symm⟩, ?_⟩
    rintro ⟨rest, rfl⟩
    exact Text.Charset.encode_read_utf8Mark_ne _ rest hsame
  · rintro hutf8 ⟨cs, rfl⟩ hmark
    rw [Text.Charset.read_encode hutf8 hmark]

/-- A failure whose body is cut inside a character. -/
def cutFailure : Reply :=
  ⟨503, [⟨"content-type", "text/plain; charset=\"UTF-8\""⟩], [.chunk [0xC3], .chunk [0xA9], .ended]⟩

theorem answer_cutFailure :
    Http.isSuccess cutFailure.status = false ∧
      Reply.bytes? cutFailure.events = some [0xC3, 0xA9] ∧ cutFailure.NamesUtf8 ∧
      ([0xC3, 0xA9] : List UInt8) = Utf8.encode ['é'] ∧
      ¬ utf8Mark <+: ([0xC3, 0xA9] : List UInt8) ∧
      (Endpoint.chat.answer "*" cutFailure).status = 503 ∧
      Endpoint.generateStream.answer "null" cutFailure = Endpoint.chat.answer "*" cutFailure ∧
      (Endpoint.chat.answer "*" cutFailure).body = [0xC3, 0xA9] := by
  have hstatus : Http.isSuccess cutFailure.status = false := rfl
  have hbody : Reply.bytes? cutFailure.events = some [0xC3, 0xA9] := rfl
  have hutf8 : cutFailure.NamesUtf8 := .inr (by decide +kernel)
  have htext : ([0xC3, 0xA9] : List UInt8) = Utf8.encode ['é'] := by decide +kernel
  have hmark : ¬ utf8Mark <+: ([0xC3, 0xA9] : List UInt8) := by decide
  obtain ⟨hsame, halike, -, hback⟩ := answer_failure hstatus hbody .chat "*"
  exact ⟨hstatus, hbody, hutf8, htext, hmark, hsame, halike .generateStream "null",
    hback hutf8 ⟨_, htext⟩ hmark⟩

/-- Of a failure the client is not sent the bytes of the backend if they are no UTF-8, or if they
begin with a byte-order mark. -/
theorem answer_failure_rewritten :
    (Reply.bytes? [.chunk [0xFF]] = some [0xFF] ∧
      ∀ e : Endpoint, (e.answer "*" ⟨500, [], [.chunk [0xFF]]⟩).body = [0xEF, 0xBF, 0xBD]) ∧
    ∀ e : Endpoint, (e.answer "*" ⟨500, [], [.chunk (utf8Mark ++ [0x41])]⟩).body = [0x41] := by
  refine ⟨⟨rfl, fun e => ?_⟩, fun e => ?_⟩
  · cases e <;> decide +kernel
  · cases e <;> decide +kernel

end Endpoint

end ChatRelay
