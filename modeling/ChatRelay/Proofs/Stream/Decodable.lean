import ChatRelay.Proofs.Stream.Markers
import ChatRelay.Proofs.Stream.Writes
import ChatRelay.Proofs.Text.Trim

/-!
A generate stream can be taken apart again. Each write shows by itself where it ends: a payload is
a JSON object with nothing behind it, a marker the text of one between two tags, and the first
character tells the one from the other. So no write is the beginning of another one, and the
writes are the only list of writes with the text that the client receives.
-/

namespace ChatRelay

/-! ### Words of which none begins another -/

/-- Lists of words are the same if their concatenations are, if no word is empty and none is the
beginning of another. -/
theorem eq_of_flatten_eq {α : Type} {ws ws' : List (List α)} (hws : ∀ w ∈ ws, w ≠ [])
    (hws' : ∀ w' ∈ ws', w' ≠ [])
    (hfree : ∀ w ∈ ws, ∀ w' ∈ ws', w <+: w' ∨ w' <+: w → w = w')
    (h : ws.flatten = ws'.flatten) : ws = ws' := by
  induction ws generalizing ws' with
  | nil =>
    cases ws' with
    | nil => rfl
    | cons w' ws' =>
      rw [List.flatten_nil, List.flatten_cons] at h
      exact absurd (List.append_eq_nil_iff.mp h.symm).1 (hws' w' List.mem_cons_self)
  | cons w ws ih =>
    cases ws' with
    | nil =>
      rw [List.flatten_nil, List.flatten_cons] at h
      exact absurd (List.append_eq_nil_iff.mp h).1 (hws w List.mem_cons_self)
    | cons w' ws' =>
      rw [List.flatten_cons, List.flatten_cons] at h
      -- Of two beginnings of one list the shorter one begins the other.
      have hbegins : w <+: w' ∨ w' <+: w :=
        List.prefix_or_prefix_of_prefix (List.prefix_append w _)
          (h ▸ List.prefix_append w' ws'.flatten)
      have hfirst := hfree w List.mem_cons_self w' List.mem_cons_self hbegins
      subst hfirst
      have hrest : ws = ws' := by
        apply ih
        · exact fun v hv => hws v (List.mem_cons_of_mem w hv)
        · exact fun v hv => hws' v (List.mem_cons_of_mem w hv)
        · exact fun v hv v' hv' =>
            hfree v (List.mem_cons_of_mem w hv) v' (List.mem_cons_of_mem w hv')
        · exact List.append_cancel_left h
      rw [hrest]

/-! ### Whole texts -/

/-- Behind a whole text of a value other than a number only blanks may be added. -/
theorem Json.skipBlanks_of_parse?_append {text more : List Char} {v v' : Json}
    (h : Json.parse? (String.ofList text) = some v) (hv : ∀ n, v ≠ .number n)
    (h' : Json.parse? (String.ofList (text ++ more)) = some v') :
    Json.Read.skipBlanks (Utf8.encode more) = [] := by
  obtain ⟨rest, hread, -⟩ := Json.exists_of_parse? h
  obtain ⟨rest', hread', hblanks⟩ := Json.exists_of_parse? h'
  have hmore := Json.Read.value_append hread hv (Utf8.encode more)
  rw [Utf8.bytes, String.toList_ofList, Utf8.encode_append] at hread'
  rw [Utf8.bytes, String.toList_ofList, hread'] at hmore
  obtain ⟨-, rfl⟩ := Prod.mk.inj (Except.ok.inj hmore)
  -- What is left over ends with what has been added.
  rw [Json.Read.skipBlanks, List.dropWhile_eq_nil_iff] at hblanks ⊢
  exact fun b hb => hblanks b (List.mem_append_right rest hb)

theorem Json.isBlank_of_skipBlanks {cs : List Char}
    (h : Json.Read.skipBlanks (Utf8.encode cs) = []) : ∀ c ∈ cs, Text.isBlank c = true := by
  intro c hc
  rw [Json.Read.skipBlanks, List.dropWhile_eq_nil_iff] at h
  obtain ⟨b, hb⟩ := List.exists_mem_of_ne_nil _ (String.utf8EncodeChar_ne_nil (c := c))
  have hblank := h b (List.mem_flatMap.mpr ⟨c, hc, hb⟩)
  exact Json.Read.isBlank_of_byte (Utf8.of_mem_encodeChar hb) hblank

namespace Stream

/-- No text that begins with a tag is JSON. -/
theorem parse?_tag (cs : List Char) : Json.parse? (String.ofList ('<' :: cs)) = none := by
  have hread : Json.Read.value Json.Read.depthLimit (Json.Read.byte '<' :: Utf8.encode cs) =
      .error .expectedValue := by
    rw [Json.Read.value.eq_def, Json.Read.skipBlanks_cons (by decide)]
    rfl
  rw [Json.parse?, Json.parse, Json.parseBytes, Utf8.bytes, String.toList_ofList,
    Utf8.encode_ascii_cons (by decide), Json.Read.entire, hread]
  rfl

/-- What begins as a marker does is not JSON, be it cut short or longer. -/
theorem parse?_of_append_eq_tag {front back cs : List Char} (h : front ++ back = '<' :: cs) :
    Json.parse? (String.ofList front) = none := by
  cases front with
  | nil => rfl
  | cons c front =>
    rw [(List.cons.inj h).1]
    exact parse?_tag front

theorem not_number_of_get? {v x : Json} {key : String} (h : v.get? key = some x) :
    ∀ n, v ≠ .number n := by
  rintro n rfl
  cases h

theorem Step.exists_marker (s : Step) : ∃ cs, s.marker.toList = '<' :: cs := by
  refine ⟨"intermediatestep>".toList ++ (s.write ++ closeTag), ?_⟩
  rw [s.toList_marker]
  rfl

theorem Renders.ne_empty {line : List Char} {text : String} (h : Renders .generate line text) :
    text ≠ "" := by
  cases h with
  | generated parsed found nonempty =>
    intro hempty
    rw [hempty] at parsed
    cases parsed
  | @progress _ rest value parsed =>
    intro hempty
    obtain ⟨cs, hcs⟩ := (Step.ofPayload value).exists_marker
    rw [hempty] at hcs
    cases hcs

/-- Of two writes of generate streams neither is a proper beginning of the other. -/
theorem Renders.eq_of_begins {line line' : List Char} {text text' : String}
    (h : Renders .generate line text) (h' : Renders .generate line' text')
    (hbegins : text.toList <+: text'.toList) : text = text' := by
  obtain ⟨more, hmore⟩ := hbegins
  cases h with
  | @generated rest value s parsed found nonempty =>
    rw [String.toList_ofList] at hmore
    cases h' with
    | @generated rest' value' s' parsed' found' nonempty' =>
      rw [String.toList_ofList] at hmore
      rw [← hmore] at parsed'
      have hblanks := Json.skipBlanks_of_parse?_append parsed (not_number_of_get? found) parsed'
      have hnil := Text.eq_nil_of_trim_eq_append hmore.symm (Json.isBlank_of_skipBlanks hblanks)
      rw [← hmore, hnil, List.append_nil]
    | @progress _ rest' value' parsed' =>
      -- The payload would begin as a marker does.
      obtain ⟨cs, hcs⟩ := (Step.ofPayload value').exists_marker
      rw [parse?_of_append_eq_tag (hmore.trans hcs)] at parsed
      cases parsed
  | @progress _ rest value parsed =>
    cases h' with
    | @generated rest' value' s' parsed' found' nonempty' =>
      obtain ⟨cs, hcs⟩ := (Step.ofPayload value).exists_marker
      rw [String.toList_ofList, hcs, List.cons_append] at hmore
      rw [← hmore, parse?_tag] at parsed'
      cases parsed'
    | @progress _ rest' value' parsed' => exact Step.eq_of_marker_begins ⟨more, hmore⟩

theorem exists_renders_of_mem_writes {flavor : Flavor} {events : List Event} {text : String}
    (h : text ∈ writes flavor events) : ∃ line, Renders flavor line text := by
  rw [writes_eq, List.mem_filterMap] at h
  obtain ⟨line, -, hline⟩ := h
  exact ⟨line, lineWrite?_eq_some_iff.mp hline⟩

/-! ### The writes -/

theorem writes_eq_of_join_eq {events events' : List Event}
    (h : String.join (writes .generate events) = String.join (writes .generate events')) :
    writes .generate events = writes .generate events' := by
  have hnonempty (events : List Event) :
      ∀ w ∈ (writes .generate events).map String.toList, w ≠ [] := by
    refine List.forall_mem_map.mpr fun text htext => ?_
    obtain ⟨line, hline⟩ := exists_renders_of_mem_writes htext
    exact mt String.toList_eq_nil_iff.mp hline.ne_empty
  have hfree : ∀ w ∈ (writes .generate events).map String.toList,
      ∀ w' ∈ (writes .generate events').map String.toList, w <+: w' ∨ w' <+: w → w = w' := by
    refine List.forall_mem_map.mpr fun text htext => List.forall_mem_map.mpr fun text' htext' => ?_
    obtain ⟨line, hline⟩ := exists_renders_of_mem_writes htext
    obtain ⟨line', hline'⟩ := exists_renders_of_mem_writes htext'
    rintro (hbegins | hbegins)
    · rw [hline.eq_of_begins hline' hbegins]
    · rw [hline'.eq_of_begins hline hbegins]
  have hflatten : ((writes .generate events).map String.toList).flatten =
      ((writes .generate events').map String.toList).flatten := by
    rw [← List.flatMap_def, ← List.flatMap_def, ← String.toList_join, ← String.toList_join, h]
  have hlists := eq_of_flatten_eq (hnonempty events) (hnonempty events') hfree hflatten
  exact List.map_injective_iff.mpr (fun _ _ => String.toList_inj.mp) hlists

/-- Streams of generated values whose clients receive the same text have the same writes. Every
write is what some line renders to; none is empty, and none is a proper beginning of another,
whatever the payloads and the fields of the steps hold. -/
theorem writes_generate_decodable (events events' : List Event) :
    (String.join (writes .generate events) = String.join (writes .generate events') →
      writes .generate events = writes .generate events') ∧
    (∀ text ∈ writes .generate events, ∃ line, Renders .generate line text) ∧
    (∀ line text, Renders .generate line text → text ≠ "") ∧
    ∀ line line' text text', Renders .generate line text → Renders .generate line' text' →
      text.toList <+: text'.toList → text = text' := by
  refine ⟨writes_eq_of_join_eq, ?_, ?_, ?_⟩
  · exact fun text htext => exists_renders_of_mem_writes htext
  · exact fun line text hline => hline.ne_empty
  · exact fun line line' text text' hline hline' hbegins => hline.eq_of_begins hline' hbegins

/-- A payload with a closing tag in its value. -/
def taggedPayload : List Char := "\x7b\"value\":\"</intermediatestep>\x7d\"\x7d".toList

/-- The payload, and a step that has tags and a brace in its fields. -/
def taggedLines : List UInt8 :=
  Utf8.encode (dataStart ++ taggedPayload ++ ['\n'] ++ progressStart ++
    "\x7b\"name\":\"</intermediatestep>\",\"payload\":\"\x7d<intermediatestep>\"\x7d\n".toList)

/-- The lines arrive at once or byte by byte, and the payload is the same with blanks around it. -/
theorem writes_taggedLines :
    String.join (writes .generate [.chunk taggedLines]) =
        String.join (writes .generate (taggedLines.map fun b => .chunk [b])) ∧
      writes .generate [.chunk taggedLines] =
        writes .generate (taggedLines.map fun b => .chunk [b]) ∧
      String.ofList taggedPayload ∈ writes .generate [.chunk taggedLines] ∧
      String.ofList taggedPayload ≠ "" ∧
      Renders .generate (dataStart ++ taggedPayload) (String.ofList taggedPayload) ∧
      Renders .generate (dataStart ++ ' ' :: taggedPayload)
        (String.ofList (Text.trim (' ' :: taggedPayload))) ∧
      String.ofList taggedPayload = String.ofList (Text.trim (' ' :: taggedPayload)) := by
  obtain ⟨hjoin, -, hne, hfree⟩ := writes_generate_decodable [.chunk taggedLines]
    (taggedLines.map fun b => .chunk [b])
  have hsame : String.join (writes .generate [.chunk taggedLines]) =
      String.join (writes .generate (taggedLines.map fun b => .chunk [b])) := by decide +kernel
  have hmem : String.ofList taggedPayload ∈ writes .generate [.chunk taggedLines] := by
    decide +kernel
  have hline : Renders .generate (dataStart ++ taggedPayload) (String.ofList taggedPayload) :=
    lineWrite?_eq_some_iff.mp (by decide +kernel)
  have hblank : Renders .generate (dataStart ++ ' ' :: taggedPayload)
      (String.ofList (Text.trim (' ' :: taggedPayload))) :=
    lineWrite?_eq_some_iff.mp (by decide +kernel)
  have hbegins : (String.ofList taggedPayload).toList <+:
      (String.ofList (Text.trim (' ' :: taggedPayload))).toList := by decide +kernel
  exact ⟨hsame, hjoin hsame, hmem, hne _ _ hline, hline, hblank,
    hfree _ _ _ _ hline hblank hbegins⟩

end Stream

end ChatRelay
