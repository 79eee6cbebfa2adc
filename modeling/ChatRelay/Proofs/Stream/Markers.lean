import ChatRelay.Proofs.Json.Brackets
import ChatRelay.Proofs.Json.Numbers
import ChatRelay.Stream.Step

/-!
The text of a marker: two tags around the JSON text of a step. The text of the step shows where it
ends, so that a marker has only one end, whatever tags the fields of the step hold; and it is read
as the step, as far as numbers are read back.
-/

namespace ChatRelay

namespace Stream

open Json (Nested Occurs)
open Json.Read

/-- The members of a step in the order in which they are written. -/
def Step.fields (s : Step) : List (String × Json) :=
  [("id", s.id),
    ("status", s.status),
    ("error", s.error),
    ("type", .string stepType),
    ("parent_id", s.parentId),
    ("intermediate_parent_id", s.intermediateParentId),
    ("content", .object [("name", s.name), ("payload", s.payload)]),
    ("time_stamp", s.timeStamp)]

theorem Step.write_eq (s : Step) : s.write = (Json.object s.fields).write := by
  have htype : Json.quote stepType = (Json.string stepType).write := by rw [Json.write]
  have hcontent : Json.writeRecord [("name", s.name.write), ("payload", s.payload.write)] =
      (Json.object [("name", s.name), ("payload", s.payload)]).write :=
    Json.writeRecord_write [("name", s.name), ("payload", s.payload)]
  rw [Step.write, htype, hcontent]
  exact Json.writeRecord_write s.fields

theorem Step.toList_marker (s : Step) : s.marker.toList = openTag ++ (s.write ++ closeTag) := by
  rw [Step.marker, String.toList_ofList, List.append_assoc]

/-- Neither tag goes on with a number. -/
theorem endsNumber_closeTag (more : List Char) :
    EndsNumber (Utf8.encode (closeTag ++ more)) := by
  have hclose : closeTag = '<' :: "/intermediatestep>".toList := rfl
  intro b hb
  rw [hclose, List.cons_append, Utf8.encode_ascii_cons (by decide), List.head?_cons,
    Option.mem_some_iff] at hb
  rw [← hb]
  decide

/-- The step of a marker is passed over up to its closing tag. -/
theorem Step.skipValue_write (s : Step) (more : List Char) :
    skipValue (Utf8.encode (s.write ++ (closeTag ++ more))) =
      .ok ((), Utf8.encode (closeTag ++ more)) := by
  rw [s.write_eq, Utf8.encode_append]
  exact reads_skipValue (.object s.fields) _ (endsNumber_closeTag more)

/-- A marker is no proper beginning of another one. -/
theorem Step.eq_of_marker_begins {s s' : Step} (h : s.marker.toList <+: s'.marker.toList) :
    s.marker = s'.marker := by
  rw [s.toList_marker, s'.toList_marker, List.prefix_append_right_inj] at h
  obtain ⟨more, hmore⟩ := h
  -- Both steps are passed over in the same text, and what is left over is the same.
  have hleft := s.skipValue_write more
  have hright := s'.skipValue_write []
  rw [List.append_nil, ← hmore, List.append_assoc, hleft] at hright
  obtain ⟨-, hrest⟩ := Prod.mk.inj (Except.ok.inj hright)
  have hnil : more = [] := by
    have hlength := congrArg List.length hrest
    have hchars := Utf8.length_le_length_encode more
    rw [Utf8.encode_append, List.length_append] at hlength
    exact List.eq_nil_of_length_eq_zero (by omega)
  rw [hnil, List.append_nil] at hmore
  rw [Step.marker, Step.marker, List.append_assoc, List.append_assoc, hmore]

/-! ### Reading the step -/

/-- A field that is not its default is a member of the payload. -/
theorem fieldOr_cases (v : Json) (key default : String) :
    Step.fieldOr v key default = .string default ∨
      ∃ ms, v = .object ms ∧ (key, Step.fieldOr v key default) ∈ ms := by
  cases v with
  | object ms =>
    cases hget : Json.Members.get? key ms with
    | none =>
      have hgiven : (Json.object ms).get? key = none := hget
      exact .inl (by rw [Step.fieldOr, hgiven])
    | some field =>
      have hgiven : (Json.object ms).get? key = some field := hget
      rw [Step.fieldOr, hgiven]
      dsimp only
      split
      · exact .inr ⟨ms, rfl, Json.Members.mem_of_get? hget⟩
      · exact .inl rfl
  | _ => exact .inl rfl

theorem nested_fieldOr {depth : Nat} {v : Json} (h : Nested (depth + 1) v) (key default : String) :
    Nested depth (Step.fieldOr v key default) := by
  rcases fieldOr_cases v key default with hdefault | ⟨ms, rfl, hmem⟩
  · rw [hdefault]
    exact .string default
  · cases h with
    | object hms _ => exact hms _ hmem

theorem occurs_of_fieldOr {n : Json.Number} {v : Json} {key default : String}
    (h : Occurs n (Step.fieldOr v key default)) : Occurs n v := by
  rcases fieldOr_cases v key default with hdefault | ⟨ms, rfl, hmem⟩
  · rw [hdefault] at h
    cases h
  · exact .member hmem h

/-- What holds of each field of a payload, of the type and of the content holds of all fields of
the step. -/
theorem Step.forall_mem_fields {v : Json} {P : Json → Prop}
    (field : ∀ key default, P (Step.fieldOr v key default)) (type : P (.string stepType))
    (content : P (.object [("name", (Step.ofPayload v).name),
      ("payload", (Step.ofPayload v).payload)])) :
    ∀ m ∈ (Step.ofPayload v).fields, P m.2 := by
  intro m hm
  simp only [Step.fields, List.mem_cons, List.not_mem_nil, or_false] at hm
  rcases hm with rfl | rfl | rfl | rfl | rfl | rfl | rfl | rfl
  · exact field "id" ""
  · exact field "status" "in_progress"
  · exact field "error" ""
  · exact type
  · exact field "parent_id" "default"
  · exact field "intermediate_parent_id" "default"
  · exact content
  · exact field "time_stamp" "default"

/-- The content of a step is one level deeper than its other fields, which are as deep as in the
payload. -/
theorem Step.nested_fields {depth : Nat} {v : Json} (h : Nested (depth + 1) v) :
    ∀ m ∈ (Step.ofPayload v).fields, Nested (depth + 1) m.2 := by
  have hcontent : Nested (depth + 1) (.object [("name", (Step.ofPayload v).name),
      ("payload", (Step.ofPayload v).payload)]) := by
    apply Nested.object
    · exact List.forall_mem_cons.mpr ⟨nested_fieldOr h "name" "Step",
        List.forall_mem_singleton.mpr (nested_fieldOr h "payload" "No details")⟩
    · exact Json.Members.ordered_ofList [("name", (Step.ofPayload v).name),
        ("payload", (Step.ofPayload v).payload)]
  refine Step.forall_mem_fields ?_ (.string stepType) hcontent
  exact fun key default => (nested_fieldOr h key default).mono (Nat.le_succ depth)

/-- A number in a step comes from its payload. -/
theorem Step.occurs_of_fields {n : Json.Number} {v : Json} :
    ∀ m ∈ (Step.ofPayload v).fields, Occurs n m.2 → Occurs n v := by
  apply Step.forall_mem_fields (P := fun x => Occurs n x → Occurs n v)
  · exact fun key default => occurs_of_fieldOr
  · exact fun hn => nomatch hn
  · intro hn
    cases hn with
    | member hm hn =>
      simp only [List.mem_cons, List.not_mem_nil, or_false] at hm
      rcases hm with rfl | rfl
      · exact occurs_of_fieldOr hn
      · exact occurs_of_fieldOr hn

/-- The fields of a step made from what has been read are read, if the doubles in them are read
back and one more level is allowed than for the payload. -/
theorem Step.reads_fields {text : String} {v : Json} (parsed : Json.parse? text = some v)
    {depth : Nat} (nested : Nested (depth + 1) v)
    (doubles : ∀ m ∈ (Step.ofPayload v).fields, ∀ x, Occurs (.real x) m.2 →
      NumberReadsBack (.real x)) :
    ∀ m ∈ (Step.ofPayload v).fields, Reads (value (depth + 1)) m.2.write m.2 := by
  obtain ⟨rest, hread, -⟩ := Json.exists_of_parse? parsed
  intro m hm
  have hback := readsBack_of_nested (Step.nested_fields nested m hm)
    (fun n hn => fits_of_value hread n (Step.occurs_of_fields m hm hn)) (doubles m hm)
  exact hback.reads

/-- A step made from what has been read is read as the step, if the doubles in it are read back. -/
theorem Step.entire_write {text : String} {v : Json} (parsed : Json.parse? text = some v)
    (doubles : ∀ x, Occurs (.real x) (.object (Step.ofPayload v).fields) →
      NumberReadsBack (.real x)) :
    entire (value (depthLimit + 1)) (Utf8.encode (Step.ofPayload v).write) =
      .ok (Json.ofMembers (Step.ofPayload v).fields) := by
  obtain ⟨rest, hread, -⟩ := Json.exists_of_parse? parsed
  have hnested : Nested (126 + 1) v := nested_of_value hread
  have hfields := Step.reads_fields parsed hnested fun m hm x hx => doubles x (.member hm hx)
  rw [Step.write_eq]
  exact (reads_object hfields).entire_eq

/-- The text of a step is JSON in any case. -/
theorem Step.entire_skipValue_write (s : Step) :
    entire skipValue (Utf8.encode s.write) = .ok () := by
  rw [s.write_eq]
  exact (reads_skipValue (.object s.fields)).entire_eq

end Stream

end ChatRelay
