import ChatRelay.Proofs.Json.Lookup
import ChatRelay.Proofs.Stream.Markers
import ChatRelay.Proofs.Stream.Writes

/-!
What a marker tells of its payload. Each field of the step is the field of that name in the
payload, if it is there and says something, and else its default; and the text between the tags
is read as these fields, in their order.
-/

namespace ChatRelay

namespace Json.Read

/-- The members of an object as they are written, in their order and with all that have the same
key. -/
def membersInOrder (depth : Nat) : Reader (List (String × Json)) := fun bytes =>
  match skipBlanks bytes with
  | [] => .error .endInValue
  | b :: rest =>
    if b = byte '\x7b' then members (value depth) bytes.length true rest
    else .error .expectedValue

theorem reads_membersInOrder {depth : Nat} {ms : List (String × Json)}
    (hms : ∀ m ∈ ms, Reads (value depth) m.2.write m.2) :
    Reads (membersInOrder depth) (object ms).write ms := by
  intro rest _
  rw [write, Utf8.encode_enclosed (by decide) (by decide), membersInOrder,
    skipBlanks_cons (by decide)]
  simp only [if_true]
  exact members_write hms (length_lt_of_members ms rest) rest

end Json.Read

namespace Stream

open Json (Nested Occurs SaysNothing)
open Json.Read

/-- What is told of a field: its value in the payload if that says something, and else its
default. -/
def Told (v : Json) (key default : String) (x : Json) : Prop :=
  (v.get? key = some x ∧ ¬ SaysNothing x) ∨
    ((∀ y, v.get? key = some y → SaysNothing y) ∧ x = .string default)

/-- A step that tells all of a payload that it has fields for. -/
structure Step.Tells (v : Json) (s : Step) : Prop where
  id : Told v "id" "" s.id
  status : Told v "status" "in_progress" s.status
  error : Told v "error" "" s.error
  parentId : Told v "parent_id" "default" s.parentId
  intermediateParentId :
    Told v "intermediate_parent_id" "default" s.intermediateParentId
  name : Told v "name" "Step" s.name
  payload : Told v "payload" "No details" s.payload
  timeStamp : Told v "time_stamp" "default" s.timeStamp

theorem told_fieldOr (v : Json) (key default : String) :
    Told v key default (Step.fieldOr v key default) := by
  rw [Step.fieldOr]
  cases hget : v.get? key with
  | none =>
    refine .inr ⟨fun y hy => ?_, rfl⟩
    cases hget.symm.trans hy
  | some x =>
    dsimp only
    split
    · rename_i hsays
      refine .inl ⟨hget, fun hnothing => ?_⟩
      rw [Json.isTruthy_eq_false_iff.mpr hnothing] at hsays
      cases hsays
    · rename_i hnothing
      refine .inr ⟨fun y hy => ?_, rfl⟩
      obtain rfl := Option.some.inj (hget.symm.trans hy)
      exact Json.isTruthy_eq_false_iff.mp (Bool.eq_false_iff.mpr hnothing)

theorem Step.tells_ofPayload (v : Json) : Step.Tells v (Step.ofPayload v) :=
  ⟨told_fieldOr v _ _, told_fieldOr v _ _, told_fieldOr v _ _, told_fieldOr v _ _,
    told_fieldOr v _ _, told_fieldOr v _ _, told_fieldOr v _ _, told_fieldOr v _ _⟩

/-- A progress line with a JSON text is a step between two tags that tells what the text says. The
step has no control characters and is read as its fields, in their order, if its numbers are read
back and the payload is one level less deep than allowed. A line without a JSON text is nothing. -/
theorem markerOfLine?_tells (text : String) :
    (∀ v, Json.parse? text = some v → Nested (depthLimit - 1) v →
      (∀ x, Occurs (.real x) v → NumberReadsBack (.real x)) →
      ∃ s body, Step.Tells v s ∧
        Step.markerOfLine? (String.ofList (progressStart ++ text.toList)) =
          some (String.ofList (openTag ++ body ++ closeTag)) ∧
        (∀ c ∈ body, 0x20 ≤ c.toNat) ∧
        entire (membersInOrder (depthLimit - 1)) (Utf8.encode body) = .ok s.fields ∧
        Json.parse? (String.ofList body) = some (Json.ofMembers s.fields)) ∧
    (Json.parse? text = none →
      Step.markerOfLine? (String.ofList (progressStart ++ text.toList)) = none) := by
  rw [markerOfLine?_progress, String.ofList_toList]
  constructor
  · intro v hparse hnested hdoubles
    have hfields := Step.reads_fields hparse (show Nested (125 + 1) v from hnested)
      fun m hm x hx => hdoubles x (Step.occurs_of_fields m hm hx)
    refine ⟨Step.ofPayload v, (Step.ofPayload v).write, Step.tells_ofPayload v, ?_, ?_, ?_, ?_⟩
    · rw [hparse]
      rfl
    · rw [Step.write_eq]
      exact Json.printable_write _
    · rw [Step.write_eq]
      exact (reads_membersInOrder hfields).entire_eq
    · have hentire := (reads_object hfields).entire_eq
      rw [Json.parse?, Json.parse, Json.parseBytes, Utf8.bytes, String.toList_ofList, Step.write_eq]
      exact congrArg Except.toOption hentire
  · intro hparse
    rw [hparse]
    rfl

/-- A text with a zero that is negative, a number that is too small for a double, an integer of
64 bits, escapes, a nested payload, a key given twice and a type of its own. -/
def oddText : String :=
  " \x7b\"type\":\"x\", \"id\":18446744073709551615,\"error\":-0,\"status\":1e-400," ++
    "\"payload\":[\x7b\"b\":null,\"a\":\"\\u0007<\"\x7d],\"name\":0,\"name\":\"\\n\" \x7d\t"

def oddSource : Json :=
  .object [("error", .number (.real (Number.Double.zero true))),
    ("id", .number (.int 18446744073709551615)), ("name", .string "\n"),
    ("payload", .array [.object [("a", .string "\x07<"), ("b", .null)]]),
    ("status", .number (.real (Number.Double.zero false))), ("type", .string "x")]

theorem reads_doubles_oddSource :
    ∀ x, Occurs (.real x) oddSource → NumberReadsBack (.real x) := by
  intro x hx
  obtain ⟨m, hm, hx⟩ := Json.occurs_object_iff.mp hx
  simp only [List.mem_cons, List.not_mem_nil, or_false] at hm
  rcases hm with rfl | rfl | rfl | rfl | rfl | rfl
  · cases hx
    exact numberReadsBack_zero true
  · cases hx
  · cases hx
  · -- There are no numbers in the payload.
    cases hx with
    | item hitem hx =>
      rw [List.mem_singleton.mp hitem] at hx
      obtain ⟨m, hm, hx⟩ := Json.occurs_object_iff.mp hx
      simp only [List.mem_cons, List.not_mem_nil, or_false] at hm
      rcases hm with rfl | rfl <;> cases hx
  · cases hx
    exact numberReadsBack_zero false
  · cases hx

/-- Both zeros are passed over for the defaults, and a text without its end is nothing. -/
theorem markerOfLine?_oddText :
    Json.parse? oddText = some oddSource ∧ Nested (depthLimit - 1) oddSource ∧
      (∀ x, Occurs (.real x) oddSource → NumberReadsBack (.real x)) ∧
      (∃ s body, Step.Tells oddSource s ∧
        Step.markerOfLine? (String.ofList (progressStart ++ oddText.toList)) =
          some (String.ofList (openTag ++ body ++ closeTag)) ∧
        (∀ c ∈ body, 0x20 ≤ c.toNat) ∧
        entire (membersInOrder (depthLimit - 1)) (Utf8.encode body) = .ok s.fields ∧
        Json.parse? (String.ofList body) = some (Json.ofMembers s.fields)) ∧
      Step.markerOfLine? (String.ofList (progressStart ++ oddText.toList)) =
        some ("<intermediatestep>\x7b\"id\":18446744073709551615,\"status\":\"in_progress\"," ++
          "\"error\":\"\",\"type\":\"system_intermediate\",\"parent_id\":\"default\"," ++
          "\"intermediate_parent_id\":\"default\",\"content\":\x7b\"name\":\"\\n\"," ++
          "\"payload\":[\x7b\"a\":\"\\u0007<\",\"b\":null\x7d]\x7d," ++
          "\"time_stamp\":\"default\"\x7d</intermediatestep>") ∧
      Json.parse? "[0" = none ∧
      Step.markerOfLine? (String.ofList (progressStart ++ "[0".toList)) = none := by
  have hparse : Json.parse? oddText = some oddSource := by decide +kernel
  have hread : value (depthLimit - 1) (Utf8.bytes oddText) = .ok (oddSource, [0x09]) := by
    decide +kernel
  have hnested : Nested (depthLimit - 1) oddSource := nested_of_value hread
  have hnone : Json.parse? "[0" = none := by decide +kernel
  refine ⟨hparse, hnested, reads_doubles_oddSource,
    (markerOfLine?_tells oddText).1 oddSource hparse hnested reads_doubles_oddSource,
    ?_, hnone, (markerOfLine?_tells "[0").2 hnone⟩
  rw [markerOfLine?_progress, String.ofList_toList, hparse]
  decide +kernel

end Stream

end ChatRelay
