import ChatRelay.Proofs.Chat.Pairs
import ChatRelay.Proofs.Json.Numbers
import ChatRelay.Proofs.Number.Numeral

/-!
Parameters as a text of their own. Whichever way a client writes them, what is read is an object
that can be written and read again, so that writing and reading it changes nothing.
-/

namespace ChatRelay.Chat.Parameters

open Json (Members Nested Occurs)
open Json.Read (NumberReadsBack ReadsBack depthLimit)

/-! ### The values -/

/-- A text is no list and no object. -/
theorem nested_scalar (depth : Nat) (cs : List Char) : Nested depth (scalar cs) := by
  unfold scalar
  split
  · exact .bool true
  split
  · exact .bool false
  split
  · exact .number _
  split
  · exact .number _
  · exact .string _

theorem fits_scalar {cs : List Char} {n : Json.Number} (h : Occurs n (scalar cs)) : n.Fits := by
  unfold scalar at h
  split at h
  · cases h
  split at h
  · cases h
  split at h
  · rename_i hread
    cases h
    -- An integer of 64 bits with a sign is within the wider range of those in JSON.
    obtain ⟨-, -, -, hfits⟩ := Number.readInt64?_eq_some_iff.mp hread
    obtain ⟨hlow, hhigh⟩ := Number.fitsInt64_iff.mp hfits
    exact ⟨hlow, hhigh.trans (by decide)⟩
  split at h
  · cases h
    trivial
  · cases h

/-- A parameter is a member of the object that the text is, or what a piece of the text says. -/
theorem mem_parse_cases {text : String} {m : String × Json} (h : m ∈ parse text) :
    (∃ ms, Json.parse? (String.ofList (Text.trim text.toList)) = some (.object ms) ∧ m ∈ ms) ∨
      ∃ cs, m.2 = scalar cs := by
  rcases exists_object_or_noObject text with ⟨ms, hms⟩ | hno
  · rw [parse_of_object hms] at h
    exact .inl ⟨ms, hms, (List.mem_filter.mp h).1⟩
  · rw [hno.parse_eq] at h
    have hpair := Members.mem_of_mem_ofList (List.mem_filter.mp h).1
    cases hpairs : pairs? text.toList with
    | none =>
      rw [hpairs] at hpair
      cases hpair
    | some pairs =>
      rw [hpairs] at hpair
      obtain ⟨piece, -, hpiece⟩ := exists_of_mem_mapM hpairs hpair
      obtain ⟨-, value, -, rfl⟩ := pair?_eq_some_iff.mp hpiece
      exact .inr ⟨value, rfl⟩

/-! ### The object -/

/-- The parameters are an object that a text can be read as. -/
theorem nested_parse (text : String) : Nested depthLimit (.object (parse text)) := by
  -- The members of an object are as deep as they were in the text, and a scalar is not deep at all.
  refine .object ?_ (ordered_parse text)
  intro m hm
  rcases mem_parse_cases hm with ⟨ms, hparse, hms⟩ | ⟨cs, hcs⟩
  · obtain ⟨rest, hread, -⟩ := Json.exists_of_parse? hparse
    cases Json.Read.nested_of_value hread with
    | object hall _ => exact hall m hms
  · rw [hcs]
    exact nested_scalar _ cs

theorem fits_parse {text : String} {n : Json.Number} (h : Occurs n (.object (parse text))) :
    n.Fits := by
  obtain ⟨m, hm, hn⟩ := Json.occurs_object_iff.mp h
  rcases mem_parse_cases hm with ⟨ms, hparse, hms⟩ | ⟨cs, hcs⟩
  · obtain ⟨rest, hread, -⟩ := Json.exists_of_parse? hparse
    exact Json.Read.fits_of_value hread n (.member hms hn)
  · rw [hcs] at hn
    exact fits_scalar hn

/-! ### Reading what has been written -/

theorem trim_compact_object (ms : Members) :
    Text.trim (Json.object ms).compact.toList = (Json.object ms).compact.toList := by
  rw [Json.compact, String.toList_ofList, Json.write]
  exact Text.trim_enclosed (by decide) (by decide) _

/-- An object that is read as itself gives its members as parameters, but for those that the relay
owns. -/
theorem parse_of_parse? {ms ms' : Members}
    (h : Json.parse? (Json.object ms).compact = some (.object ms')) :
    parse (Json.object ms).compact = ms'.keep (· ∉ reserved) := by
  apply parse_of_object
  rw [trim_compact_object, String.ofList_toList, h]

theorem keep_parse (text : String) : (parse text).keep (· ∉ reserved) = parse text := by
  apply List.filter_eq_self.mpr
  intro m hm
  exact (List.mem_filter.mp hm).2

theorem get?_reserved {key : String} (h : key ∈ reserved) (text : String) :
    (parse text).get? key = none := by
  rw [← keep_parse, Members.get?_keep, if_neg]
  exact fun hkey => of_decide_eq_true hkey h

/-- What has been read as parameters is read as the same when it is written as an object, however
it was first written, if its doubles are read back. -/
theorem parse_compact_parse (text : String)
    (doubles : ∀ x, Occurs (.real x) (.object (parse text)) → NumberReadsBack (.real x)) :
    parse (Json.object (parse text)).compact = parse text := by
  -- Whichever way the text was read, the second reading is one of an object.
  have hback : ReadsBack depthLimit (.object (parse text)) :=
    Json.Read.readsBack_of_nested (nested_parse text) (fun _ => fits_parse) doubles
  have hparse : Json.parse? (Json.object (parse text)).compact = some (.object (parse text)) := by
    rw [Json.parse?, Json.Read.parse_compact hback]
    rfl
  rw [parse_of_parse? hparse, keep_parse]

/-- Parameters with a negative zero, which is no integer, and with a key of the relay. -/
def signedMembers : Members :=
  [("min_p", .number (.real (Number.Double.zero true))), ("stop", .array [.string "A"]),
    ("stream", .bool true)]

def signedText : String := (Json.object signedMembers).compact

theorem parse_signedText : parse signedText = signedMembers.keep (· ∉ reserved) := by
  have hback : ReadsBack depthLimit (.object signedMembers) := by
    refine .object ?_ rfl
    intro m hm
    simp only [signedMembers, List.mem_cons, List.not_mem_nil, or_false] at hm
    rcases hm with rfl | rfl | rfl
    · exact .number (Json.Read.numberReadsBack_zero true)
    · exact .array (List.forall_mem_singleton.mpr (.string "A"))
    · exact .bool true
  apply parse_of_parse?
  rw [Json.parse?, Json.Read.parse_compact hback]
  rfl

theorem parse_compact_signedText :
    (∀ x, Occurs (.real x) (.object (parse signedText)) → NumberReadsBack (.real x)) ∧
      (Json.object (parse signedText)).compact = "\x7b\"min_p\":-0.0,\"stop\":[\"A\"]\x7d" ∧
      parse (Json.object (parse signedText)).compact = parse signedText := by
  have hdoubles : ∀ x, Occurs (.real x) (.object (parse signedText)) →
      NumberReadsBack (.real x) := by
    intro x hx
    rw [parse_signedText] at hx
    obtain ⟨m, hm, hx⟩ := Json.occurs_object_iff.mp hx
    have hm := (List.mem_filter.mp hm).1
    simp only [signedMembers, List.mem_cons, List.not_mem_nil, or_false] at hm
    rcases hm with rfl | rfl | rfl
    · cases hx
      exact Json.Read.numberReadsBack_zero true
    · cases hx with
      | item hmem hx =>
        rw [List.mem_singleton.mp hmem] at hx
        cases hx
    · cases hx
  exact ⟨hdoubles, by decide +kernel, parse_compact_parse signedText hdoubles⟩

end ChatRelay.Chat.Parameters
