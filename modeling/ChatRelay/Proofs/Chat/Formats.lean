import ChatRelay.Proofs.Chat.Parameters

/-!
The two formats of parameters side by side. What both can say is read as the same from either,
except for an integer that does not fit into 64 bits with a sign: the object keeps it, and the pairs
make it a double.
-/

namespace ChatRelay.Chat.Parameters

open Json (Members)
open Json.Read (Reads ReadsBack depthLimit byte value)

/-! ### What both formats can say -/

/-- A key that stands in a pair as it is. -/
structure Key (key : String) : Prop where
  nonempty : key.toList ≠ []
  trimmed : Text.trim key.toList = key.toList
  comma : ',' ∉ key.toList
  equals : '=' ∉ key.toList
  brace : key.toList.head? ≠ some '\x7b'

instance (key : String) : Decidable (Key key) :=
  decidable_of_iff (key.toList ≠ [] ∧ Text.trim key.toList = key.toList ∧ ',' ∉ key.toList ∧
      '=' ∉ key.toList ∧ key.toList.head? ≠ some '\x7b')
    ⟨fun ⟨h₁, h₂, h₃, h₄, h₅⟩ => ⟨h₁, h₂, h₃, h₄, h₅⟩,
      fun ⟨h₁, h₂, h₃, h₄, h₅⟩ => ⟨h₁, h₂, h₃, h₄, h₅⟩⟩

/-- A value that stands in a pair as it is: a truth value, an integer of 64 bits with a sign or
without, or a text that would not be read as anything else. -/
inductive Plain : Json → Prop where
  | bool (b : Bool) : Plain (.bool b)
  | whole {n : Int} (fits : (Json.Number.int n).Fits) : Plain (.number (.int n))
  | text {s : String} (trimmed : Text.trim s.toList = s.toList) (comma : ',' ∉ s.toList)
      (yes : s.toList ≠ "true".toList) (no : s.toList ≠ "false".toList)
      (number : ∀ x, Number.readExtended? s.toList ≠ some (.finite x)) : Plain (.string s)

/-- Pairs that can be written in either format. -/
structure Presentable (pairs : List (String × Json)) : Prop where
  nonempty : pairs ≠ []
  distinct : (pairs.map (·.1)).Nodup
  keys : ∀ m ∈ pairs, Key m.1
  values : ∀ m ∈ pairs, Plain m.2

/-- A value without the quotes of a text. -/
def bareText : Json → List Char
  | .string s => s.toList
  | v => v.write

def pairText (m : String × Json) : List Char :=
  m.1.toList ++ '=' :: bareText m.2

/-- The format of pairs: commas between them, and no blanks. -/
def pairsText (pairs : List (String × Json)) : String :=
  String.ofList ([','].intercalate (pairs.map pairText))

/-! ### Values -/

theorem of_isNumeral {c : Char} (h : Number.isNumeral c = true) :
    Text.isBlank c = false ∧ c ≠ ',' := by
  rcases Bool.or_eq_true_iff.mp h with hdigit | hmem
  · obtain ⟨n, hn, rfl⟩ := Json.Read.exists_digitChar hdigit
    revert n
    decide
  · have hcases := of_decide_eq_true hmem
    simp only [List.mem_cons, List.not_mem_nil, or_false] at hcases
    rcases hcases with rfl | rfl | rfl | rfl <;> decide

theorem of_mem_write_number {n : Json.Number} :
    ∀ c ∈ n.write, Text.isBlank c = false ∧ c ≠ ',' := by
  obtain ⟨c, rest, hn, hc, hrest⟩ := Json.exists_write_number n
  have hfirst : Number.isNumeral c = true := by
    rcases hc with rfl | hc
    · decide
    · exact Number.isNumeral_of_isDigit hc
  rw [hn]
  exact List.forall_mem_cons.mpr ⟨of_isNumeral hfirst, fun d hd => of_isNumeral (hrest d hd)⟩

/-- What such a value is written as is one piece, with no blanks around it. -/
theorem Plain.bareText {v : Json} (h : Plain v) :
    Text.trim (bareText v) = Parameters.bareText v ∧ ',' ∉ Parameters.bareText v := by
  cases h with
  | bool b => cases b <;> decide
  | @whole n =>
    have hall := of_mem_write_number (n := .int n)
    exact ⟨Text.trim_of_forall fun c hc => (hall c hc).1, fun hc => (hall ',' hc).2 rfl⟩
  | text trimmed comma => exact ⟨trimmed, comma⟩

/-- The text of an integer is not the name of a truth value. -/
theorem toString_ne_name (n : Int) :
    (toString n).toList ≠ "true".toList ∧ (toString n).toList ≠ "false".toList := by
  obtain ⟨c, rest, hn, hc, -⟩ := Json.exists_write_number (.int n)
  -- Its first character is a minus or a digit.
  have hname {first : Char} {more : List Char} (hminus : first ≠ '-')
      (hdigit : first.isDigit = false) : (toString n).toList ≠ first :: more := by
    intro heq
    rw [Json.Number.write, heq] at hn
    obtain rfl := (List.cons.inj hn).1
    rcases hc with rfl | hc
    · exact hminus rfl
    · rw [hdigit] at hc
      cases hc
  exact ⟨hname (by decide) (by decide), hname (by decide) (by decide)⟩

/-- What a pair gives back of a value: the value, unless it is an integer that does not fit into
64 bits with a sign, of which the nearest double is left. -/
theorem Plain.scalar_cases {v : Json} (h : Plain v) :
    (scalar (Parameters.bareText v) = v ∧
        ∀ n, v = .number (.int n) → n < 0x8000000000000000) ∨
      ∃ (n : Int) (x : Number.Double), v = .number (.int n) ∧ 0x8000000000000000 ≤ n ∧
        Number.Double.ofNat n.toNat = some x ∧
        scalar (Parameters.bareText v) = .number (.real x) := by
  cases h with
  | bool b =>
    left
    cases b with
    | true => exact ⟨rfl, fun _ h => nomatch h⟩
    | false => exact ⟨rfl, fun _ h => nomatch h⟩
  | @whole n fits =>
    obtain ⟨hlow, hhigh⟩ := fits
    have htext : Parameters.bareText (.number (.int n)) = (toString n).toList := rfl
    obtain ⟨hyes, hno⟩ := toString_ne_name n
    rw [htext, scalar, if_neg hyes, if_neg hno, Number.readInt64?_toString]
    by_cases hsmall : n < 0x8000000000000000
    · left
      rw [if_pos (Number.fitsInt64_iff.mpr ⟨hlow, hsmall⟩)]
      refine ⟨rfl, fun m hm => ?_⟩
      cases hm
      exact hsmall
    · right
      -- The integer is not negative, and its digits are left to the doubles.
      have hlarge : ¬ Number.fitsInt64 n = true := fun h => hsmall (Number.fitsInt64_iff.mp h).2
      obtain ⟨k, rfl⟩ := Int.eq_ofNat_of_zero_le (show 0 ≤ n by omega)
      obtain ⟨x, hx, hread⟩ := Number.readExtended?_toString (n := k) (by omega)
      have htoString : toString (k : Int) = toString k := rfl
      rw [if_neg hlarge, htoString, hread]
      exact ⟨k, x, rfl, by omega, hx, rfl⟩
  | @text s trimmed comma yes no number =>
    left
    refine ⟨?_, fun _ h => nomatch h⟩
    -- A text that is no double is no integer either.
    have hint : Number.readInt64? s.toList = none := by
      rw [Option.eq_none_iff_forall_ne_some]
      intro n hn
      obtain ⟨x, hx⟩ := Number.exists_finite_of_readInt64? hn
      exact number x hx
    have htext : Parameters.bareText (.string s) = s.toList := rfl
    rw [htext, scalar, if_neg yes, if_neg no, hint]
    dsimp only
    split
    · rename_i x hx
      exact absurd hx (number x)
    · rw [String.ofList_toList]

/-! ### The format of pairs -/

theorem Key.exists_cons {key : String} (h : Key key) :
    ∃ c rest, key.toList = c :: rest ∧ Text.isBlank c = false ∧ c ≠ '\x7b' := by
  obtain ⟨c, rest, hcons⟩ := List.exists_cons_of_ne_nil h.nonempty
  have hbrace := h.brace
  rw [hcons, List.head?_cons, ne_eq, Option.some.injEq] at hbrace
  exact ⟨c, rest, hcons, Text.isBlank_head_trim (h.trimmed.trans hcons), hbrace⟩

section Pair

variable {m : String × Json}

/-- A pair is a piece that needs no trimming. -/
theorem trim_pairText (hkey : Key m.1) (hvalue : Plain m.2) :
    Text.trim (pairText m) = pairText m := by
  obtain ⟨c, rest, hcons, hc, -⟩ := hkey.exists_cons
  rw [pairText, hcons, List.cons_append, Text.trim_cons hc, Text.dropEnd_append_cons (by decide),
    Text.dropEnd_of_trim hvalue.bareText.1]

theorem comma_not_mem_pairText (hkey : Key m.1) (hvalue : Plain m.2) : ',' ∉ pairText m := by
  rw [pairText, List.mem_append, List.mem_cons, not_or, not_or]
  exact ⟨hkey.comma, by decide, hvalue.bareText.2⟩

theorem says_pairText (hkey : Key m.1) (hvalue : Plain m.2) :
    Says (pairText m) m.1.toList (bareText m.2) :=
  ⟨m.1.toList, bareText m.2, rfl, hkey.equals, hkey.trimmed.symm, hkey.nonempty,
    hvalue.bareText.1.symm⟩

end Pair

/-- An object begins with a brace. -/
theorem eq_brace_of_parse? {c : Char} (hc : Text.isBlank c = false) {cs : List Char}
    {ms : Members} (h : Json.parse? (String.ofList (c :: cs)) = some (.object ms)) :
    c = '\x7b' := by
  obtain ⟨rest, hread, -⟩ := Json.exists_of_parse? h
  rw [Utf8.bytes, String.toList_ofList] at hread
  -- Of the ways in which a value is read, only the one behind a brace gives an object.
  have hbrace {v : Json} (hv : v = .object ms)
      (hread : value depthLimit (Utf8.encode (c :: cs)) = .ok (v, rest)) :
      ∃ start, Json.Read.skipBlanks (Utf8.encode (c :: cs)) = byte '\x7b' :: start := by
    cases Json.Read.reading_of_value hread with
    | object hb _ => exact ⟨_, hb⟩
    | _ => cases hv
  obtain ⟨start, hstart⟩ := hbrace rfl hread
  obtain ⟨b, more, hmore, hb⟩ := Utf8.exists_encode_cons c cs
  -- The first byte is not skipped, for the character is no blank.
  have hblank : Json.Read.isBlank b = false := by
    rw [Bool.eq_false_iff]
    intro hblank
    rw [Json.Read.isBlank_of_byte hb hblank] at hc
    cases hc
  rw [hmore, Json.Read.skipBlanks_cons hblank] at hstart
  rw [(List.cons.inj hstart).1] at hb
  have hcode : (byte '\x7b').toNat = '\x7b'.toNat := by decide
  rcases hb with hb | hb
  · exact Char.toNat_inj.mp (hb.symm.trans hcode)
  · rw [hcode] at hb
    exact absurd hb (by decide)

section Pairs

variable {pairs : List (String × Json)}

theorem Presentable.pieces_pairsText (h : Presentable pairs) :
    pieces (pairsText pairs).toList = pairs.map pairText := by
  have htexts : ∀ text ∈ pairs.map pairText, ',' ∉ text ∧ Text.trim text = text ∧ text ≠ [] := by
    intro text htext
    obtain ⟨m, hm, rfl⟩ := List.mem_map.mp htext
    exact ⟨comma_not_mem_pairText (h.keys m hm) (h.values m hm),
      trim_pairText (h.keys m hm) (h.values m hm),
      List.append_ne_nil_of_right_ne_nil _ (List.cons_ne_nil _ _)⟩
  -- The pairs are joined by what none of them has, and are neither trimmed nor dropped.
  have hne : pairs.map pairText ≠ [] := fun hnil => h.nonempty (List.map_eq_nil_iff.mp hnil)
  rw [pieces, pairsText, String.toList_ofList,
    List.splitOn_intercalate ',' (fun text htext => (htexts text htext).1) hne,
    List.map_congr_left fun text htext => (htexts text htext).2.1, List.map_id']
  apply List.filter_eq_self.mpr
  intro text htext
  rw [List.isEmpty_eq_false_iff.mpr (htexts text htext).2.2]
  rfl

/-- Pairs are not taken for an object. -/
theorem Presentable.noObject (h : Presentable pairs) : NoObject (pairsText pairs) := by
  intro ms hparse
  -- The text begins with the first character of a key, which is no brace.
  obtain ⟨m, more, rfl⟩ := List.exists_cons_of_ne_nil h.nonempty
  obtain ⟨c, rest, hcons, hc, hbrace⟩ := (h.keys m List.mem_cons_self).exists_cons
  rw [pairsText, String.toList_ofList, List.map_cons, Json.intercalate_cons, pairText, hcons,
    List.cons_append, List.cons_append, Text.trim_cons hc] at hparse
  exact hbrace (eq_brace_of_parse? hc hparse)

theorem Presentable.saysAll (h : Presentable pairs) :
    SaysAll (pairsText pairs) (pairs.map fun m => (m.1.toList, bareText m.2)) := by
  rw [SaysAll, h.pieces_pairsText, List.forall₂_map_left_iff, List.forall₂_map_right_iff,
    List.forall₂_same]
  intro m hm
  exact says_pairText (h.keys m hm) (h.values m hm)

theorem Presentable.parse_pairsText (h : Presentable pairs) : parse (pairsText pairs) =
    (Members.ofList (pairs.map fun m => (m.1, scalar (bareText m.2)))).keep (· ∉ reserved) := by
  have hpairs : (fun m : List Char × List Char => (String.ofList m.1, scalar m.2)) ∘
      (fun m : String × Json => (m.1.toList, bareText m.2)) =
        fun m => (m.1, scalar (bareText m.2)) := by
    funext m
    exact congrArg (·, _) String.ofList_toList
  rw [h.noObject.parse_eq, h.saysAll.pairs?, Option.getD_some, List.map_map, hpairs]

/-! ### The format of objects -/

theorem Plain.readsBack {v : Json} (h : Plain v) (depth : Nat) : ReadsBack depth v := by
  cases h with
  | bool b => exact .bool b
  | whole fits => exact .number (Json.Read.numberReadsBack_int fits)
  | text => exact .string _

variable {ms : Members}

/-- The object may have its members in any order. -/
theorem Presentable.parse_object (h : Presentable pairs) (hms : ms.Perm pairs) :
    parse (Json.object ms).compact = (Members.ofList pairs).keep (· ∉ reserved) := by
  have hreads : ∀ m ∈ ms, Reads (value 126) m.2.write m.2 :=
    fun m hm => ((h.values m (hms.mem_iff.mp hm)).readsBack 126).reads
  have hparse : Json.parse? (Json.object ms).compact = some (.object (Members.ofList ms)) := by
    have hobject := (Json.Read.reads_object hreads).entire_eq
    rw [Json.parse?, Json.parse, Json.parseBytes, Utf8.bytes, Json.compact, String.toList_ofList,
      depthLimit, hobject]
    rfl
  rw [parse_of_parse? hparse, Members.ofList_perm h.distinct hms]

/-! ### The two formats -/

theorem Presentable.get?_object (h : Presentable pairs) (hms : ms.Perm pairs) {key : String}
    (hkey : key ∉ reserved) :
    (parse (Json.object ms).compact).get? key = (Members.ofList pairs).get? key := by
  rw [h.parse_object hms, Members.get?_keep, if_pos (decide_eq_true hkey)]

theorem Presentable.get?_pairsText (h : Presentable pairs) {key : String} (hkey : key ∉ reserved) :
    (parse (pairsText pairs)).get? key =
      ((Members.ofList pairs).get? key).map fun v => scalar (bareText v) := by
  rw [h.parse_pairsText, Members.get?_keep, if_pos (decide_eq_true hkey)]
  exact Members.get?_ofList_map pairs (fun v => scalar (bareText v)) key

/-- Pairs are read as the same from either format if and only if none of them has an integer that
does not fit into 64 bits with a sign. The object keeps every value; of such an integer the pairs
leave the nearest double. -/
theorem parse_pairsText_eq_iff (h : Presentable pairs) (hms : ms.Perm pairs) :
    (parse (pairsText pairs) = parse (Json.object ms).compact ↔
        ∀ m ∈ pairs, m.1 ∉ reserved → ∀ n, m.2 = .number (.int n) → n < 0x8000000000000000) ∧
      ∀ key v, (key, v) ∈ pairs → key ∉ reserved →
        (parse (Json.object ms).compact).get? key = some v ∧
        ((parse (pairsText pairs)).get? key = some v ∨
          ∃ (n : Int) (x : Number.Double), v = .number (.int n) ∧ 0x8000000000000000 ≤ n ∧
            Number.Double.ofNat n.toNat = some x ∧
            (parse (pairsText pairs)).get? key = some (.number (.real x))) := by
  have hobject {key : String} {v : Json} (hv : (key, v) ∈ pairs) (hkey : key ∉ reserved) :
      (parse (Json.object ms).compact).get? key = some v := by
    rw [h.get?_object hms hkey, Members.get?_ofList_of_mem h.distinct hv]
  have hpairs {key : String} {v : Json} (hv : (key, v) ∈ pairs) (hkey : key ∉ reserved) :
      (parse (pairsText pairs)).get? key = some (scalar (bareText v)) := by
    rw [h.get?_pairsText hkey, Members.get?_ofList_of_mem h.distinct hv, Option.map_some]
  refine ⟨⟨fun heq => ?_, fun hsmall => ?_⟩, fun key v hv hkey => ⟨hobject hv hkey, ?_⟩⟩
  · rintro ⟨key, v⟩ hv hkey n rfl
    rcases (h.values _ hv).scalar_cases with ⟨-, hsmall⟩ | ⟨m, x, -, -, -, hreal⟩
    · exact hsmall n rfl
    · -- The object gives the integer that the pairs have made a double.
      have hsame := hpairs hv hkey
      rw [heq, hobject hv hkey, hreal] at hsame
      cases hsame
  · -- Both are tables in the order of their keys, so that they are compared key by key.
    apply (ordered_parse _).ext (ordered_parse _)
    intro key
    by_cases hkey : key ∈ reserved
    · rw [get?_reserved hkey, get?_reserved hkey]
    rw [h.get?_pairsText hkey, h.get?_object hms hkey]
    cases hget : (Members.ofList pairs).get? key with
    | none => rfl
    | some v =>
      have hv := Members.mem_of_mem_ofList (Members.mem_of_get? hget)
      rcases (h.values _ hv).scalar_cases with ⟨hsame, -⟩ | ⟨n, -, hn, hlarge, -⟩
      · exact congrArg some hsame
      · exact absurd (hsmall _ hv hkey n hn) (not_lt.mpr hlarge)
  · rw [hpairs hv hkey]
    rcases (h.values _ hv).scalar_cases with ⟨hsame, -⟩ | ⟨n, x, rfl, hlarge, hx, hreal⟩
    · exact .inl (congrArg some hsame)
    · exact .inr ⟨n, x, rfl, hlarge, hx, congrArg some hreal⟩

end Pairs

/-- A text with an equals sign, the least integer, and an integer without a sign under a key of the
relay. -/
def mixedPairs : List (String × Json) :=
  [("note", .string "a=\"b\""), ("seed", .number (.int (-0x8000000000000000))),
    ("stream", .number (.int 0xFFFFFFFFFFFFFFFF))]

theorem presentable_mixedPairs : Presentable mixedPairs := by
  have hnote : ∀ x, Number.readExtended? "a=\"b\"".toList ≠ some (.finite x) := by
    have hnone : Number.readExtended? "a=\"b\"".toList = none := by decide +kernel
    intro x hx
    rw [hnone] at hx
    cases hx
  have hkeys : ∀ key ∈ mixedPairs.map (·.1), Key key := by decide +kernel
  refine ⟨List.cons_ne_nil _ _, by decide, fun m hm => hkeys m.1 (List.mem_map_of_mem hm), ?_⟩
  intro m hm
  simp only [mixedPairs, List.mem_cons, List.not_mem_nil, or_false] at hm
  rcases hm with rfl | rfl | rfl
  · exact .text (by decide) (by decide) (by decide) (by decide) hnote
  · exact .whole ⟨by decide, by decide⟩
  · exact .whole ⟨by decide, by decide⟩

theorem parse_mixedPairs :
    pairsText mixedPairs = "note=a=\"b\",seed=-9223372036854775808,stream=18446744073709551615" ∧
      Presentable mixedPairs ∧ mixedPairs.reverse.Perm mixedPairs ∧
      parse (pairsText mixedPairs) = parse (Json.object mixedPairs.reverse).compact := by
  have hperm : mixedPairs.reverse.Perm mixedPairs := List.reverse_perm _
  refine ⟨by decide +kernel, presentable_mixedPairs, hperm,
    (parse_pairsText_eq_iff presentable_mixedPairs hperm).1.mpr ?_⟩
  intro m hm hkey n hn
  simp only [mixedPairs, List.mem_cons, List.not_mem_nil, or_false] at hm
  rcases hm with rfl | rfl | rfl
  · cases hn
  · cases hn
    decide
  · exact absurd (by decide) hkey

/-- The least integer that needs all of 64 bits. -/
def largePairs : List (String × Json) := [("seed", .number (.int 0x8000000000000000))]

/-- The pairs give a double where the object gives the integer. -/
theorem parse_largePairs_ne :
    Presentable largePairs ∧
      (Json.object (parse (pairsText largePairs))).compact =
        "\x7b\"seed\":9.223372036854776e+18\x7d" ∧
      (Json.object (parse (Json.object largePairs).compact)).compact =
        "\x7b\"seed\":9223372036854775808\x7d" ∧
      parse (pairsText largePairs) ≠ parse (Json.object largePairs).compact := by
  have hpairs : (Json.object (parse (pairsText largePairs))).compact =
      "\x7b\"seed\":9.223372036854776e+18\x7d" := by decide +kernel
  have hobject : (Json.object (parse (Json.object largePairs).compact)).compact =
      "\x7b\"seed\":9223372036854775808\x7d" := by decide +kernel
  refine ⟨⟨List.cons_ne_nil _ _, by decide, ?_, ?_⟩, hpairs, hobject, fun heq => ?_⟩
  · exact List.forall_mem_singleton.mpr (by decide +kernel)
  · exact List.forall_mem_singleton.mpr (.whole ⟨by decide, by decide⟩)
  · rw [heq, hobject] at hpairs
    exact absurd hpairs (by decide)

end ChatRelay.Chat.Parameters
