import ChatRelay.Proofs.Text.Search
import ChatRelay.Stream.Step

/-!
Scanning a text for markers. Markers that have been put between other texts are found where they
are exactly when no text before a marker holds an opening tag, no marker holds a closing tag in its
body, and the text behind the last marker holds no opening tag that is closed.
-/

namespace ChatRelay.Stream

/-- A text taken apart: what stands before each marker and in it, and what is left at the end. -/
structure Parts where
  markers : List (List Char × List Char)
  last : List Char
  deriving DecidableEq, Repr

/-- Takes markers off the front of a text, each up to the first closing tag behind the first
opening tag. Each takes a character at least, so that the length of the text is fuel enough. -/
def scan : (fuel : Nat) → List Char → Parts
  | 0, text => ⟨[], text⟩
  | fuel + 1, text =>
    match Text.cutAt? openTag text with
    | none => ⟨[], text⟩
    | some (before, after) =>
      match Text.cutAt? closeTag after with
      | none => ⟨[], text⟩
      | some (body, rest) =>
        let parts := scan fuel rest
        ⟨(before, body) :: parts.markers, parts.last⟩

def scanned (text : List Char) : Parts := scan text.length text

namespace Parts

def markerText (m : List Char × List Char) : List Char := m.1 ++ (openTag ++ (m.2 ++ closeTag))

/-- The text that has been taken apart. -/
def text (p : Parts) : List Char := p.markers.flatMap markerText ++ p.last

def bodies (p : Parts) : List (List Char) := p.markers.map Prod.snd

/-- What stands outside of the markers, put together. -/
def outside (p : Parts) : List Char := p.markers.flatMap Prod.fst ++ p.last

def addMarker (body : List Char) (p : Parts) : Parts := ⟨([], body) :: p.markers, p.last⟩

/-- Puts more text in front. -/
def addText (more : List Char) : Parts → Parts
  | ⟨[], last⟩ => ⟨[], more ++ last⟩
  | ⟨(before, body) :: markers, last⟩ => ⟨(more ++ before, body) :: markers, last⟩

/-- That scanning finds the parts: what is before a marker holds no opening tag, what is in it no
closing tag, and in what is left no opening tag is closed. -/
structure Separable (p : Parts) : Prop where
  texts : ∀ m ∈ p.markers, ¬ openTag <:+: m.1
  bodies : ∀ m ∈ p.markers, ¬ closeTag <:+: m.2
  last : ∀ front back, p.last = front ++ (openTag ++ back) → ¬ closeTag <:+: back

theorem text_cons (before body : List Char) (markers : List (List Char × List Char))
    (last : List Char) : (Parts.mk ((before, body) :: markers) last).text =
      before ++ (openTag ++ (body ++ (closeTag ++ (Parts.mk markers last).text))) := by
  rw [text, text, List.flatMap_cons, markerText]
  simp only [List.append_assoc]

@[simp] theorem text_addMarker (body : List Char) (p : Parts) :
    (p.addMarker body).text = openTag ++ (body ++ closeTag) ++ p.text := by
  rw [addMarker, text_cons]
  simp only [List.nil_append, List.append_assoc]

@[simp] theorem bodies_addMarker (body : List Char) (p : Parts) :
    (p.addMarker body).bodies = body :: p.bodies := rfl

@[simp] theorem outside_addMarker (body : List Char) (p : Parts) :
    (p.addMarker body).outside = p.outside := rfl

@[simp] theorem text_addText (more : List Char) (p : Parts) :
    (p.addText more).text = more ++ p.text := by
  obtain ⟨_ | ⟨⟨before, body⟩, markers⟩, last⟩ := p
  · rfl
  · rw [addText, text_cons, text_cons, List.append_assoc]

@[simp] theorem bodies_addText (more : List Char) (p : Parts) :
    (p.addText more).bodies = p.bodies := by
  obtain ⟨_ | ⟨⟨before, body⟩, markers⟩, last⟩ := p <;> rfl

@[simp] theorem outside_addText (more : List Char) (p : Parts) :
    (p.addText more).outside = more ++ p.outside := by
  obtain ⟨_ | ⟨⟨before, body⟩, markers⟩, last⟩ := p
  · rfl
  · simp only [addText, outside, List.flatMap_cons, List.append_assoc]

end Parts

theorem openTag_ne_nil : openTag ≠ [] := by decide

theorem closeTag_ne_nil : closeTag ≠ [] := by decide

/-- An opening tag is found where it stands, if it does not stand before. -/
theorem cutAt?_openTag {before : List Char} (h : ¬ openTag <:+: before) (after : List Char) :
    Text.cutAt? openTag (before ++ (openTag ++ after)) = some (before, after) := by
  have htag : openTag = '<' :: "intermediatestep>".toList := rfl
  rw [htag] at h ⊢
  exact Text.cutAt?_append (by decide) h after

theorem cutAt?_closeTag {before : List Char} (h : ¬ closeTag <:+: before) (after : List Char) :
    Text.cutAt? closeTag (before ++ (closeTag ++ after)) = some (before, after) := by
  have htag : closeTag = '<' :: "/intermediatestep>".toList := rfl
  rw [htag] at h ⊢
  exact Text.cutAt?_append (by decide) h after

/-- Scanning finds only what can be found by scanning. -/
theorem separable_scan {fuel : Nat} {text : List Char} (h : text.length ≤ fuel) :
    (scan fuel text).Separable := by
  have hend {last : List Char}
      (hlast : ∀ front back, last = front ++ (openTag ++ back) → ¬ closeTag <:+: back) :
      (Parts.mk [] last).Separable :=
    ⟨fun m hm => absurd hm List.not_mem_nil, fun m hm => absurd hm List.not_mem_nil, hlast⟩
  -- Scanning stops where an opening tag is missing or not closed, and what is left says so.
  induction fuel generalizing text with
  | zero =>
    rw [List.eq_nil_of_length_eq_zero (Nat.le_zero.mp h)]
    apply hend
    intro front back hnil
    exact absurd (List.append_eq_nil_iff.mp (List.append_eq_nil_iff.mp hnil.symm).2).1 openTag_ne_nil
  | succ fuel ih =>
    rw [scan]
    split
    · rename_i hopen
      apply hend
      intro front back htext
      exact absurd ⟨front, back, by rw [htext, List.append_assoc]⟩
        ((Text.cutAt?_eq_none_iff openTag_ne_nil).mp hopen)
    · rename_i before after hopen
      split
      · rename_i hclose
        apply hend
        intro front back htext hclosed
        -- What is behind any opening tag is at the end of what is behind the first one.
        have hsuffix := Text.suffix_of_cutAt? hopen htext
        exact (Text.cutAt?_eq_none_iff closeTag_ne_nil).mp hclose (hclosed.trans hsuffix.isInfix)
      · rename_i body rest hclose
        have hlength : rest.length ≤ fuel := by
          have hbefore := congrArg List.length (Text.eq_append_of_cutAt? hopen)
          have hbody := congrArg List.length (Text.eq_append_of_cutAt? hclose)
          have htag : 0 < openTag.length := List.length_pos_of_ne_nil openTag_ne_nil
          rw [List.length_append, List.length_append] at hbefore hbody
          omega
        obtain ⟨htexts, hbodies, hlast⟩ := ih hlength
        have hbefore := Text.not_infix_of_cutAt? openTag_ne_nil hopen
        have hbody := Text.not_infix_of_cutAt? closeTag_ne_nil hclose
        exact ⟨List.forall_mem_cons.mpr ⟨hbefore, htexts⟩,
          List.forall_mem_cons.mpr ⟨hbody, hbodies⟩, hlast⟩

/-- Parts that can be found by scanning are found. -/
theorem scan_text {fuel : Nat} {p : Parts} (hp : p.Separable) (h : p.text.length ≤ fuel) :
    scan fuel p.text = p := by
  obtain ⟨markers, last⟩ := p
  -- The induction is on the markers: the first one is taken off, and the others can still be found.
  induction markers generalizing fuel with
  | nil =>
    change scan fuel last = ⟨[], last⟩
    cases fuel with
    | zero => rfl
    | succ fuel =>
      rw [scan]
      split
      · rfl
      · rename_i before after hopen
        have hlast := hp.last before after (Text.eq_append_of_cutAt? hopen)
        rw [(Text.cutAt?_eq_none_iff closeTag_ne_nil).mpr hlast]
  | cons m markers ih =>
    obtain ⟨before, body⟩ := m
    obtain ⟨hbefore, htexts⟩ := List.forall_mem_cons.mp hp.texts
    obtain ⟨hbody, hbodies⟩ := List.forall_mem_cons.mp hp.bodies
    have hlength := congrArg List.length (Parts.text_cons before body markers last)
    have htag : 0 < openTag.length := List.length_pos_of_ne_nil openTag_ne_nil
    simp only [List.length_append] at hlength
    obtain ⟨fuel, rfl⟩ : ∃ n, fuel = n + 1 := ⟨fuel - 1, by omega⟩
    have hfuel : (Parts.mk markers last).text.length ≤ fuel := by omega
    have hrest := ih ⟨htexts, hbodies, hp.last⟩ hfuel
    rw [Parts.text_cons, scan, cutAt?_openTag hbefore]
    dsimp only
    rw [cutAt?_closeTag hbody]
    dsimp only
    rw [hrest]

theorem scanned_text_eq_iff (p : Parts) : scanned p.text = p ↔ p.Separable := by
  constructor
  · intro h
    rw [← h]
    exact separable_scan (Nat.le_refl _)
  · intro hp
    exact scan_text hp (Nat.le_refl _)

end ChatRelay.Stream
