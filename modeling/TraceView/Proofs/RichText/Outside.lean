import TraceView.Proofs.RichText.Parts

namespace TraceView

def shownChar (c : Char) : Char := if c = '\x1b' then '\u241b' else c

theorem shownChar_ne_escape (c : Char) : shownChar c ≠ '\x1b' := by
  unfold shownChar
  split
  · decide
  · assumption

theorem shownChar_shownChar (c : Char) : shownChar (shownChar c) = shownChar c :=
  if_neg (shownChar_ne_escape c)

@[simp] theorem toList_withoutEscapes (s : String) :
    (withoutEscapes s).toList = s.toList.map shownChar :=
  String.toList_ofList

theorem withoutEscapes_withoutEscapes (s : String) :
    withoutEscapes (withoutEscapes s) = withoutEscapes s := by
  apply String.toList_inj.mp
  rw [toList_withoutEscapes, toList_withoutEscapes, List.map_map]
  exact List.map_congr_left fun c _ => shownChar_shownChar c

theorem escape_mem_encode_iff (s : String) :
    RichText.escape ∈ Utf8.encode s ↔ '\x1b' ∈ s.toList := by
  rw [Utf8.encode, List.mem_flatMap]
  constructor
  · rintro ⟨c, hc, hmem⟩
    obtain rfl : c = '\x1b' :=
      Char.toNat_inj.mp (Utf8.toNat_eq_of_mem_utf8EncodeChar (by decide) hmem)
    exact hc
  · exact fun hc => ⟨_, hc, by decide⟩

theorem escape_not_mem_encode_withoutEscapes (s : String) :
    RichText.escape ∉ Utf8.encode (withoutEscapes s) := by
  rw [escape_mem_encode_iff, toList_withoutEscapes, List.mem_map]
  rintro ⟨c, -, hc⟩
  exact shownChar_ne_escape c hc

inductive HandedOn where
  | same (s : String)
  | new (s : String)
  deriving DecidableEq, Repr

def HandedOn.text : HandedOn → String
  | .same s | .new s => s

/-- A new text is made only where a byte of the old one is an escape. -/
def handOn (s : String) : HandedOn :=
  if RichText.escape ∈ Utf8.encode s then .new (Text.replaceChar s '\x1b' escapeStandIn) else .same s

theorem handOn_eq (s : String) :
    handOn s = if hasEscape s then .new (withoutEscapes s) else .same s := by
  have hbytes : RichText.escape ∈ Utf8.encode s ↔ hasEscape s = true := by
    rw [escape_mem_encode_iff, hasEscape, List.contains_iff_mem]
  simp only [handOn, hbytes]
  rfl

theorem handOn_eq_same_iff (s : String) : handOn s = .same s ↔ '\x1b' ∉ s.toList := by
  rw [handOn, ← escape_mem_encode_iff]
  split
  case isTrue h => simp [h]
  case isFalse h => simp [h]

theorem text_handOn (s : String) : (handOn s).text = withoutEscapes s := by
  rw [handOn]
  split
  case isTrue => rfl
  case isFalse h =>
    rw [escape_mem_encode_iff] at h
    exact (RichText.shownOutside_of_escapeFree h).symm

namespace RichText

mutual

def BuildStep.shielded : BuildStep → BuildStep
  | .text s => .text (withoutEscapes s)
  | .color c => .color c
  | .newline => .newline
  | .colored c s => .colored c (withoutEscapes s)
  | .append steps => .append (shielded steps)

def shielded : List BuildStep → List BuildStep
  | [] => []
  | s :: steps => s.shielded :: shielded steps

end

mutual

def BuildStep.pushedText : BuildStep → String
  | .text s => s
  | .color _ => ""
  | .newline => "\n"
  | .colored _ s => s
  | .append steps => pushedText steps

def pushedText : List BuildStep → String
  | [] => ""
  | s :: steps => s.pushedText ++ pushedText steps

end

namespace Piece

def char? : Piece → Option Char
  | .char c => some c
  | .color _ => none

def shown : Piece → Piece
  | .char c => .char (shownChar c)
  | .color c => .color c

theorem shown_ne_escape (p : Piece) : p.shown ≠ .char '\x1b' := by
  cases p with
  | char c => exact fun h => shownChar_ne_escape c (Piece.char.inj h)
  | color c => exact nofun

theorem char?_shown (p : Piece) : p.shown.char? = p.char?.map shownChar := by
  cases p <;> rfl

theorem filterMap_char?_ofText (s : String) : (ofText s).filterMap char? = s.toList := by
  rw [ofText, List.filterMap_map]
  exact List.filterMap_some

theorem map_shown_ofText (s : String) : (ofText s).map shown = ofText (withoutEscapes s) := by
  rw [ofText, ofText, toList_withoutEscapes, List.map_map, List.map_map]
  rfl

end Piece

mutual

theorem pieces_shielded_step (s : BuildStep) : s.shielded.pieces = s.pieces.map Piece.shown := by
  cases s with
  | text s => exact (Piece.map_shown_ofText s).symm
  | color c => rfl
  | newline => rfl
  | colored c s => exact congrArg (.color c :: ·) (Piece.map_shown_ofText s).symm
  | append steps => exact pieces_shielded steps

theorem pieces_shielded (steps : List BuildStep) :
    pieces (shielded steps) = (pieces steps).map Piece.shown := by
  cases steps with
  | nil => rfl
  | cons s steps =>
    rw [shielded, pieces, pieces, List.map_append, pieces_shielded_step s, pieces_shielded steps]

end

mutual

theorem toList_pushedText_step (s : BuildStep) :
    s.pushedText.toList = s.pieces.filterMap Piece.char? := by
  cases s with
  | text s => exact (Piece.filterMap_char?_ofText s).symm
  | color c => rfl
  | newline => rfl
  | colored c s => exact (Piece.filterMap_char?_ofText s).symm
  | append steps => exact toList_pushedText steps

theorem toList_pushedText (steps : List BuildStep) :
    (pushedText steps).toList = (pieces steps).filterMap Piece.char? := by
  cases steps with
  | nil => rfl
  | cons s steps =>
    rw [pushedText, pieces, String.toList_append, List.filterMap_append, toList_pushedText_step s,
      toList_pushedText steps]

end

theorem map_fst_glyphsOf (color : Rgba) (ps : List Piece) :
    (glyphsOf color ps).map Prod.fst = ps.filterMap Piece.char? := by
  induction ps generalizing color with
  | nil => rfl
  | cons p ps ih =>
    cases p with
    | char c =>
      have hchar : (Glyph.ofChar color c).1 = c := by
        unfold Glyph.ofChar
        split <;> rfl
      rw [glyphsOf, List.map_cons, ih, hchar]
      rfl
    | color c => exact ih c

/-- A run is cut from the text at whole characters. -/
theorem encode_of_run_mem {text : String} {color c : Rgba} {ps : List Piece} {bs : Bytes}
    (h : .run bs c ∈ segmentsOf text color ps) : ∃ s, bs = Utf8.encode s := by
  have hrun {text : String} {color : Rgba} (h : .run bs c ∈ Segment.runs (Utf8.encode text) color) :
      ∃ s, bs = Utf8.encode s := by
    unfold Segment.runs at h
    split at h
    · cases h
    · cases List.mem_singleton.mp h
      exact ⟨text, rfl⟩
  induction ps generalizing text color with
  | nil => exact hrun h
  | cons p ps ih =>
    cases p with
    | char x =>
      rw [segmentsOf] at h
      split at h
      case isTrue =>
        rcases List.mem_append.mp h with h | h
        · exact hrun h
        · exact ih ((List.mem_cons.mp h).resolve_left (by simp))
      case isFalse => exact ih h
    | color c' =>
      rcases List.mem_append.mp h with h | h
      · exact hrun h
      · exact ih h

theorem escape_not_mem_shielded (steps : List BuildStep) :
    Piece.char '\x1b' ∉ pieces (shielded steps) := by
  rw [pieces_shielded, List.mem_map]
  rintro ⟨p, -, hp⟩
  exact p.shown_ne_escape hp

theorem toList_plainText_shielded (steps : List BuildStep) :
    (build .empty (shielded steps)).plainText.toList = (pushedText steps).toList.map shownChar := by
  have hbytes := bytes_build .empty (shielded steps)
  rw [bytes_empty, List.nil_append] at hbytes
  rw [toList_plainText, glyphs_of_pieces hbytes (escape_not_mem_shielded steps), map_fst_glyphsOf,
    pieces_shielded, toList_pushedText, List.filterMap_map, List.map_filterMap]
  congr 1
  funext p
  exact p.char?_shown

/-- Text from outside is shown as it was pushed, with a stand-in for each escape and a line feed for
each break, and every run is read back as the text it was. Making a text fit to be pushed changes its
escapes only, and hands on the text itself if it has none. -/
theorem outside_text_stays_visible :
    (∀ steps : List BuildStep,
      let t := build .empty (shielded steps)
      t.plainText.toList = (pushedText steps).toList.map shownChar ∧
        ∀ color bs c, .run bs c ∈ t.segments color →
          ∃ s, bs = Utf8.encode s ∧ Utf8.decodeLossy bs = s) ∧
      ∀ s : String,
        let shown := withoutEscapes s
        escape ∉ Utf8.encode shown ∧ shown.length = s.length ∧
          (∀ i : Nat, shown.toList[i]? = s.toList[i]?.map shownChar) ∧ withoutEscapes shown = shown ∧
          (handOn s).text = shown ∧ (handOn s = .same s ↔ '\x1b' ∉ s.toList) ∧
          handOn s = if hasEscape s then .new shown else .same s := by
  constructor
  · intro steps t
    refine ⟨toList_plainText_shielded steps, fun color bs c hrun => ?_⟩
    rw [segments_build _ color (escape_not_mem_shielded steps)] at hrun
    obtain ⟨s, rfl⟩ := encode_of_run_mem hrun
    exact ⟨s, rfl, Utf8.decodeLossy_encode s⟩
  · intro s shown
    have hlength : shown.length = s.length := by
      rw [← String.length_toList, ← String.length_toList, toList_withoutEscapes, List.length_map]
    have hplace (i : Nat) : shown.toList[i]? = s.toList[i]?.map shownChar := by
      rw [toList_withoutEscapes, List.getElem?_map]
    exact ⟨escape_not_mem_encode_withoutEscapes s, hlength, hplace, withoutEscapes_withoutEscapes s,
      text_handOn s, handOn_eq_same_iff s, handOn_eq s⟩

example : (build .empty (shielded [.text "é\x1b", .colored ⟨0xE2, 0x90, 0x9B, 0x0A⟩ "\x1b",
    .newline, .append [.text "b"]])).plainText = "é\u241b\u241b\nb" := by decide +kernel

end RichText

end TraceView
