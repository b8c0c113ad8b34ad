import TraceView.Proofs.RichText.Decoding

namespace TraceView

namespace Utf8

@[simp] theorem encode_push (s : String) (c : Char) :
    encode (s.push c) = encode s ++ String.utf8EncodeChar c := by
  simp [encode]

theorem encode_ne_nil {s : String} (h : s ≠ "") : encode s ≠ [] := by
  intro hs
  refine h (String.toList_eq_nil_iff.mp (List.eq_nil_iff_forall_not_mem.mpr fun c hc => ?_))
  exact String.utf8EncodeChar_ne_nil (List.flatMap_eq_nil_iff.mp hs c hc)

theorem toNat_eq_of_mem_utf8EncodeChar {b : UInt8} {c : Char} (hb : b.toNat < 128)
    (h : b ∈ String.utf8EncodeChar c) : c.toNat = b.toNat := by
  have hc : c.toNat = c.val.toNat := rfl
  simp only [String.utf8EncodeChar] at h
  split at h
  case isTrue =>
    simp only [List.mem_singleton, ← UInt8.toNat_inj, UInt8.toNat_ofNat'] at h
    omega
  case isFalse =>
    repeat' split at h
    all_goals
      simp only [List.mem_cons, List.not_mem_nil, or_false, ← UInt8.toNat_inj,
        UInt8.toNat_ofNat'] at h
      omega

end Utf8

theorem isPlain_utf8EncodeChar {c : Char} (hlf : c ≠ '\n') (hesc : c ≠ '\x1b') :
    IsPlain (String.utf8EncodeChar c) := by
  constructor
  · intro h
    exact hlf (Char.toNat_inj.mp (Utf8.toNat_eq_of_mem_utf8EncodeChar (by decide) h))
  · intro h
    exact hesc (Char.toNat_inj.mp (Utf8.toNat_eq_of_mem_utf8EncodeChar (by decide) h))

namespace RichText

inductive BuildStep where
  | text (s : String)
  | color (c : Rgba)
  | newline
  | colored (c : Rgba) (s : String)
  | append (steps : List BuildStep)

mutual

def BuildStep.run (t : RichText) : BuildStep → RichText
  | .text s => t.pushText s
  | .color c => t.pushColor c
  | .newline => t.pushNewline
  | .colored c s => t.pushColored c s
  | .append steps => t ++ build .empty steps

def build (t : RichText) : List BuildStep → RichText
  | [] => t
  | s :: steps => build (s.run t) steps

end

inductive Piece where
  | char (c : Char)
  | color (c : Rgba)
  deriving DecidableEq

def Piece.ofText (s : String) : List Piece := s.toList.map .char

def Piece.bytes : Piece → Bytes
  | .char c => String.utf8EncodeChar c
  | .color c => colorCode c

mutual

def BuildStep.pieces : BuildStep → List Piece
  | .text s => Piece.ofText s
  | .color c => [.color c]
  | .newline => [.char '\n']
  | .colored c s => .color c :: Piece.ofText s
  | .append steps => pieces steps

def pieces : List BuildStep → List Piece
  | [] => []
  | s :: steps => s.pieces ++ pieces steps

end

def segmentsOf (text : String) (color : Rgba) : List Piece → List Segment
  | [] => Segment.runs (Utf8.encode text) color
  | .char c :: ps =>
    if c = '\n' then
      Segment.runs (Utf8.encode text) color ++ .lineBreak :: segmentsOf "" color ps
    else segmentsOf (text.push c) color ps
  | .color c :: ps => Segment.runs (Utf8.encode text) color ++ segmentsOf "" c ps

theorem flatMap_ofText (s : String) : (Piece.ofText s).flatMap Piece.bytes = Utf8.encode s := by
  simp only [Piece.ofText, Utf8.encode, List.flatMap_map]
  rfl

mutual

theorem bytes_run (t : RichText) (s : BuildStep) :
    (s.run t).bytes = t.bytes ++ s.pieces.flatMap Piece.bytes := by
  cases s with
  | text s => simp [BuildStep.run, BuildStep.pieces, pushText, pushBytes, flatMap_ofText]
  | color c => simp [BuildStep.run, BuildStep.pieces, pushColor, pushBytes, Piece.bytes]
  | newline =>
    simp [BuildStep.run, BuildStep.pieces, pushNewline, pushBytes, Piece.bytes]
    rfl
  | colored c s =>
    simp [BuildStep.run, BuildStep.pieces, pushColored, pushColor, pushText, pushBytes,
      flatMap_ofText, Piece.bytes]
  | append steps => simp [BuildStep.run, BuildStep.pieces, bytes_build]

theorem bytes_build (t : RichText) (steps : List BuildStep) :
    (build t steps).bytes = t.bytes ++ (pieces steps).flatMap Piece.bytes := by
  cases steps with
  | nil => simp [build, pieces]
  | cons s steps => simp [build, pieces, bytes_build (s.run t) steps, bytes_run t s]

end

theorem parseFrom_pieces (text : String) (color : Rgba) (ps : List Piece)
    (h : Piece.char '\x1b' ∉ ps) :
    Segment.parseFrom (Utf8.encode text).reverse color (ps.flatMap Piece.bytes) =
      segmentsOf text color ps := by
  induction ps generalizing text color with
  | nil => rw [List.flatMap_nil, Segment.parseFrom_nil, List.reverse_reverse, segmentsOf]
  | cons p ps ih =>
    simp only [List.mem_cons, not_or] at h
    obtain ⟨hp, hps⟩ := h
    rw [List.flatMap_cons]
    cases p with
    | char c =>
      by_cases hlf : c = '\n'
      · subst hlf
        have hbytes : (Piece.char '\n').bytes = [lineFeed] := rfl
        rw [hbytes, List.singleton_append, Segment.parseFrom_lineFeed, List.reverse_reverse,
          segmentsOf, if_pos rfl, ← ih "" color hps]
        rfl
      · have hesc : c ≠ '\x1b' := fun hc => hp (hc ▸ rfl)
        rw [Piece.bytes, Segment.parseFrom_plain (isPlain_utf8EncodeChar hlf hesc),
          ← List.reverse_append, ← Utf8.encode_push, ih _ color hps, segmentsOf, if_neg hlf]
    | color c =>
      rw [Piece.bytes, colorCode, Rgba.bytes, List.cons_append]
      simp only [List.cons_append, List.nil_append]
      rw [Segment.parseFrom_escape, List.reverse_reverse, segmentsOf, ← ih "" c hps]
      rfl

theorem segments_build (steps : List BuildStep) (color : Rgba)
    (h : Piece.char '\x1b' ∉ pieces steps) :
    (build .empty steps).segments color = segmentsOf "" color (pieces steps) := by
  rw [segments_eq_parse, bytes_build, ← parseFrom_pieces "" color _ h]
  rfl

theorem segmentsOf_ofText (h : '\n' ∉ s.toList) (text : String) (color : Rgba) (ps : List Piece) :
    segmentsOf text color (Piece.ofText s ++ ps) = segmentsOf (text ++ s) color ps := by
  suffices ∀ cs : List Char, '\n' ∉ cs → ∀ text, segmentsOf text color (cs.map .char ++ ps) =
      segmentsOf (text ++ String.ofList cs) color ps by
    simpa [Piece.ofText] using this s.toList h text
  intro cs hcs
  induction cs with
  | nil => simp
  | cons c cs ih =>
    intro text
    simp only [List.mem_cons, not_or] at hcs
    have hpush : text.push c ++ String.ofList cs = text ++ String.ofList (c :: cs) := by
      simp [← String.toList_inj]
    rw [List.map_cons, List.cons_append, segmentsOf, if_neg (Ne.symm hcs.1), ih hcs.2, hpush]

def coloredParts (parts : List (Rgba × String)) : List BuildStep :=
  parts.map fun part => .colored part.1 part.2

theorem pieces_coloredParts (parts : List (Rgba × String)) :
    pieces (coloredParts parts) = parts.flatMap fun part => .color part.1 :: Piece.ofText part.2 := by
  induction parts with
  | nil => simp [coloredParts, pieces]
  | cons part parts ih =>
    rw [List.flatMap_cons, ← ih]
    simp [coloredParts, pieces, BuildStep.pieces]

theorem segmentsOf_coloredParts (parts : List (Rgba × String))
    (h : ∀ part ∈ parts, part.2 ≠ "" ∧ '\n' ∉ part.2.toList) (text : String) (color : Rgba) :
    segmentsOf text color (pieces (coloredParts parts)) =
      Segment.runs (Utf8.encode text) color ++
        parts.map fun part => .run (Utf8.encode part.2) part.1 := by
  rw [pieces_coloredParts]
  induction parts generalizing text color with
  | nil => rw [List.flatMap_nil, segmentsOf, List.map_nil, List.append_nil]
  | cons part parts ih =>
    obtain ⟨⟨hne, hlf⟩, hparts⟩ := List.forall_mem_cons.mp h
    rw [List.flatMap_cons, List.cons_append, segmentsOf, segmentsOf_ofText hlf, String.empty_append,
      ih hparts, Segment.runs.eq_def (Utf8.encode part.2), if_neg (Utf8.encode_ne_nil hne)]
    rfl

end RichText

namespace Segment

def bytes : Segment → Bytes
  | .run text color => RichText.colorCode color ++ text
  | .lineBreak => [RichText.lineFeed]

theorem parseFrom_flatMap_bytes (segs : List Segment) (h : ∀ seg ∈ segs, seg.IsProper)
    (taken : Bytes) (color : Rgba) :
    parseFrom taken color (segs.flatMap bytes) = runs taken.reverse color ++ segs := by
  induction segs generalizing taken color with
  | nil => rw [List.flatMap_nil, parseFrom_nil, List.append_nil]
  | cons seg segs ih =>
    obtain ⟨hseg, hsegs⟩ := List.forall_mem_cons.mp h
    rw [List.flatMap_cons]
    cases seg with
    | lineBreak =>
      rw [bytes, List.singleton_append, parseFrom_lineFeed, parse, ih hsegs]
      rfl
    | run text c =>
      obtain ⟨hne, hplain⟩ := hseg
      rw [bytes, List.append_assoc, RichText.colorCode, Rgba.bytes]
      simp only [List.cons_append, List.nil_append]
      rw [parseFrom_escape, parse_plain hplain, ih hsegs, List.reverse_reverse, runs.eq_def text,
        if_neg hne]
      rfl

end Segment

namespace RichText

def ofSegments (segs : List Segment) : RichText := ⟨segs.flatMap Segment.bytes⟩

/-- A text decodes to what its building steps say, colored parts to one run each, and the decoded
segments of any text, written out again, decode to themselves. -/
theorem segments_inverts_building :
    (∀ (steps : List BuildStep) (color : Rgba), Piece.char '\x1b' ∉ pieces steps →
      (build .empty steps).segments color = segmentsOf "" color (pieces steps)) ∧
    (∀ (parts : List (Rgba × String)) (color : Rgba),
      (∀ part ∈ parts, part.2 ≠ "" ∧ '\n' ∉ part.2.toList ∧ '\x1b' ∉ part.2.toList) →
      (build .empty (coloredParts parts)).segments color =
        parts.map fun part => .run (Utf8.encode part.2) part.1) ∧
    ∀ (t : RichText) (color : Rgba),
      (ofSegments (t.segments color)).segments color = t.segments color := by
  refine ⟨segments_build, fun parts color h => ?_, fun t color => ?_⟩
  · have hesc : Piece.char '\x1b' ∉ pieces (coloredParts parts) := by
      rw [pieces_coloredParts]
      simp only [Piece.ofText, List.mem_flatMap, List.mem_cons, List.mem_map, not_exists, not_and]
      rintro part hpart (hp | ⟨c, hc, hp⟩)
      · cases hp
      · cases hp
        exact (h part hpart).2.2 hc
    have hparts : ∀ part ∈ parts, part.2 ≠ "" ∧ '\n' ∉ part.2.toList :=
      fun part hpart => ⟨(h part hpart).1, (h part hpart).2.1⟩
    rw [segments_build _ color hesc, segmentsOf_coloredParts parts hparts]
    rfl
  · have hproper : ∀ seg ∈ t.segments color, seg.IsProper :=
      (Segment.reads_iff.mpr (segments_eq_parse t color).symm).isProper
    rw [segments_eq_parse, ofSegments, Segment.parse, Segment.parseFrom_flatMap_bytes _ hproper]
    rfl

theorem segments_inverts_building_tokens :
    let c : Rgba := ⟨0x0A, 0x1B, 0x0A, 0x1B⟩
    let steps : List BuildStep :=
      [.text "a\n", .append [.color c, .text "", .text "b"], .newline, .text "d", .text "e"]
    let parts : List (Rgba × String) := [(c, "a"), (c, "b")]
    Piece.char '\x1b' ∉ pieces steps ∧
      (build .empty steps).segments .white =
        [.run [0x61] .white, .lineBreak, .run [0x62] c, .lineBreak, .run [0x64, 0x65] c] ∧
      (∀ part ∈ parts, part.2 ≠ "" ∧ '\n' ∉ part.2.toList ∧ '\x1b' ∉ part.2.toList) ∧
      (build .empty (coloredParts parts)).segments .white = [.run [0x61] c, .run [0x62] c] := by
  intro c steps parts
  have hsteps : Piece.char '\x1b' ∉ pieces steps := by decide
  have hparts : ∀ part ∈ parts, part.2 ≠ "" ∧ '\n' ∉ part.2.toList ∧ '\x1b' ∉ part.2.toList := by
    decide
  refine ⟨hsteps, ?_, hparts, ?_⟩
  · rw [segments_inverts_building.1 steps .white hsteps]
    decide
  · rw [segments_inverts_building.2.1 parts .white hparts]
    decide

end RichText

end TraceView
