import TraceView.Proofs.RichText.Encoding
import TraceView.Proofs.Text.Utf8
import TraceView.Text.Replace

namespace TraceView

/-- A visible character in its color. A line feed has none. -/
abbrev Glyph := Char × Option Rgba

def Glyph.ofChar (color : Rgba) (c : Char) : Glyph := if c = '\n' then (c, none) else (c, some color)

def Segment.glyphs : Segment → List Glyph
  | .run text color => (Utf8.decode text).map fun c => (c, some color)
  | .lineBreak => [('\n', none)]

namespace RichText

def glyphs (t : RichText) (color : Rgba) : List Glyph := (t.segments color).flatMap Segment.glyphs

def shown (color : Rgba) (s : String) : List Glyph := s.toList.map (Glyph.ofChar color)

inductive IsWhole : Bytes → Prop
  | nil : IsWhole []
  | byte : x ≠ escape → IsWhole xs → IsWhole (x :: xs)
  | code : IsWhole xs → IsWhole (escape :: r :: g :: b :: a :: xs)

theorem IsWhole.not_truncated {xs before rest : Bytes} (h : IsWhole xs) (hbefore : IsWhole before)
    (hrest : rest.length < 4) : xs ≠ before ++ escape :: rest := by
  intro heq
  induction hbefore generalizing xs with
  | nil =>
    cases h with
    | nil => cases heq
    | byte hx => exact hx (List.cons.inj heq).1
    | code =>
      rw [← (List.cons.inj heq).2] at hrest
      simp only [List.length_cons] at hrest
      omega
  | byte hx _ ih =>
    cases h with
    | nil => cases heq
    | byte _ h => exact ih h (List.cons.inj heq).2
    | code => exact hx (List.cons.inj heq).1.symm
  | code _ ih =>
    cases h with
    | nil => cases heq
    | byte hx => exact hx (List.cons.inj heq).1
    | code h =>
      simp only [List.cons_append, List.cons.injEq, true_and] at heq
      exact ih h heq.2.2.2.2

theorem IsWhole.append (h : IsWhole xs) (h' : IsWhole ys) : IsWhole (xs ++ ys) := by
  induction h with
  | nil => exact h'
  | byte hx _ ih => exact .byte hx ih
  | code _ ih => exact .code ih

theorem isWhole_of_not_mem {xs : Bytes} (h : escape ∉ xs) : IsWhole xs := by
  induction xs with
  | nil => exact .nil
  | cons x xs ih =>
    rw [List.mem_cons, not_or] at h
    exact .byte (Ne.symm h.1) (ih h.2)

def EscapeFree (s : String) : Prop := '\x1b' ∉ s.toList

instance (s : String) : Decidable (EscapeFree s) := inferInstanceAs (Decidable ('\x1b' ∉ s.toList))

theorem EscapeFree.append {s t : String} (hs : EscapeFree s) (ht : EscapeFree t) :
    EscapeFree (s ++ t) := by
  rw [EscapeFree, String.toList_append, List.mem_append, not_or]
  exact ⟨hs, ht⟩

def shownOutside (s : String) : String := Text.replaceChar s '\x1b' '\u241b'

theorem withoutEscapes_eq (s : String) : withoutEscapes s = shownOutside s := rfl

theorem escapeFree_shownOutside (s : String) : EscapeFree (shownOutside s) := by
  simp only [EscapeFree, shownOutside, Text.replaceChar, String.toList_ofList, List.mem_map,
    not_exists, not_and]
  intro c _ hc
  split at hc
  · exact absurd hc (by decide)
  · contradiction

theorem shownOutside_append (s t : String) :
    shownOutside (s ++ t) = shownOutside s ++ shownOutside t := by
  simp [shownOutside, Text.replaceChar]

theorem shownOutside_of_escapeFree {s : String} (h : EscapeFree s) : shownOutside s = s := by
  apply String.toList_inj.mp
  rw [shownOutside, Text.replaceChar, String.toList_ofList]
  calc s.toList.map (fun c => if c = '\x1b' then '\u241b' else c)
      = s.toList.map id := by
        refine List.map_congr_left fun c hc => if_neg ?_
        rintro rfl
        exact h hc
    _ = s.toList := List.map_id _

theorem shown_append (color : Rgba) (s t : String) :
    shown color (s ++ t) = shown color s ++ shown color t := by
  simp [shown]

theorem not_mem_ofText {s : String} : Piece.char '\x1b' ∉ Piece.ofText s ↔ EscapeFree s := by
  simp [Piece.ofText, EscapeFree]

theorem isWhole_bytes {p : Piece} (h : p ≠ .char '\x1b') : IsWhole p.bytes := by
  cases p with
  | char c =>
    refine isWhole_of_not_mem fun hmem => h ?_
    exact congrArg Piece.char
      (Char.toNat_inj.mp (Utf8.toNat_eq_of_mem_utf8EncodeChar (by decide) hmem))
  | color c => exact .code .nil

theorem isWhole_pieces {ps : List Piece} (h : Piece.char '\x1b' ∉ ps) :
    IsWhole (ps.flatMap Piece.bytes) := by
  induction ps with
  | nil => exact .nil
  | cons p ps ih =>
    rw [List.mem_cons, not_or] at h
    rw [List.flatMap_cons]
    exact (isWhole_bytes (Ne.symm h.1)).append (ih h.2)

def glyphsOf (color : Rgba) : List Piece → List Glyph
  | [] => []
  | .char c :: ps => Glyph.ofChar color c :: glyphsOf color ps
  | .color c :: ps => glyphsOf c ps

theorem glyphsOf_ofText (color : Rgba) (s : String) (ps : List Piece) :
    glyphsOf color (Piece.ofText s ++ ps) = shown color s ++ glyphsOf color ps := by
  rw [Piece.ofText, shown]
  induction s.toList with
  | nil => rfl
  | cons c cs ih => simp only [List.map_cons, List.cons_append, glyphsOf, ih]

theorem flatMap_glyphs_runs (text : String) (color : Rgba) :
    (Segment.runs (Utf8.encode text) color).flatMap Segment.glyphs =
      text.toList.map fun c => (c, some color) := by
  unfold Segment.runs
  split
  case isTrue h =>
    have htext : text = "" := Decidable.byContradiction fun hne => Utf8.encode_ne_nil hne h
    rw [htext]
    rfl
  case isFalse => simp [Segment.glyphs]

theorem flatMap_glyphs_segmentsOf (text : String) (color : Rgba) (ps : List Piece) :
    (segmentsOf text color ps).flatMap Segment.glyphs =
      text.toList.map (fun c => (c, some color)) ++ glyphsOf color ps := by
  induction ps generalizing text color with
  | nil => rw [segmentsOf, flatMap_glyphs_runs, glyphsOf, List.append_nil]
  | cons p ps ih =>
    cases p with
    | char c =>
      rw [segmentsOf]
      split
      case isTrue hlf =>
        rw [List.flatMap_append, List.flatMap_cons, flatMap_glyphs_runs, ih, glyphsOf, hlf]
        rfl
      case isFalse hlf =>
        rw [ih, glyphsOf, Glyph.ofChar, if_neg hlf]
        simp
    | color c =>
      rw [segmentsOf, List.flatMap_append, flatMap_glyphs_runs, ih, glyphsOf]
      rfl

theorem glyphs_of_pieces {t : RichText} {ps : List Piece}
    (hbytes : t.bytes = ps.flatMap Piece.bytes) (hesc : Piece.char '\x1b' ∉ ps) (color : Rgba) :
    t.glyphs color = glyphsOf color ps := by
  have hparse : Segment.parse t.bytes color = segmentsOf "" color ps := by
    rw [hbytes, ← parseFrom_pieces "" color ps hesc]
    rfl
  rw [glyphs, segments_eq_parse, hparse, flatMap_glyphs_segmentsOf]
  rfl

theorem toList_plainText (t : RichText) :
    t.plainText.toList = (t.glyphs .transparent).map Prod.fst := by
  rw [plainText, String.toList_join, List.flatMap_map, glyphs, List.map_flatMap]
  congr 1
  funext seg
  cases seg with
  | run text color =>
    simp only [Segment.text?, Option.getD_some, Segment.glyphs, Utf8.decodeLossy_eq,
      String.toList_ofList, List.map_map]
    exact (List.map_id _).symm
  | lineBreak => rfl

def shownParts (parts : List (Rgba × String)) : List Glyph :=
  parts.flatMap fun part => shown part.1 part.2

theorem shownParts_append (parts parts' : List (Rgba × String)) :
    shownParts (parts ++ parts') = shownParts parts ++ shownParts parts' :=
  List.flatMap_append

theorem map_fst_shownParts (parts : List (Rgba × String)) :
    (shownParts parts).map Prod.fst = (String.join (parts.map Prod.snd)).toList := by
  rw [shownParts, List.map_flatMap, String.toList_join, List.flatMap_map]
  congr 1
  funext part
  rw [shown, List.map_map]
  refine List.map_id'' (fun c => ?_) _
  simp only [Function.comp, Glyph.ofChar]
  split <;> rfl

/-- The text reads to its end, and it shows the parts, each in its own color and nothing else. -/
structure Shows (t : RichText) (parts : List (Rgba × String)) : Prop where
  whole : IsWhole t.bytes
  glyphs : ∀ color, t.glyphs color = shownParts parts
  plainText : t.plainText = String.join (parts.map Prod.snd)

theorem Shows.congr {t : RichText} {parts parts' : List (Rgba × String)} (h : t.Shows parts)
    (heq : shownParts parts = shownParts parts') : t.Shows parts' := by
  refine ⟨h.whole, fun color => (h.glyphs color).trans heq, h.plainText.trans ?_⟩
  apply String.toList_inj.mp
  rw [← map_fst_shownParts, ← map_fst_shownParts, heq]

/-- The text shows the parts so far, and what is pushed next comes in the color `color`. -/
def Paints (t : RichText) (color : Rgba) (parts : List (Rgba × String)) : Prop :=
  ∃ ps, t.bytes = ps.flatMap Piece.bytes ∧ Piece.char '\x1b' ∉ ps ∧
    ∀ start more, glyphsOf start (ps ++ more) = shownParts parts ++ glyphsOf color more

namespace Paints

variable {t : RichText} {color : Rgba} {parts : List (Rgba × String)} {s : String}

theorem shows (h : t.Paints color parts) : t.Shows parts := by
  obtain ⟨ps, hbytes, hesc, hglyphs⟩ := h
  have hall : ∀ start, t.glyphs start = shownParts parts := by
    intro start
    have hps := hglyphs start []
    rw [List.append_nil, glyphsOf, List.append_nil] at hps
    rw [glyphs_of_pieces hbytes hesc, hps]
  refine ⟨?_, hall, ?_⟩
  · rw [hbytes]
    exact isWhole_pieces hesc
  · apply String.toList_inj.mp
    rw [toList_plainText, hall, map_fst_shownParts]

theorem pushText (h : t.Paints color parts) (hs : EscapeFree s) :
    (t.pushText s).Paints color (parts ++ [(color, s)]) := by
  obtain ⟨ps, hbytes, hesc, hglyphs⟩ := h
  refine ⟨ps ++ Piece.ofText s, ?_, ?_, ?_⟩
  · simp [RichText.pushText, pushBytes, hbytes, flatMap_ofText]
  · rw [List.mem_append, not_or]
    exact ⟨hesc, not_mem_ofText.mpr hs⟩
  · intro start more
    rw [List.append_assoc, hglyphs, glyphsOf_ofText]
    simp [shownParts]

theorem pushColor (h : t.Paints color parts) (c : Rgba) : (t.pushColor c).Paints c parts := by
  obtain ⟨ps, hbytes, hesc, hglyphs⟩ := h
  refine ⟨ps ++ [.color c], ?_, ?_, ?_⟩
  · simp [RichText.pushColor, pushBytes, hbytes, Piece.bytes]
  · simp [hesc]
  · intro start more
    rw [List.append_assoc, hglyphs]
    rfl

theorem pushColored (h : t.Paints color parts) (c : Rgba) (hs : EscapeFree s) :
    (t.pushColored c s).Paints c (parts ++ [(c, s)]) :=
  (h.pushColor c).pushText hs

theorem pushNewline (h : t.Paints color parts) :
    t.pushNewline.Paints color (parts ++ [(color, "\n")]) :=
  h.pushText (s := "\n") (by decide)

theorem first (c : Rgba) (hs : EscapeFree s) : (empty.pushColored c s).Paints c [(c, s)] := by
  have h : (empty.pushColor c).Paints c [] :=
    ⟨[.color c], rfl, by simp, fun _ _ => rfl⟩
  exact h.pushText hs

end Paints

end RichText

end TraceView
