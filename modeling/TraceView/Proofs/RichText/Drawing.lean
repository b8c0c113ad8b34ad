import TraceView.Proofs.RichText.Decoding
import TraceView.RichText.Render

namespace TraceView

namespace Paint

def IsShown : Paint → Prop
  | .text _ | .sameLine | .newLine => True
  | _ => False

def colorChange : Paint → Int
  | .pushColor _ => 1
  | .popColor => -1
  | _ => 0

def openColors : List Paint → Int
  | [] => 0
  | call :: calls => call.colorChange + openColors calls

/-- With `depth` colors pushed before: never fewer than none, exactly one where something is shown, and
none in the end. -/
def Steady (depth : Int) : List Paint → Prop
  | [] => depth = 0
  | call :: calls =>
    0 ≤ depth ∧ (call.IsShown → depth = 1) ∧ Steady (depth + call.colorChange) calls

theorem Steady.openColors_eq {depth : Int} {calls : List Paint} (h : Steady depth calls) :
    depth + openColors calls = 0 := by
  induction calls generalizing depth with
  | nil => exact (Int.add_zero depth).trans h
  | cons call calls ih => rw [openColors, ← Int.add_assoc, ih h.2.2]

theorem Steady.at_call {depth : Int} {before after : List Paint} {call : Paint}
    (h : Steady depth (before ++ call :: after)) :
    0 ≤ depth + openColors before ∧ (call.IsShown → depth + openColors before = 1) := by
  induction before generalizing depth with
  | nil =>
    rw [openColors, Int.add_zero]
    exact ⟨h.1, h.2.1⟩
  | cons first before ih =>
    rw [openColors, ← Int.add_assoc]
    exact ih h.2.2

theorem Steady.nonneg {depth : Int} {calls : List Paint} (h : Steady depth calls) : 0 ≤ depth := by
  cases calls with
  | nil => exact Int.le_of_eq h.symm
  | cons => exact h.1

theorem length_stackAfter {stack : List Rgba} {call : Paint}
    (h : 0 ≤ stack.length + call.colorChange) :
    (stackAfter stack call).length = stack.length + call.colorChange := by
  cases call with
  | popColor =>
    rw [colorChange] at h ⊢
    rw [stackAfter, List.length_tail]
    omega
  | pushColor | text | sameLine | newLine | pushSmallFont | popFont | beginTooltip | endTooltip => rfl

/-- No pop among steady calls is a pop of nothing, so the colors that are pushed are counted right. -/
theorem Steady.length_foldl {depth : Int} {before after : List Paint} {stack : List Rgba}
    (h : Steady depth (before ++ after)) (hdepth : depth ≤ stack.length) :
    (before.foldl stackAfter stack).length = stack.length + openColors before := by
  induction before generalizing depth stack with
  | nil => exact (Int.add_zero _).symm
  | cons call before ih =>
    have hrest : Steady (depth + call.colorChange) (before ++ after) := h.2.2
    have hnext := hrest.nonneg
    have hlength := length_stackAfter (show 0 ≤ stack.length + call.colorChange by omega)
    rw [List.foldl_cons, ih hrest (by omega), hlength, openColors, Int.add_assoc]

theorem coloredRunsFrom_append (stack : List Rgba) (calls more : List Paint) :
    coloredRunsFrom stack (calls ++ more) =
      coloredRunsFrom stack calls ++ coloredRunsFrom (calls.foldl stackAfter stack) more := by
  induction calls generalizing stack with
  | nil => rfl
  | cons call calls ih => cases call <;> simp [coloredRunsFrom, stackAfter, ih]

end Paint

namespace Segment

def color? : Segment → Option Rgba
  | .run _ color => some color
  | .lineBreak => none

def coloredRun? : Segment → Option (String × Rgba)
  | .run text color => some (Utf8.decodeLossy text, color)
  | .lineBreak => none

def isRun : Segment → Bool
  | .run .. => true
  | .lineBreak => false

def lastColor (color : Rgba) (segs : List Segment) : Rgba :=
  (segs.filterMap color?).getLast?.getD color

def endsInRun (segs : List Segment) : Bool := segs.getLast?.any isRun

@[simp] theorem lastColor_run (color c : Rgba) (segs : List Segment) (text : Bytes) :
    lastColor color (segs ++ [.run text c]) = c := by
  simp [lastColor, color?]

@[simp] theorem lastColor_lineBreak (color : Rgba) (segs : List Segment) :
    lastColor color (segs ++ [.lineBreak]) = lastColor color segs := by
  simp [lastColor, color?]

@[simp] theorem endsInRun_concat (segs : List Segment) (seg : Segment) :
    endsInRun (segs ++ [seg]) = seg.isRun := by
  simp [endsInRun]

/-- What is called for a segment behind others: colors are exchanged where the color is a new one, and
a run right behind a run stays on its line. -/
def calls (color : Rgba) (before : List Segment) : Segment → List Paint
  | .run text c =>
    (if c = lastColor color before then [] else [.popColor, .pushColor c])
      ++ (if endsInRun before then [.sameLine] else []) ++ [.text (Utf8.decodeLossy text)]
  | .lineBreak => [.newLine]

theorem map_text?_parseFrom (taken xs : Bytes) (c d : Rgba) :
    (parseFrom taken c xs).map text? = (parseFrom taken d xs).map text? := by
  have hruns (text : Bytes) (c d : Rgba) : (runs text c).map text? = (runs text d).map text? := by
    unfold runs
    split <;> rfl
  fun_induction parseFrom taken c xs generalizing d with
  | case1 taken c =>
    rw [pending?_toList, parseFrom_nil]
    exact hruns _ c d
  | case2 taken c xs ih =>
    rw [pending?_toList, parseFrom_lineFeed, List.map_append, List.map_append, hruns _ c d]
    simp only [List.map_cons, ih d, parse]
  | case3 taken c r g b a xs hne ih =>
    rw [pending?_toList, parseFrom_escape, List.map_append, List.map_append, hruns _ c d, parse]
  | case4 taken c code few hne =>
    rw [parseFrom.eq_3 _ _ _ _ few, if_neg hne, if_pos rfl, pending?_toList, pending?_toList]
    exact hruns _ c d
  | case5 taken c x xs hlf hesc ih =>
    have hplain : IsPlain [x] := isPlain_cons.mpr ⟨⟨hlf, hesc⟩, isPlain_nil⟩
    rw [ih d]
    exact congrArg (List.map text?) (parseFrom_plain hplain taken d xs).symm

end Segment

namespace RichText

open Paint (Steady coloredRunsFrom)

theorem steady_renderFrom (segs : List Segment) (active : Rgba) (lineStart : Bool) :
    Steady 1 (renderFrom active lineStart segs) := by
  induction segs generalizing active lineStart with
  | nil => simp [renderFrom, Steady, Paint.IsShown, Paint.colorChange]
  | cons seg segs ih =>
    cases seg with
    | run text color =>
      have hrest := ih color false
      rw [renderFrom]
      split <;> cases lineStart <;> simp [Steady, Paint.IsShown, Paint.colorChange, hrest]
    | lineBreak =>
      have hrest := ih active true
      simp [renderFrom, Steady, Paint.colorChange, hrest]

theorem steady_render (t : RichText) (color : Rgba) : Steady 0 (t.render color) :=
  ⟨Int.le_refl 0, False.elim, steady_renderFrom _ color true⟩

/-- Under the color in force, each run is drawn in its own, and what comes next finds the colors that
were pushed before. -/
theorem coloredRunsFrom_renderFrom (segs : List Segment) (active : Rgba) (lineStart : Bool)
    (stack : List Rgba) (more : List Paint) :
    coloredRunsFrom (active :: stack) (renderFrom active lineStart segs ++ more) =
      segs.filterMap Segment.coloredRun? ++ coloredRunsFrom stack more := by
  induction segs generalizing active lineStart with
  | nil => rfl
  | cons seg segs ih =>
    cases seg with
    | run text color =>
      have hrest := ih color false
      rw [renderFrom]
      split
      case isTrue heq =>
        subst heq
        cases lineStart <;>
          simp [coloredRunsFrom, Paint.stackAfter, Segment.coloredRun?, hrest]
      case isFalse =>
        cases lineStart <;>
          simp [coloredRunsFrom, Paint.stackAfter, Segment.coloredRun?, hrest]
    | lineBreak => exact ih active true

theorem coloredRunsFrom_render (t : RichText) (color : Rgba) (stack : List Rgba)
    (more : List Paint) :
    coloredRunsFrom stack (t.render color ++ more) =
      (t.segments color).filterMap Segment.coloredRun? ++ coloredRunsFrom stack more :=
  coloredRunsFrom_renderFrom _ color true stack more

theorem coloredRunsFrom_texts (stack : List Rgba) (texts : List (RichText × Rgba)) :
    coloredRunsFrom stack (texts.flatMap fun p => p.1.render p.2) =
      texts.flatMap fun p => (p.1.segments p.2).filterMap Segment.coloredRun? := by
  induction texts with
  | nil => rfl
  | cons p texts ih => rw [List.flatMap_cons, coloredRunsFrom_render, ih, List.flatMap_cons]

theorem renderFrom_eq_calls (color : Rgba) (before segs : List Segment) :
    renderFrom (Segment.lastColor color before) (!Segment.endsInRun before) segs =
      (segs.mapIdx fun i seg => seg.calls color (before ++ segs.take i)).flatten ++ [.popColor] := by
  induction segs generalizing before with
  | nil => rfl
  | cons seg segs ih =>
    have hrest := ih (before ++ [seg])
    simp only [List.append_assoc, List.singleton_append] at hrest
    rw [List.mapIdx_cons, List.take_zero, List.append_nil, List.flatten_cons, List.append_assoc]
    simp only [List.take_succ_cons]
    rw [← hrest]
    cases seg with
    | run text c =>
      rw [renderFrom, Segment.calls, Segment.lastColor_run, Segment.endsInRun_concat]
      cases Segment.endsInRun before <;> simp [Segment.isRun]
    | lineBreak => simp [renderFrom, Segment.calls, Segment.isRun]

theorem shownText_renderFrom (segs : List Segment) (active : Rgba) (lineStart : Bool) :
    Paint.shownText (renderFrom active lineStart segs) =
      String.join (segs.map fun seg => seg.text?.getD "\n") := by
  induction segs generalizing active lineStart with
  | nil => rfl
  | cons seg segs ih =>
    cases seg with
    | run text color =>
      have hrest := ih color false
      simp only [Paint.shownText] at hrest
      rw [renderFrom]
      split <;> cases lineStart <;> simp [Paint.shownText, Segment.text?, hrest]
    | lineBreak =>
      have hrest := ih active true
      simp only [Paint.shownText] at hrest
      simp [Paint.shownText, renderFrom, Segment.text?, hrest]

theorem shownText_render (t : RichText) (color : Rgba) :
    Paint.shownText (t.render color) = t.plainText := by
  have htexts := Segment.map_text?_parseFrom [] t.bytes color .transparent
  calc
    Paint.shownText (t.render color) = Paint.shownText (renderFrom color true (t.segments color)) := by
      simp [Paint.shownText, render]
    _ = String.join (((t.segments color).map Segment.text?).map (·.getD "\n")) := by
      rw [shownText_renderFrom, List.map_map]
      rfl
    _ = t.plainText := by
      rw [plainText, segments_eq_parse, segments_eq_parse, Segment.parse, htexts, List.map_map]
      rfl

/-- The calls stand segment by segment, as the segments before them tell. The colors pushed are never
fewer than popped, one where something is shown, and none in the end; by that many the depth differs
from what it was. Each run is drawn in its color, and the text is the plain text. Texts drawn one after
the other show their runs one after the other, whatever was drawn before. -/
theorem render_follows_segments (t : RichText) (color : Rgba) :
    let drawn := t.render color
    let segs := t.segments color
    drawn = .pushColor color ::
        (segs.mapIdx fun i seg => seg.calls color (segs.take i)).flatten ++ [.popColor] ∧
      (∀ before call after, drawn = before ++ call :: after →
        0 ≤ Paint.openColors before ∧ (call.IsShown → Paint.openColors before = 1)) ∧
      Paint.openColors drawn = 0 ∧
      (∀ earlier before after, drawn = before ++ after →
        Paint.depth (earlier ++ before) = Paint.depth earlier + Paint.openColors before) ∧
      Paint.coloredRuns drawn = segs.filterMap Segment.coloredRun? ∧
      Paint.shownText drawn = t.plainText ∧
      ∀ (earlier : List Paint) (texts : List (RichText × Rgba)),
        Paint.coloredRuns (earlier ++ texts.flatMap fun p => p.1.render p.2) =
          Paint.coloredRuns earlier ++ texts.flatMap fun p => Paint.coloredRuns (p.1.render p.2) := by
  intro drawn segs
  have hruns (t : RichText) (color : Rgba) :
      Paint.coloredRuns (t.render color) = (t.segments color).filterMap Segment.coloredRun? := by
    have h := coloredRunsFrom_render t color [] []
    rwa [List.append_nil, coloredRunsFrom, List.append_nil] at h
  have hsteady := steady_render t color
  refine ⟨?_, ?_, ?_, ?_, hruns t color, shownText_render t color, ?_⟩
  · exact congrArg (Paint.pushColor color :: ·) (renderFrom_eq_calls color [] segs)
  · intro before call after hdrawn
    have hcall := (hdrawn ▸ hsteady : Steady 0 (before ++ call :: after)).at_call
    rwa [Int.zero_add] at hcall
  · rw [← hsteady.openColors_eq, Int.zero_add]
  · intro earlier before after hdrawn
    have hprefix : Steady 0 (before ++ after) := hdrawn ▸ hsteady
    rw [Paint.depth, List.foldl_append, hprefix.length_foldl (Int.natCast_nonneg _), Paint.depth]
  · intro earlier texts
    simp only [hruns]
    rw [Paint.coloredRuns, Paint.coloredRunsFrom_append, coloredRunsFrom_texts, Paint.coloredRuns]

example : render ⟨[0x61, 0x1B, 9, 8, 7, 6, 0x62, 0x0A, 0x63, 0x1B, 1]⟩ .white =
    [.pushColor .white, .text "a", .popColor, .pushColor ⟨9, 8, 7, 6⟩, .sameLine, .text "b", .newLine,
      .text "c", .popColor] := by decide

end RichText

end TraceView
