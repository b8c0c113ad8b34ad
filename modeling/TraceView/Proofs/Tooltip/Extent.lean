import Mathlib
import TraceView.Proofs.RichText.Decoding
import TraceView.Proofs.Screen.LineBuilder
import TraceView.Proofs.Text.Width
import TraceView.Tooltip

namespace TraceView

namespace Segment

variable {color : Rgba} {xs : Bytes} {segs : List Segment}

def size : Segment → Nat
  | .run text _ => text.length
  | .lineBreak => 0

theorem size_runs (text : Bytes) (color : Rgba) : ((runs text color).map size).sum = text.length := by
  cases text <;> simp [runs, size]

theorem Reads.size_le (h : Reads color xs segs) : (segs.map size).sum ≤ xs.length := by
  induction h with
  | finish _ => exact Nat.le_of_eq (size_runs _ _)
  | newline _ _ ih =>
    simp only [List.map_append, List.map_cons, List.sum_append, List.sum_cons, List.length_append,
      List.length_cons, size_runs, size]
    omega
  | select _ _ ih =>
    simp only [List.map_append, List.sum_append, List.length_append, List.length_cons, size_runs]
    omega
  | truncated _ _ =>
    rw [size_runs, List.length_append]
    omega

end Segment

def Paint.cells : Paint → Nat
  | .text s => Text.width s
  | _ => 0

namespace RichText

theorem size_pushNewline (t : RichText) : t.pushNewline.size = t.size + 1 := by
  simp [pushNewline, pushBytes, size]

theorem size_pushText_le (t : RichText) (s : String) : (t.pushText s).size ≤ t.size + 4 * s.length := by
  simpa [pushText, pushBytes, size] using Utf8.length_encode_le s

theorem size_pushColored_le (t : RichText) (c : Rgba) (s : String) :
    (t.pushColored c s).size ≤ t.size + 5 + 4 * s.length := by
  have hcolor : (t.pushColor c).size = t.size + 5 := by
    simp [pushColor, pushBytes, size, colorCode, Rgba.bytes]
  rw [← hcolor]
  exact size_pushText_le _ s

theorem reads_segments (t : RichText) (color : Rgba) :
    Segment.Reads color t.bytes (t.segments color) :=
  Segment.reads_iff.mpr (t.segments_eq_parse color).symm

theorem length_renderFrom_le (segs : List Segment) (active : Rgba) (lineStart : Bool) :
    (renderFrom active lineStart segs).length ≤ 4 * segs.length + 1 := by
  induction segs generalizing active lineStart with
  | nil => exact Nat.le_refl _
  | cons seg segs ih =>
    cases seg with
    | run text color =>
      have hrest := ih color false
      simp only [renderFrom, List.length_append, List.length_cons]
      split <;> split <;> simp only [List.length_nil, List.length_cons] <;> omega
    | lineBreak =>
      have hrest := ih active true
      simp only [renderFrom, List.length_cons]
      omega

theorem cells_renderFrom_le (segs : List Segment) (active : Rgba) (lineStart : Bool) :
    ((renderFrom active lineStart segs).map Paint.cells).sum ≤ 3 * (segs.map Segment.size).sum := by
  induction segs generalizing active lineStart with
  | nil => exact Nat.le_refl _
  | cons seg segs ih =>
    cases seg with
    | run text color =>
      have hrest := ih color false
      have hwidth := Text.width_le (Utf8.decodeLossy text)
      have hlength := Utf8.length_decodeLossy_le text
      simp only [renderFrom, List.map_append, List.map_cons, List.sum_append, List.sum_cons,
        Paint.cells, Segment.size]
      split <;> split <;> simp only [List.map_nil, List.map_cons, List.sum_nil, List.sum_cons,
        Paint.cells] <;> omega
    | lineBreak =>
      simpa [renderFrom, Paint.cells, Segment.size] using ih active true

end RichText

namespace LineBuilder

def finished (b : LineBuilder) : List TextLine := b.lines ++ b.parked.getD [] ++ b.tooltip

def load (b : LineBuilder) : Nat := b.finished.length + b.current.length

def cells (b : LineBuilder) : Nat :=
  (b.finished.map TextLine.width).sum + TextLine.width { spans := b.current }

theorem width_concat (spans : List Span) (span : Span) :
    TextLine.width { spans := spans ++ [span] } =
      TextLine.width { spans } + Text.width span.text := by
  simp only [TextLine.width]
  induction spans with
  | nil => exact Nat.add_comm _ _
  | cons first spans ih =>
    rw [List.cons_append, List.foldr_cons, List.foldr_cons, ih, Nat.add_assoc]

theorem load_finishLine (b : LineBuilder) : b.finishLine.load + b.current.length = b.load + 1 := by
  simp only [load, finished, finishLine, List.length_append, List.length_singleton, List.length_nil]
  omega

theorem cells_finishLine (b : LineBuilder) : b.finishLine.cells = b.cells := by
  simp only [cells, finished, finishLine, List.map_append, List.map_cons, List.map_nil,
    List.sum_append, List.sum_cons, List.sum_nil, TextLine.width, List.foldr_nil]
  omega

theorem load_settle_le (b : LineBuilder) : b.settle.load ≤ b.load := by
  unfold settle
  split
  case isTrue => exact Nat.le_refl _
  case isFalse hsome =>
    have hpos : 0 < b.current.length := List.length_pos_iff.mpr (mt List.isEmpty_iff.mpr hsome)
    have hload := load_finishLine b
    omega

theorem cells_settle (b : LineBuilder) : b.settle.cells = b.cells := by
  unfold settle
  split
  case isTrue => rfl
  case isFalse => exact cells_finishLine b

theorem parked_settle (b : LineBuilder) : b.settle.parked = b.parked := by
  unfold settle
  split <;> rfl

/-- A call adds a line at most, and its own cells. -/
theorem paint_le (b : LineBuilder) (call : Paint) :
    (b.paint call).load ≤ b.load + 1 ∧ (b.paint call).cells ≤ b.cells + call.cells := by
  cases call with
  | text s =>
    refine ⟨?_, Nat.le_of_eq ?_⟩
    · simp [paint, load, finished, Nat.add_assoc]
    · simp [paint, cells, finished, width_concat, Paint.cells, Nat.add_assoc]
  | newLine =>
    have hload := load_finishLine b
    exact ⟨by rw [paint]; omega, Nat.le_of_eq (cells_finishLine b)⟩
  | beginTooltip | endTooltip =>
    -- The lines change places, or others take theirs.
    have hload := b.load_settle_le
    have hcells := Nat.le_of_eq b.cells_settle
    simp only [load, cells, finished, parked_settle, List.length_append, List.map_append,
      List.sum_append] at hload hcells
    simp only [paint, load, cells, finished, Paint.cells, List.length_append, List.map_append,
      List.sum_append, Option.getD_some, Option.getD_none, List.length_nil, List.map_nil,
      List.sum_nil]
    omega
  | pushSmallFont =>
    cases hfont : b.hasSmallFont with
    | true => simp [paint, hfont, load, cells, finished]
    | false => simp [paint, hfont]
  | _ => exact ⟨Nat.le_succ _, Nat.le_refl _⟩

theorem paintAll_le (b : LineBuilder) (calls : List Paint) :
    (b.paintAll calls).load ≤ b.load + calls.length ∧
      (b.paintAll calls).cells ≤ b.cells + (calls.map Paint.cells).sum := by
  induction calls generalizing b with
  | nil => exact ⟨Nat.le_refl _, Nat.le_refl _⟩
  | cons call calls ih =>
    obtain ⟨hload, hcells⟩ := b.paint_le call
    obtain ⟨hloads, hsum⟩ := ih (b.paint call)
    rw [paintAll_cons, List.length_cons, List.map_cons, List.sum_cons]
    omega

theorem tooltip_le (b : LineBuilder) :
    b.tooltip.length ≤ b.load ∧ ∀ line ∈ b.tooltip, line.width ≤ b.cells := by
  constructor
  · simp only [load, finished, List.length_append]
    omega
  · intro line hline
    have hmem : line.width ∈ b.finished.map TextLine.width :=
      List.mem_map_of_mem (List.mem_append_right _ hline)
    exact Nat.le_add_right_of_le (List.le_sum_of_mem hmem)

end LineBuilder

namespace Tooltip

variable (smallFont : Bool) (text : RichText) (color : Rgba)

theorem length_overlay_le : (overlay smallFont text color).length ≤ 4 * text.size + 6 := by
  have hsegs : (text.segments color).length ≤ text.size := (text.reads_segments color).length_le
  have hrender := RichText.length_renderFrom_le (text.segments color) color true
  cases smallFont <;> simp only [overlay, RichText.render, List.length_append, List.length_cons,
    List.length_nil, if_true, if_false, Bool.false_eq_true] <;> omega

theorem cells_overlay_le : ((overlay smallFont text color).map Paint.cells).sum ≤ 3 * text.size := by
  have hsegs : ((text.segments color).map Segment.size).sum ≤ text.size :=
    (text.reads_segments color).size_le
  have hrender := RichText.cells_renderFrom_le (text.segments color) color true
  cases smallFont <;> simp only [overlay, RichText.render, List.map_append, List.map_cons,
    List.map_nil, List.sum_append, List.sum_cons, List.sum_nil, Paint.cells, if_true, if_false,
    Bool.false_eq_true] <;> omega

theorem overlay_le (base : Look) (font : Option Modifiers) :
    let lines := (({ base, smallFont := font } : LineBuilder).paintAll
      (overlay smallFont text color)).takeTooltip.1
    lines.length ≤ 4 * text.size + 6 ∧ ∀ line ∈ lines, line.width ≤ 3 * text.size := by
  intro lines
  obtain ⟨hload, hcells⟩ :=
    ({ base, smallFont := font } : LineBuilder).paintAll_le (overlay smallFont text color)
  obtain ⟨hlines, hline⟩ := (({ base, smallFont := font } : LineBuilder).paintAll
    (overlay smallFont text color)).tooltip_le
  have hnone : ({ base, smallFont := font } : LineBuilder).load = 0 ∧
      ({ base, smallFont := font } : LineBuilder).cells = 0 := ⟨rfl, rfl⟩
  rw [hnone.1, Nat.zero_add] at hload
  rw [hnone.2, Nat.zero_add] at hcells
  refine ⟨(hlines.trans hload).trans (length_overlay_le smallFont text color), fun line hmem => ?_⟩
  exact ((hline line hmem).trans hcells).trans (cells_overlay_le smallFont text color)

end Tooltip

end TraceView
