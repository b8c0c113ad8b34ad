import TraceView.RichText.Render
import TraceView.Screen.LineBuilder

namespace TraceView

namespace Paint

def IsInline : Paint → Prop
  | .pushSmallFont | .popFont | .beginTooltip | .endTooltip => False
  | _ => True

end Paint

namespace RichText

theorem isInline_renderFrom (segs : List Segment) (active : Rgba) (lineStart : Bool) :
    ∀ call ∈ renderFrom active lineStart segs, call.IsInline := by
  induction segs generalizing active lineStart with
  | nil => simp [renderFrom, Paint.IsInline]
  | cons seg segs ih =>
    cases seg with
    | run text color =>
      simp only [renderFrom, List.mem_append, List.mem_cons]
      rintro call ((hcall | hcall) | rfl | hcall)
      · split at hcall
        · cases hcall
        · simp only [List.mem_cons, List.not_mem_nil, or_false] at hcall
          obtain rfl | rfl := hcall <;> trivial
      · split at hcall
        · cases hcall
        · rw [List.mem_singleton.mp hcall]
          trivial
      · trivial
      · exact ih color false call hcall
    | lineBreak =>
      simp only [renderFrom, List.mem_cons]
      rintro call (rfl | hcall)
      · trivial
      · exact ih active true call hcall

theorem isInline_render (t : RichText) (color : Rgba) : ∀ call ∈ t.render color, call.IsInline := by
  simp only [render, List.mem_cons]
  rintro call (rfl | hcall)
  · trivial
  · exact isInline_renderFrom _ color true call hcall

theorem stackAfter_renderFrom (segs : List Segment) (active : Rgba) (lineStart : Bool)
    (stack : List Rgba) :
    (renderFrom active lineStart segs).foldl Paint.stackAfter (active :: stack) = stack := by
  induction segs generalizing active lineStart with
  | nil => rfl
  | cons seg segs ih =>
    cases seg with
    | run text color =>
      simp only [renderFrom, List.foldl_append, List.foldl_cons]
      rw [← ih color false]
      congr 1
      split <;> split <;> simp_all [Paint.stackAfter]
    | lineBreak => exact ih active true

theorem stackAfter_render (t : RichText) (color : Rgba) (stack : List Rgba) :
    (t.render color).foldl Paint.stackAfter stack = stack :=
  stackAfter_renderFrom _ color true stack

end RichText

namespace LineBuilder

variable {b : LineBuilder} {call : Paint} {calls : List Paint}

@[simp] theorem paintAll_nil (b : LineBuilder) : b.paintAll [] = b := rfl

@[simp] theorem paintAll_cons (b : LineBuilder) (call : Paint) (calls : List Paint) :
    b.paintAll (call :: calls) = (b.paint call).paintAll calls := rfl

def behind (b : LineBuilder) (lines : List TextLine) : LineBuilder :=
  { b with lines := lines ++ b.lines }

theorem behind_finishLine (b : LineBuilder) (lines : List TextLine) :
    (b.behind lines).finishLine = b.finishLine.behind lines := by
  simp [behind, finishLine]

theorem paint_behind (h : call.IsInline) (b : LineBuilder) (lines : List TextLine) :
    (b.behind lines).paint call = (b.paint call).behind lines := by
  cases call with
  | pushColor | popColor | text | sameLine => rfl
  | newLine => exact behind_finishLine b lines
  | pushSmallFont | popFont | beginTooltip | endTooltip => exact h.elim

theorem paintAll_behind (h : ∀ call ∈ calls, call.IsInline) (b : LineBuilder)
    (lines : List TextLine) :
    (b.behind lines).paintAll calls = (b.paintAll calls).behind lines := by
  induction calls generalizing b with
  | nil => rfl
  | cons call calls ih =>
    obtain ⟨hcall, hcalls⟩ := List.forall_mem_cons.mp h
    rw [paintAll_cons, paint_behind hcall, ih hcalls, paintAll_cons]

theorem colors_paintAll (b : LineBuilder) (calls : List Paint) :
    (b.paintAll calls).colors = calls.foldl Paint.stackAfter b.colors := by
  induction calls generalizing b with
  | nil => rfl
  | cons call calls ih =>
    rw [paintAll_cons, ih, List.foldl_cons]
    congr 1
    cases call with
    | pushSmallFont =>
      simp only [paint]
      split <;> rfl
    | beginTooltip | endTooltip =>
      simp only [paint, settle]
      split <;> rfl
    | _ => rfl

theorem paintAll_inline (h : ∀ call ∈ calls, call.IsInline) (b : LineBuilder) :
    ∃ colors current lines, b.paintAll calls = { b with colors, current, lines } := by
  induction calls generalizing b with
  | nil => exact ⟨b.colors, b.current, b.lines, rfl⟩
  | cons call calls ih =>
    obtain ⟨hcall, hcalls⟩ := List.forall_mem_cons.mp h
    obtain ⟨colors, current, lines, heq⟩ := ih hcalls (b.paint call)
    refine ⟨colors, current, lines, ?_⟩
    rw [paintAll_cons, heq]
    cases call with
    | pushColor | popColor | text | sameLine | newLine => rfl
    | pushSmallFont | popFont | beginTooltip | endTooltip => exact hcall.elim

theorem paintAll_render (b : LineBuilder) (t : RichText) (color : Rgba) :
    ∃ current lines, b.paintAll (t.render color) = { b with current, lines } := by
  obtain ⟨colors, current, lines, heq⟩ := paintAll_inline (RichText.isInline_render t color) b
  have hcolors : (b.paintAll (t.render color)).colors = b.colors := by
    rw [colors_paintAll, RichText.stackAfter_render]
  rw [heq] at hcolors ⊢
  exact ⟨current, lines, by simp_all⟩

end LineBuilder

end TraceView
