import TraceView.Proofs.RichText.Drawing
import TraceView.Proofs.Screen.LineBuilder

namespace TraceView

theorem RichText.plainText_eq (t : RichText) (color : Rgba) :
    t.plainText = String.join ((t.segments color).map fun seg => seg.text?.getD "\n") := by
  rw [← shownText_render t color, ← shownText_renderFrom _ color true]
  simp [Paint.shownText, render]

namespace Segment

def span? (base : Look) : Segment → Option Span
  | .run text color => some ⟨Utf8.decodeLossy text, { base with fg := some (.ofRgba color) }⟩
  | .lineBreak => none

def linesFrom (base : Look) (current : List Span) : List Segment → List TextLine
  | [] => [{ spans := current }]
  | .run text color :: segs =>
    linesFrom base (current ++ ((run text color).span? base).toList) segs
  | .lineBreak :: segs => { spans := current } :: linesFrom base [] segs

variable (base : Look) (current : List Span) (segs : List Segment)

theorem length_linesFrom :
    (linesFrom base current segs).length = segs.count .lineBreak + 1 := by
  induction segs generalizing current with
  | nil => rfl
  | cons seg segs ih =>
    cases seg with
    | run text color =>
      have hne : run text color ≠ lineBreak := nofun
      rw [linesFrom, ih, List.count_cons_of_ne hne]
    | lineBreak => rw [linesFrom, List.length_cons, ih, List.count_cons_self]

theorem spans_linesFrom :
    (linesFrom base current segs).flatMap TextLine.spans =
      current ++ segs.filterMap (span? base) := by
  induction segs generalizing current with
  | nil => rfl
  | cons seg segs ih =>
    cases seg with
    | run text color =>
      rw [linesFrom, ih, List.append_assoc]
      rfl
    | lineBreak =>
      rw [linesFrom, List.flatMap_cons, ih]
      rfl

theorem text_linesFrom :
    String.intercalate "\n" ((linesFrom base current segs).map TextLine.text) =
      String.join (current.map Span.text) ++
        String.join (segs.map fun seg => seg.text?.getD "\n") := by
  induction segs generalizing current with
  | nil => simp [linesFrom, TextLine.text]
  | cons seg segs ih =>
    cases seg with
    | run text color =>
      rw [linesFrom, ih]
      simp [span?, text?, String.append_assoc]
    | lineBreak =>
      obtain ⟨line, lines, hlines⟩ : ∃ line lines, linesFrom base [] segs = line :: lines := by
        have hlength := length_linesFrom base [] segs
        exact List.exists_cons_of_length_eq_add_one hlength
      have hrest := ih []
      rw [hlines, List.map_cons] at hrest
      rw [linesFrom, hlines, List.map_cons, List.map_cons, String.intercalate_cons_cons, hrest]
      simp [TextLine.text, text?, String.append_assoc]

end Segment

namespace Paint

def isText : Paint → Bool
  | .text _ => true
  | _ => false

theorem length_coloredRunsFrom (stack : List Rgba) (calls : List Paint) :
    (coloredRunsFrom stack calls).length = calls.countP isText := by
  induction calls generalizing stack with
  | nil => rfl
  | cons call calls ih =>
    cases call with
    | text s => rw [coloredRunsFrom, List.length_cons, ih, List.countP_cons_of_pos rfl]
    | _ =>
      rw [coloredRunsFrom, ih, List.countP_cons_of_neg Bool.false_ne_true]
      intro s htext
      cases htext

theorem coloredRuns_at (before after : List Paint) (s : String) :
    (coloredRuns (before ++ .text s :: after))[before.countP isText]? =
      some (s, (before.foldl stackAfter []).headD .transparent) := by
  rw [coloredRuns, coloredRunsFrom_append, ← length_coloredRunsFrom [] before,
    List.getElem?_append_right (Nat.le_refl _), Nat.sub_self]
  rfl

end Paint

namespace LineBuilder

/-- The lines of a text. Its colors are on top of those pushed before, and are gone after it. -/
theorem finishLine_renderFrom (base : Look) (smallFont : Option Modifiers) (segs : List Segment) (active : Rgba)
    (lineStart : Bool) (stack : List Rgba) (current : List Span) (lines : List TextLine) :
    (({ base, smallFont, colors := active :: stack, current, lines } : LineBuilder).paintAll
        (RichText.renderFrom active lineStart segs)).finishLine =
      { base, smallFont, colors := stack,
        lines := lines ++ Segment.linesFrom base current segs } := by
  induction segs generalizing active lineStart current lines with
  | nil => rfl
  | cons seg segs ih =>
    cases seg with
    | run text color =>
      rw [RichText.renderFrom, Segment.linesFrom, ← ih color false]
      split
      case isTrue heq =>
        subst heq
        cases lineStart <;> simp [paint, runLook, font, Segment.span?]
      case isFalse => cases lineStart <;> simp [paint, runLook, font, Segment.span?]
    | lineBreak =>
      have hrest := ih active true [] (lines ++ [{ spans := current }])
      rw [List.append_assoc] at hrest
      exact hrest

theorem finishLine_render (base : Look) (smallFont : Option Modifiers) (t : RichText) (color : Rgba) :
    (({ base, smallFont } : LineBuilder).paintAll (t.render color)).finishLine =
      { base, smallFont, lines := Segment.linesFrom base [] (t.segments color) } :=
  finishLine_renderFrom base smallFont (t.segments color) color true [] [] []

def spans (b : LineBuilder) : List Span := b.lines.flatMap TextLine.spans ++ b.current

theorem spans_finishLine (b : LineBuilder) :
    b.finishLine.takeLines.1.flatMap TextLine.spans = b.spans := by
  simp [takeLines, settle, finishLine, spans]

theorem spans_text (b : LineBuilder) (s : String) :
    (b.paint (.text s)).spans = b.spans ++ [⟨s, b.runLook⟩] :=
  (List.append_assoc ..).symm

theorem spans_paint {call : Paint} (h : call.IsInline) (htext : call.isText = false)
    (b : LineBuilder) : (b.paint call).spans = b.spans := by
  cases call with
  | text => cases htext
  | pushColor | popColor | sameLine => rfl
  | newLine => simp [paint, finishLine, spans]
  | pushSmallFont | popFont | beginTooltip | endTooltip => exact h.elim

variable {calls : List Paint}

theorem spans_paintAll (h : ∀ call ∈ calls, call.IsInline) (b : LineBuilder) :
    ∃ more, (b.paintAll calls).spans = b.spans ++ more ∧ more.length = calls.countP Paint.isText := by
  induction calls generalizing b with
  | nil => exact ⟨[], (List.append_nil _).symm, rfl⟩
  | cons call calls ih =>
    obtain ⟨hcall, hcalls⟩ := List.forall_mem_cons.mp h
    obtain ⟨more, hspans, hlength⟩ := ih hcalls (b.paint call)
    rw [paintAll_cons, hspans]
    cases call with
    | text s =>
      refine ⟨⟨s, b.runLook⟩ :: more, ?_, ?_⟩
      · rw [spans_text, List.append_assoc, List.singleton_append]
      · rw [List.length_cons, hlength, List.countP_cons_of_pos rfl]
    | _ =>
      refine ⟨more, ?_, ?_⟩
      · rw [spans_paint hcall rfl]
      · rw [hlength, List.countP_cons_of_neg Bool.false_ne_true]

theorem spans_at {before after : List Paint} {s : String}
    (h : ∀ call ∈ before ++ .text s :: after, call.IsInline) (base : Look) (smallFont : Option Modifiers) :
    (({ base, smallFont } : LineBuilder).paintAll
        (before ++ .text s :: after)).spans[before.countP Paint.isText]? =
      some ⟨s, (({ base, smallFont } : LineBuilder).paintAll before).runLook⟩ := by
  obtain ⟨hbefore, hafter⟩ := List.forall_mem_append.mp h
  obtain ⟨earlier, hearlier, hlength⟩ :=
    spans_paintAll hbefore ({ base, smallFont } : LineBuilder)
  obtain ⟨later, hlater, -⟩ := spans_paintAll (List.forall_mem_cons.mp hafter).2
    ((({ base, smallFont } : LineBuilder).paintAll before).paint (.text s))
  have hpainted : (({ base, smallFont } : LineBuilder).paintAll
      (before ++ .text s :: after)).spans =
        earlier ++ ⟨s, (({ base, smallFont } : LineBuilder).paintAll before).runLook⟩ :: later := by
    rw [paintAll, List.foldl_append]
    refine hlater.trans ?_
    rw [spans_text, hearlier, List.append_assoc]
    rfl
  rw [hpainted, ← hlength, List.getElem?_append_right (Nat.le_refl _), Nat.sub_self]
  rfl

theorem runLook_paintAll {before : List Paint} (h : ∀ call ∈ before, call.IsInline) (base : Look)
    (smallFont : Option Modifiers) {c : Rgba}
    (hc : (before.foldl Paint.stackAfter []).head? = some c) :
    (({ base, smallFont } : LineBuilder).paintAll before).runLook =
      { base with fg := some (.ofRgba c) } := by
  obtain ⟨colors, current, lines, heq⟩ := paintAll_inline h ({ base, smallFont } : LineBuilder)
  obtain ⟨rest, hstack⟩ : ∃ rest, colors = c :: rest := by
    have hcolors : colors = before.foldl Paint.stackAfter [] := by
      have hpainted := colors_paintAll ({ base, smallFont } : LineBuilder) before
      rwa [heq] at hpainted
    rw [hcolors]
    exact List.head?_eq_some_iff.mp hc
  rw [heq, hstack]
  simp [runLook, font]

end LineBuilder

/-- On a new builder a text becomes a line more than it has breaks. The lines have its plain text and,
in order, its runs in their colors, and no color is left. Among calls of any kind, those of the builder
and the recorded ones have the same colors pushed, and a run drawn while one is pushed is the same run
in the same color in both. -/
theorem spans_follow_runs (base : Look) (smallFont : Option Modifiers) :
    let start : LineBuilder := { base, smallFont }
    (∀ (t : RichText) (color : Rgba),
      let painted := (start.paintAll (t.render color)).finishLine
      let lines := painted.takeLines.1
      lines.length = (t.segments color).count .lineBreak + 1 ∧
        String.intercalate "\n" (lines.map TextLine.text) = t.plainText ∧
        lines.flatMap TextLine.spans = (t.segments color).filterMap (Segment.span? base) ∧
        painted.colors = []) ∧
      ∀ (before after : List Paint) (s : String),
        let calls := before ++ .text s :: after
        (∀ call ∈ calls, call.IsInline) →
          let pushed := (start.paintAll before).colors
          let place := before.countP Paint.isText
          pushed = before.foldl Paint.stackAfter [] ∧ ∀ c, pushed.head? = some c →
            (Paint.coloredRuns calls)[place]? = some (s, c) ∧
              ((start.paintAll calls).finishLine.takeLines.1.flatMap TextLine.spans)[place]? =
                some ⟨s, { base with fg := some (.ofRgba c) }⟩ := by
  intro start
  constructor
  · intro t color painted lines
    have hpainted : painted = _ := LineBuilder.finishLine_render base smallFont t color
    have hlines : lines = Segment.linesFrom base [] (t.segments color) :=
      congrArg (fun b : LineBuilder => b.takeLines.1) hpainted
    have hcolors : painted.colors = [] := congrArg LineBuilder.colors hpainted
    rw [hlines]
    refine ⟨Segment.length_linesFrom _ _ _, ?_, Segment.spans_linesFrom _ _ _, hcolors⟩
    rw [Segment.text_linesFrom, t.plainText_eq color]
    rfl
  · intro before after s calls hinline pushed place
    have hpushed : pushed = before.foldl Paint.stackAfter [] :=
      LineBuilder.colors_paintAll start before
    refine ⟨hpushed, fun c hc => ?_⟩
    rw [hpushed] at hc
    have hbefore := (List.forall_mem_append.mp hinline).1
    have hlook := LineBuilder.runLook_paintAll hbefore base smallFont hc
    rw [LineBuilder.spans_finishLine, LineBuilder.spans_at hinline base smallFont, hlook,
      Paint.coloredRuns_at, List.headD_eq_head?_getD, hc]
    exact ⟨rfl, rfl⟩

theorem spans_follow_runs_unbalanced :
    let before : List Paint := [.popColor, .pushColor .white, .newLine]
    let after : List Paint := [.popColor, .popColor, .text "b"]
    (Paint.coloredRuns (before ++ .text "a" :: after))[0]? = some ("a", .white) ∧
      ((LineBuilder.paintAll {} (before ++ .text "a" :: after)).finishLine.takeLines.1.flatMap
        TextLine.spans)[0]? = some ⟨"a", { fg := some (.ofRgba .white) }⟩ :=
  ((spans_follow_runs {} none).2 [.popColor, .pushColor .white, .newLine]
    [.popColor, .popColor, .text "b"] "a" (by simp [Paint.IsInline])).2 .white rfl

end TraceView
