import TraceView.Proofs.Screen.Spans
import TraceView.Tooltip

namespace TraceView

namespace Paint

/-- Each tooltip is closed before the next one begins, one being open at the start or not. -/
def Paired : Bool → List Paint → Prop
  | isOpen, [] => isOpen = false
  | isOpen, .beginTooltip :: calls => isOpen = false ∧ Paired true calls
  | isOpen, .endTooltip :: calls => isOpen = true ∧ Paired false calls
  | isOpen, _ :: calls => Paired isOpen calls

def isTooltip : Paint → Bool
  | .beginTooltip | .endTooltip => true
  | _ => false

def text? : Paint → Option String
  | .text s => some s
  | _ => none

end Paint

structure Pen where
  base : Look
  smallFont : Option Modifiers
  colors : List Rgba := []
  fontDepth : Nat := 0

namespace Pen

def look (p : Pen) : Look :=
  p.base.patch {
    fg := p.colors.head?.map .ofRgba
    add := if 0 < p.fontDepth then p.smallFont.getD 0#9 else 0#9 }

def after (p : Pen) : Paint → Pen
  | .pushColor c => { p with colors := c :: p.colors }
  | .popColor => { p with colors := p.colors.tail }
  | .pushSmallFont => { p with fontDepth := p.fontDepth + if p.smallFont.isSome then 1 else 0 }
  | .popFont => { p with fontDepth := p.fontDepth - 1 }
  | _ => p

end Pen

inductive Stroke where
  | run (span : Span)
  | lineBreak
  /-- A tooltip begins, and the line under way ends. -/
  | seam
  deriving DecidableEq

namespace Stroke

def ofCall? (p : Pen) : Paint → Option Stroke
  | .text s => some (.run ⟨s, p.look⟩)
  | .newLine => some .lineBreak
  | _ => none

def span? : Stroke → Option Span
  | .run span => some span
  | _ => none

/-- A line under way counts if something stands on it. -/
def ended (current : List Span) : List TextLine :=
  if current.isEmpty then [] else [{ spans := current }]

def linesFrom (current : List Span) : List Stroke → List TextLine
  | [] => ended current
  | .run span :: strokes => linesFrom (current ++ [span]) strokes
  | .lineBreak :: strokes => { spans := current } :: linesFrom [] strokes
  | .seam :: strokes => ended current ++ linesFrom [] strokes

theorem spans_ended (current : List Span) : (ended current).flatMap TextLine.spans = current := by
  cases current <;> simp [ended]

theorem spans_linesFrom (current : List Span) (strokes : List Stroke) :
    (linesFrom current strokes).flatMap TextLine.spans = current ++ strokes.filterMap span? := by
  induction strokes generalizing current with
  | nil => rw [linesFrom, spans_ended, List.filterMap_nil, List.append_nil]
  | cons stroke strokes ih =>
    cases stroke with
    | run span =>
      rw [linesFrom, ih, List.append_assoc]
      rfl
    | lineBreak =>
      rw [linesFrom, List.flatMap_cons, ih]
      rfl
    | seam =>
      rw [linesFrom, List.flatMap_append, spans_ended, ih]
      rfl

end Stroke

inductive Sheet where
  | outside
  | inside (tip : Nat)
  deriving DecidableEq

/-- An account of drawing calls: every stroke, in order, with the sheet it goes to. -/
structure Account where
  pen : Pen
  tips : Nat := 0
  isOpen : Bool := false
  strokes : List (Sheet × Stroke) := []

namespace Account

def sheet (a : Account) : Sheet := if a.isOpen then .inside a.tips else .outside

def add (a : Account) : Paint → Account
  | .beginTooltip =>
    { a with tips := a.tips + 1, isOpen := true, strokes := a.strokes ++ [(.outside, .seam)] }
  | .endTooltip => { a with isOpen := false }
  | call => { a with
      pen := a.pen.after call
      strokes := a.strokes ++ (Stroke.ofCall? a.pen call).toList.map (a.sheet, ·) }

def addAll (a : Account) (calls : List Paint) : Account := calls.foldl add a

def strokesOn (a : Account) (sheet : Sheet) : List Stroke :=
  (a.strokes.filter (·.1 = sheet)).map (·.2)

def spans (a : Account) : List Span := a.strokes.filterMap (·.2.span?)

theorem texts_add (a : Account) (call : Paint) :
    (a.add call).spans.map Span.text = a.spans.map Span.text ++ call.text?.toList := by
  cases call <;> simp [add, spans, Stroke.ofCall?, Stroke.span?, Paint.text?]

theorem texts_addAll (a : Account) (calls : List Paint) :
    (a.addAll calls).spans.map Span.text = a.spans.map Span.text ++ calls.filterMap Paint.text? := by
  induction calls generalizing a with
  | nil => simp [addAll]
  | cons call calls ih =>
    refine (ih (a.add call)).trans ?_
    rw [texts_add, List.append_assoc]
    cases call <;> rfl

end Account

namespace LineBuilder

variable {b : LineBuilder} {a : Account} {call : Paint} {calls : List Paint}

def pen (b : LineBuilder) : Pen := ⟨b.base, b.smallFont, b.colors, b.fontDepth⟩

theorem look_pen (b : LineBuilder) : b.pen.look = b.runLook := by
  rw [runLook, Look.withFont_eq, Pen.look, pen, font]
  cases b.colors <;> simp [Look.patch]

theorem settle_eq (b : LineBuilder) :
    b.settle = { b with lines := b.lines ++ Stroke.ended b.current, current := [] } := by
  unfold settle Stroke.ended
  split
  case isTrue h => rw [← List.isEmpty_iff.mp h, List.append_nil]
  case isFalse => rfl

theorem pen_paint (b : LineBuilder) (call : Paint) : (b.paint call).pen = b.pen.after call := by
  cases call with
  | pushSmallFont => cases h : b.smallFont <;> simp [paint, hasSmallFont, pen, Pen.after, h]
  | beginTooltip | endTooltip => rw [paint, settle_eq]; rfl
  | _ => rfl

theorem paint_plain (h : call.isTooltip = false) (b : LineBuilder) :
    (b.paint call).parked = b.parked ∧ (b.paint call).tooltip = b.tooltip := by
  cases call with
  | beginTooltip | endTooltip => cases h
  | pushSmallFont => cases hfont : b.hasSmallFont <;> simp [paint, hfont]
  | _ => exact ⟨rfl, rfl⟩

theorem linesFrom_paint (h : call.isTooltip = false) (b : LineBuilder) (more : List Stroke) :
    (b.paint call).lines ++ Stroke.linesFrom (b.paint call).current more =
      b.lines ++ Stroke.linesFrom b.current ((Stroke.ofCall? b.pen call).toList ++ more) := by
  cases call with
  | beginTooltip | endTooltip => cases h
  | text s =>
    change b.lines ++ Stroke.linesFrom (b.current ++ [⟨s, b.runLook⟩]) more =
      b.lines ++ Stroke.linesFrom (b.current ++ [⟨s, b.pen.look⟩]) more
    rw [look_pen]
  | newLine => exact List.append_assoc ..
  | pushSmallFont => cases hfont : b.hasSmallFont <;> simp [paint, hfont, Stroke.ofCall?]
  | _ => rfl

def linesOutside (b : LineBuilder) (more : List Stroke) : List TextLine :=
  match b.parked with
  | none => b.lines ++ Stroke.linesFrom b.current more
  | some lines => lines ++ Stroke.linesFrom [] more

/-- What a builder has of an account: the lines outside, and those of the last tooltip. -/
structure Follows (b : LineBuilder) (a : Account) : Prop where
  pen : b.pen = a.pen
  isOpen : b.parked.isSome = a.isOpen
  outside : ∀ more, b.linesOutside more = Stroke.linesFrom [] (a.strokesOn .outside ++ more)
  closed : b.parked = none → b.tooltip = Stroke.linesFrom [] (a.strokesOn (.inside a.tips))
  underway : b.parked ≠ none → ∀ more,
    b.lines ++ Stroke.linesFrom b.current more =
      Stroke.linesFrom [] (a.strokesOn (.inside a.tips) ++ more)
  unused : ∀ tip > a.tips, a.strokesOn (.inside tip) = []

namespace Follows

theorem start (base : Look) (smallFont : Option Modifiers) :
    Follows { base, smallFont } { pen := { base, smallFont } } where
  pen := rfl
  isOpen := rfl
  outside _ := rfl
  closed _ := rfl
  underway h := absurd rfl h
  unused _ _ := rfl

theorem sheet (h : Follows b a) :
    a.sheet = if b.parked = none then .outside else .inside a.tips := by
  rw [Account.sheet, ← h.isOpen]
  cases b.parked <;> rfl

theorem plain (h : Follows b a) (hcall : call.isTooltip = false) :
    Follows (b.paint call) (a.add call) := by
  obtain ⟨hparked, htooltip⟩ := paint_plain hcall b
  have hadd : a.add call = { a with
      pen := a.pen.after call
      strokes := a.strokes ++ (Stroke.ofCall? a.pen call).toList.map (a.sheet, ·) } := by
    cases call with
    | beginTooltip | endTooltip => cases hcall
    | _ => rfl
  have htips : (a.add call).tips = a.tips := by rw [hadd]
  have hstrokes (sheet : Sheet) : (a.add call).strokesOn sheet = a.strokesOn sheet ++
      if a.sheet = sheet then (Stroke.ofCall? a.pen call).toList else [] := by
    rw [hadd]
    cases Stroke.ofCall? a.pen call <;> by_cases hp : a.sheet = sheet <;> simp [Account.strokesOn, hp]
  have hlines := linesFrom_paint hcall b
  rw [h.pen] at hlines
  refine ⟨?_, ?_, fun more => ?_, fun hnone => ?_, fun hsome more => ?_, fun tip htip => ?_⟩
  · rw [pen_paint, h.pen, hadd]
  · rw [hparked, h.isOpen, hadd]
  · have houtside := h.outside
    rw [hstrokes, h.sheet]
    unfold linesOutside at houtside ⊢
    rw [hparked]
    cases hb : b.parked with
    | none =>
      simp only [hb] at houtside
      simp [hlines, houtside]
    | some lines =>
      simp only [hb] at houtside
      simp [houtside]
  · rw [hparked] at hnone
    rw [htooltip, h.closed hnone, hstrokes, h.sheet, htips]
    simp [hnone]
  · rw [hparked] at hsome
    rw [hlines, h.underway hsome, hstrokes, h.sheet, htips]
    simp [hsome]
  · rw [htips] at htip
    rw [hstrokes, h.unused tip htip, h.sheet]
    split <;> simp [Nat.ne_of_lt htip]

theorem beginTooltip (h : Follows b a) (hclosed : a.isOpen = false) :
    Follows (b.paint .beginTooltip) (a.add .beginTooltip) := by
  have hnone : b.parked = none := by
    rw [← h.isOpen] at hclosed
    simpa using hclosed
  have houtside := h.outside
  have hstrokes (sheet : Sheet) : (a.add .beginTooltip).strokesOn sheet = a.strokesOn sheet ++
      if Sheet.outside = sheet then [Stroke.seam] else [] := by
    by_cases hp : Sheet.outside = sheet <;> simp [Account.add, Account.strokesOn, hp]
  have hpaint : b.paint .beginTooltip =
      { b with lines := [], current := [], parked := some (b.lines ++ Stroke.ended b.current) } := by
    rw [paint, settle_eq]
  simp only [linesOutside, hnone] at houtside
  refine ⟨?_, rfl, fun more => ?_, fun hsome => ?_, fun _ more => ?_, fun tip htip => ?_⟩
  · rw [pen_paint, h.pen]
    rfl
  · -- The seam ends the line under way.
    rw [hpaint, hstrokes, if_pos rfl, List.append_assoc, ← houtside]
    exact List.append_assoc ..
  · rw [hpaint] at hsome
    cases hsome
  · have hnew : (a.add .beginTooltip).strokesOn (.inside (a.tips + 1)) = [] := by
      rw [hstrokes, if_neg (by simp), h.unused _ (Nat.lt_succ_self _)]
      rfl
    rw [hpaint]
    exact (congrArg (fun strokes => Stroke.linesFrom [] (strokes ++ more)) hnew).symm
  · rw [hstrokes, if_neg (by simp), h.unused tip (Nat.lt_of_succ_lt htip)]
    rfl

theorem endTooltip (h : Follows b a) (hopen : a.isOpen = true) :
    Follows (b.paint .endTooltip) (a.add .endTooltip) := by
  obtain ⟨lines, hsome⟩ := Option.isSome_iff_exists.mp (h.isOpen.trans hopen)
  have houtside := h.outside
  have hpaint : b.paint .endTooltip =
      { b with lines, current := [], parked := none, tooltip := b.lines ++ Stroke.ended b.current } := by
    rw [paint, settle_eq, hsome]
    rfl
  simp only [linesOutside, hsome] at houtside
  refine ⟨?_, ?_, fun more => ?_, fun _ => ?_, fun hne => ?_, h.unused⟩
  · rw [pen_paint, h.pen]
    rfl
  · rw [hpaint]
    rfl
  · rw [hpaint]
    exact houtside more
  · have hinside := h.underway (by rw [hsome]; exact Option.some_ne_none _) []
    rw [List.append_nil] at hinside
    rw [hpaint]
    exact hinside
  · rw [hpaint] at hne
    exact (hne rfl).elim

theorem paintAll (h : Follows b a) (hcalls : Paint.Paired a.isOpen calls) :
    Follows (b.paintAll calls) (a.addAll calls) ∧ (a.addAll calls).isOpen = false := by
  induction calls generalizing b a with
  | nil => exact ⟨h, hcalls⟩
  | cons call calls ih =>
    cases call with
    | beginTooltip => exact ih (h.beginTooltip hcalls.1) hcalls.2
    | endTooltip => exact ih (h.endTooltip hcalls.1) hcalls.2
    | _ => exact ih (h.plain rfl) hcalls

end Follows

theorem takeLines_eq (b : LineBuilder) : b.takeLines.1 = b.lines ++ Stroke.ended b.current := by
  rw [takeLines, settle_eq]

theorem paintAll_append (b : LineBuilder) (calls more : List Paint) :
    b.paintAll (calls ++ more) = (b.paintAll calls).paintAll more :=
  List.foldl_append

theorem paintAll_tooltip {b : LineBuilder} (h : b.parked = none) (text : RichText) (color : Rgba) :
    ∃ tooltip, b.paintAll (.beginTooltip :: text.render color ++ [.endTooltip]) =
      { b with lines := b.lines ++ Stroke.ended b.current, current := [], tooltip } := by
  obtain ⟨current, lines, htext⟩ := paintAll_render (b.paint .beginTooltip) text color
  refine ⟨lines ++ Stroke.ended current, ?_⟩
  rw [paintAll_append, paintAll_cons b, htext]
  simp [paint, settle_eq, h]

theorem paintAll_overlay {b : LineBuilder} (h : b.parked = none) (text : RichText) (color : Rgba) :
    ∃ tooltip, b.paintAll (Tooltip.overlay b.hasSmallFont text color) =
      { b with lines := b.lines ++ Stroke.ended b.current, current := [], tooltip } := by
  cases hfont : b.hasSmallFont with
  | false =>
    obtain ⟨tooltip, heq⟩ := paintAll_tooltip h text color
    exact ⟨tooltip, heq⟩
  | true =>
    have hpushed : b.paint .pushSmallFont = { b with fontDepth := b.fontDepth + 1 } := if_pos hfont
    obtain ⟨tooltip, heq⟩ := paintAll_tooltip (b := b.paint .pushSmallFont) (hpushed ▸ h) text color
    have hcalls : Tooltip.overlay true text color =
        .pushSmallFont :: ((.beginTooltip :: text.render color ++ [.endTooltip]) ++ [.popFont]) := by
      simp [Tooltip.overlay]
    refine ⟨tooltip, ?_⟩
    rw [hcalls, paintAll_cons, paintAll_append, heq, hpushed]
    rfl

end LineBuilder

/-- On a new builder, paired calls make of the strokes outside tooltips its lines and of those in the last
tooltip its tooltip, each in their order, and every run called for is one stroke of one sheet. A
tooltip that is consumed while none is open leaves the lines outside with their runs, the colors and the
depth of the font as they were. -/
theorem tooltips_stay_apart :
    (∀ (base : Look) (smallFont : Option Modifiers) (calls : List Paint), Paint.Paired false calls →
      let b := ({ base, smallFont } : LineBuilder).paintAll calls
      let account := ({ pen := { base, smallFont } } : Account).addAll calls
      let outside := account.strokesOn .outside
      let inside := account.strokesOn (.inside account.tips)
      b.takeLines.1 = Stroke.linesFrom [] outside ∧
        b.takeTooltip.1 = Stroke.linesFrom [] inside ∧
        b.takeLines.1.flatMap TextLine.spans = outside.filterMap Stroke.span? ∧
        b.takeTooltip.1.flatMap TextLine.spans = inside.filterMap Stroke.span? ∧
        account.spans.map Span.text = calls.filterMap Paint.text?) ∧
      ∀ (b : LineBuilder) (t : Tooltip) (color : Rgba), b.parked = none →
        let shown := b.paintAll ((t.consume b.hasSmallFont color).1.getD [])
        shown.takeLines.1 = b.takeLines.1 ∧ shown.spans = b.spans ∧ shown.colors = b.colors ∧
          shown.fontDepth = b.fontDepth ∧ shown.parked = none := by
  constructor
  · intro base smallFont calls hcalls b account outside inside
    obtain ⟨hfollows, hclosed⟩ :=
      (LineBuilder.Follows.start base smallFont).paintAll hcalls
    have hnone : b.parked = none := by
      have hisOpen : b.parked.isSome = false := hfollows.isOpen.trans hclosed
      simpa using hisOpen
    have hlines : b.takeLines.1 = Stroke.linesFrom [] outside := by
      have houtside := hfollows.outside []
      rw [List.append_nil, LineBuilder.linesOutside] at houtside
      rw [← houtside, hnone]
      exact LineBuilder.takeLines_eq b
    have htooltip : b.takeTooltip.1 = Stroke.linesFrom [] inside := hfollows.closed hnone
    refine ⟨hlines, htooltip, ?_, ?_, ?_⟩
    · rw [hlines, Stroke.spans_linesFrom, List.nil_append]
    · rw [htooltip, Stroke.spans_linesFrom, List.nil_append]
    · exact Account.texts_addAll _ calls
  · intro b t color hparked shown
    by_cases hempty : t.isEmpty
    · have hshown : shown = b := by simp [shown, Tooltip.consume, hempty]
      rw [hshown]
      exact ⟨rfl, rfl, rfl, rfl, hparked⟩
    · obtain ⟨tooltip, hoverlay⟩ := LineBuilder.paintAll_overlay hparked t.pending color
      have hshown : shown = { b with
          lines := b.lines ++ Stroke.ended b.current, current := [], tooltip } := by
        rw [← hoverlay]
        simp [shown, Tooltip.consume, hempty]
      rw [hshown]
      refine ⟨?_, ?_, rfl, rfl, hparked⟩
      · rw [LineBuilder.takeLines_eq, LineBuilder.takeLines_eq]
        exact List.append_nil _
      · simp [LineBuilder.spans, Stroke.spans_ended]

theorem tooltips_stay_apart_twice :
    let calls : List Paint := [.text "a", .beginTooltip, .pushColor .white, .text "b", .endTooltip,
      .beginTooltip, .newLine, .text "c", .endTooltip, .text "d"]
    let b := (({} : LineBuilder).paintAll calls)
    let white : Look := { fg := some (.ofRgba .white) }
    Paint.Paired false calls ∧ b.parked = none ∧
      b.takeLines.1 = [⟨[⟨"a", {}⟩], {}⟩, ⟨[⟨"d", white⟩], {}⟩] ∧
      b.takeTooltip.1 = [⟨[], {}⟩, ⟨[⟨"c", white⟩], {}⟩] ∧
      (b.paintAll (((Tooltip.mk "e").consume b.hasSmallFont .black).1.getD [])).takeLines.1 =
        b.takeLines.1 := by
  intro calls b white
  have hcalls : Paint.Paired false calls := by simp [calls, Paint.Paired]
  have hnone : b.parked = none := rfl
  obtain ⟨hlines, htooltip, -⟩ := tooltips_stay_apart.1 {} none calls hcalls
  exact ⟨hcalls, hnone, hlines, htooltip, (tooltips_stay_apart.2 b ⟨"e"⟩ .black hnone).1⟩

end TraceView
