import TraceView.Tooltip
import Mathlib.Data.List.Induction

namespace TraceView

inductive Bracket where
  | font
  | tooltip
  | color
  deriving DecidableEq, Repr

namespace Bracket

def close (b : Bracket) : List Bracket → Option (List Bracket)
  | [] => none
  | b' :: rest => if b' = b then some rest else none

end Bracket

namespace Paint

def nest (opened : List Bracket) : Paint → Option (List Bracket)
  | .pushSmallFont => some (.font :: opened)
  | .beginTooltip => some (.tooltip :: opened)
  | .pushColor _ => some (.color :: opened)
  | .popFont => Bracket.font.close opened
  | .endTooltip => Bracket.tooltip.close opened
  | .popColor => Bracket.color.close opened
  | _ => some opened

/-- Each bracket that is opened is closed again, the last one first, and no other. -/
def Balanced (calls : List Paint) : Prop := ∀ opened, calls.foldlM nest opened = some opened

theorem balanced_nil : Balanced [] := fun _ => rfl

theorem Balanced.append {calls more : List Paint} (h : Balanced calls) (hmore : Balanced more) :
    Balanced (calls ++ more) := by
  intro opened
  rw [List.foldlM_append, h opened]
  exact hmore opened

end Paint

namespace RichText

theorem foldlM_renderFrom (segs : List Segment) (active : Rgba) (lineStart : Bool)
    (opened : List Bracket) :
    (renderFrom active lineStart segs).foldlM Paint.nest (.color :: opened) = some opened := by
  induction segs generalizing active lineStart with
  | nil => rfl
  | cons seg segs ih =>
    cases seg with
    | run text color =>
      have hrest := ih color false
      rw [renderFrom]
      split <;> cases lineStart <;> exact hrest
    | lineBreak => exact ih active true

theorem balanced_render (t : RichText) (color : Rgba) : Paint.Balanced (t.render color) :=
  foldlM_renderFrom _ color true

end RichText

inductive TooltipStep where
  | set (text : RichText)
  | add (text : RichText)
  | reset
  | consume (smallFont : Bool) (color : Rgba)
  deriving DecidableEq, Repr

def TooltipStep.text? : TooltipStep → Option RichText
  | .set text | .add text => some text
  | _ => none

structure Overlay where
  smallFont : Bool
  color : Rgba
  texts : List RichText

namespace Overlay

def text (o : Overlay) : RichText := ⟨o.texts.flatMap RichText.bytes⟩

def calls (o : Overlay) : List Paint :=
  (if o.smallFont then [.pushSmallFont] else []) ++ [.beginTooltip] ++ o.text.render o.color
    ++ [.endTooltip] ++ (if o.smallFont then [.popFont] else [])

theorem balanced_calls (o : Overlay) : Paint.Balanced o.calls := by
  intro opened
  have htext (opened : List Bracket) := RichText.balanced_render o.text o.color opened
  cases hfont : o.smallFont <;>
    simp [calls, hfont, List.foldlM_append, htext, Paint.nest, Bracket.close]

end Overlay

namespace Tooltip

def step (t : Tooltip) : TooltipStep → Tooltip
  | .set text => t.set text
  | .add text => t.add text
  | .reset => t.reset
  | .consume smallFont color => (t.consume smallFont color).2

def run (steps : List TooltipStep) : Tooltip := steps.foldl step {}

def drawing (t : Tooltip) : TooltipStep → List Paint
  | .consume smallFont color => (t.consume smallFont color).1.getD []
  | _ => []

def drawnFrom (t : Tooltip) : List TooltipStep → List Paint
  | [] => []
  | s :: steps => t.drawing s ++ (t.step s).drawnFrom steps

def drawn (steps : List TooltipStep) : List Paint := drawnFrom {} steps

/-- The texts contributed since the last set, reset or consume, a set's own first. The steps are given
latest first. -/
def stagedBack : List TooltipStep → List RichText
  | .add text :: earlier => stagedBack earlier ++ [text]
  | .set text :: _ => [text]
  | _ => []

def staged (steps : List TooltipStep) : List RichText := stagedBack steps.reverse

def overlaysBack : List TooltipStep → List Overlay
  | [] => []
  | .consume smallFont color :: earlier =>
    let o : Overlay := { smallFont, color, texts := stagedBack earlier }
    overlaysBack earlier ++ if o.text.bytes = [] then [] else [o]
  | _ :: earlier => overlaysBack earlier

def overlays (steps : List TooltipStep) : List Overlay := overlaysBack steps.reverse

@[simp] theorem run_concat (steps : List TooltipStep) (s : TooltipStep) :
    run (steps ++ [s]) = (run steps).step s := by
  simp [run]

theorem drawnFrom_concat (t : Tooltip) (steps : List TooltipStep) (s : TooltipStep) :
    t.drawnFrom (steps ++ [s]) = t.drawnFrom steps ++ (steps.foldl step t).drawing s := by
  induction steps generalizing t with
  | nil => exact List.append_nil _
  | cons first steps ih =>
    rw [List.cons_append, drawnFrom, ih, drawnFrom, List.foldl_cons, List.append_assoc]

theorem consume_empty {t : Tooltip} (h : t.pending.bytes = []) (smallFont : Bool) (color : Rgba) :
    t.consume smallFont color = (none, {}) := by
  obtain ⟨⟨bytes⟩⟩ := t
  subst h
  rfl

theorem consume_of_ne {t : Tooltip} (h : t.pending.bytes ≠ []) (smallFont : Bool) (color : Rgba) :
    t.consume smallFont color = (some (overlay smallFont t.pending color), {}) := by
  rw [consume, if_neg]
  simpa [isEmpty, RichText.isEmpty] using h

theorem overlay_eq (o : Overlay) : overlay o.smallFont o.text o.color = o.calls := by
  simp [overlay, Overlay.calls]

theorem pending_run (steps : List TooltipStep) :
    (run steps).pending.bytes = (staged steps).flatMap RichText.bytes := by
  induction steps using List.reverseRecOn with
  | nil => rfl
  | append_singleton steps s ih =>
    rw [run_concat, staged, List.reverse_concat]
    cases s with
    | set text => exact (List.append_nil _).symm
    | add text =>
      rw [stagedBack, List.flatMap_append, List.flatMap_singleton]
      exact congrArg (· ++ text.bytes) ih
    | reset => rfl
    | consume smallFont color =>
      by_cases h : (run steps).pending.bytes = []
      · rw [step, consume_empty h]
        rfl
      · rw [step, consume_of_ne h]
        rfl

theorem overlays_consume (steps : List TooltipStep) (smallFont : Bool) (color : Rgba) :
    overlays (steps ++ [.consume smallFont color]) = overlays steps ++
      if (run steps).pending.bytes = [] then [] else [⟨smallFont, color, staged steps⟩] := by
  rw [pending_run, overlays, List.reverse_concat]
  rfl

theorem drawn_eq_overlays (steps : List TooltipStep) :
    drawn steps = (overlays steps).flatMap Overlay.calls := by
  induction steps using List.reverseRecOn with
  | nil => rfl
  | append_singleton steps s ih =>
    have hdrawn : drawn (steps ++ [s]) = drawn steps ++ (run steps).drawing s :=
      drawnFrom_concat {} steps s
    rw [hdrawn, ih]
    cases s with
    | set | add | reset =>
      rw [overlays, overlays, List.reverse_concat]
      exact List.append_nil _
    | consume smallFont color =>
      rw [overlays_consume, List.flatMap_append]
      congr 1
      by_cases h : (run steps).pending.bytes = []
      · rw [drawing, consume_empty h, if_pos h]
        rfl
      · have htext : (run steps).pending = Overlay.text ⟨smallFont, color, staged steps⟩ :=
          congrArg RichText.mk (pending_run steps)
        rw [drawing, consume_of_ne h, if_neg h, htext, List.flatMap_singleton]
        exact overlay_eq ⟨smallFont, color, staged steps⟩

theorem sublist_texts (steps : List TooltipStep) :
    ((overlays steps).flatMap Overlay.texts ++ staged steps).Sublist
      (steps.filterMap TooltipStep.text?) := by
  induction steps using List.reverseRecOn with
  | nil => exact .refl _
  | append_singleton steps s ih =>
    have hshown := (List.sublist_append_left _ _).trans ih
    rw [List.filterMap_append]
    cases s with
    | set text =>
      rw [overlays, staged, List.reverse_concat]
      exact hshown.append (.refl [text])
    | add text =>
      rw [overlays, staged, List.reverse_concat, stagedBack, ← List.append_assoc]
      exact ih.append (.refl [text])
    | reset =>
      rw [overlays, staged, List.reverse_concat]
      exact hshown.append (.refl [])
    | consume smallFont color =>
      have hnone : staged (steps ++ [.consume smallFont color]) = [] := by
        rw [staged, List.reverse_concat]
        rfl
      rw [overlays_consume, hnone, List.flatMap_append, List.append_nil]
      refine .trans ?_ (List.sublist_append_left _ _)
      split
      · rw [List.flatMap_nil, List.append_nil]
        exact hshown
      · rw [List.flatMap_singleton]
        exact ih

theorem balanced_overlays (os : List Overlay) : Paint.Balanced (os.flatMap Overlay.calls) := by
  induction os with
  | nil => exact Paint.balanced_nil
  | cons o os ih => exact o.balanced_calls.append ih

/-- After any steps, a consume shows what is staged if that is not empty, and nothing is left of it. So
a run draws one overlay after the other, shows no text twice and none out of order, and closes whatever
it opens. -/
theorem staged_text_shown_once (steps : List TooltipStep) :
    let t := run steps
    let text : RichText := ⟨(staged steps).flatMap RichText.bytes⟩
    (∀ smallFont color,
      (text.bytes = [] → t.consume smallFont color = (none, {})) ∧
        (text.bytes ≠ [] → t.consume smallFont color =
          (some ((if smallFont then [.pushSmallFont] else []) ++ [.beginTooltip] ++
            text.render color ++ [.endTooltip] ++ (if smallFont then [.popFont] else [])), {}))) ∧
      drawn steps = (overlays steps).flatMap Overlay.calls ∧
      ((overlays steps).flatMap Overlay.texts).Sublist (steps.filterMap TooltipStep.text?) ∧
      Paint.Balanced (drawn steps) := by
  intro t text
  have hpending : t.pending = text := congrArg RichText.mk (pending_run steps)
  refine ⟨fun smallFont color => ⟨fun hnil => ?_, fun hne => ?_⟩, drawn_eq_overlays steps, ?_, ?_⟩
  · exact consume_empty (hpending ▸ hnil) smallFont color
  · rw [consume_of_ne (hpending ▸ hne), hpending]
    have hcalls := overlay_eq ⟨smallFont, color, staged steps⟩
    exact congrArg (fun calls => (some calls, ({} : Tooltip))) hcalls
  · exact (List.sublist_append_left _ _).trans (sublist_texts steps)
  · rw [drawn_eq_overlays]
    exact balanced_overlays _

example : drawn [.add "a", .set ⟨[0x62, 0x1B, 1, 2]⟩, .add ⟨[3, 4, 0x63]⟩, .consume true .white,
    .consume true .white] =
    [.pushSmallFont, .beginTooltip, .pushColor .white, .text "b", .popColor, .pushColor ⟨1, 2, 3, 4⟩,
      .sameLine, .text "c", .popColor, .endTooltip, .popFont] := by decide

end Tooltip

end TraceView
