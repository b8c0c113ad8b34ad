import TraceView.RichText.Render

namespace TraceView

structure Tooltip where
  pending : RichText := .empty
  deriving DecidableEq, Repr

namespace Tooltip

def isEmpty (t : Tooltip) : Bool := t.pending.isEmpty

def set (_ : Tooltip) (text : RichText) : Tooltip := ⟨text⟩

def add (t : Tooltip) (text : RichText) : Tooltip := ⟨t.pending ++ text⟩

def reset (_ : Tooltip) : Tooltip := {}

def overlay (smallFont : Bool) (text : RichText) (color : Rgba) : List Paint :=
  (if smallFont then [.pushSmallFont] else [])
    ++ .beginTooltip :: text.render color
    ++ .endTooltip :: (if smallFont then [.popFont] else [])

def consume (t : Tooltip) (smallFont : Bool) (color : Rgba) : Option (List Paint) × Tooltip :=
  if t.isEmpty then (none, t) else (some (overlay smallFont t.pending color), {})

end Tooltip

end TraceView
