import TraceView.Paint
import TraceView.Screen.Line

namespace TraceView

structure LineBuilder where
  base : Look := {}
  /-- What a small font is shown with, if there is one. -/
  smallFont : Option Modifiers := none
  fontDepth : Nat := 0
  colors : List Rgba := []
  current : List Span := []
  lines : List TextLine := []
  parked : Option (List TextLine) := none
  tooltip : List TextLine := []
  deriving DecidableEq, Repr

namespace LineBuilder

/-- Ends the current line, also an empty one. -/
def finishLine (b : LineBuilder) : LineBuilder :=
  { b with lines := b.lines ++ [{ spans := b.current }], current := [] }

def settle (b : LineBuilder) : LineBuilder := if b.current.isEmpty then b else b.finishLine

def hasSmallFont (b : LineBuilder) : Bool := b.smallFont.isSome

def font (b : LineBuilder) : Modifiers := if 0 < b.fontDepth then b.smallFont.getD 0#9 else 0#9

def runLook (b : LineBuilder) : Look :=
  let colored : Look := match b.colors with
    | [] => b.base
    | c :: _ => { b.base with fg := some (.ofRgba c) }
  colored.withFont b.font

def paint (b : LineBuilder) : Paint → LineBuilder
  | .pushColor c => { b with colors := c :: b.colors }
  | .popColor => { b with colors := b.colors.tail }
  | .text s => { b with current := b.current ++ [⟨s, b.runLook⟩] }
  | .sameLine => b
  | .newLine => b.finishLine
  | .pushSmallFont => if b.hasSmallFont then { b with fontDepth := b.fontDepth + 1 } else b
  | .popFont => { b with fontDepth := b.fontDepth - 1 }
  | .beginTooltip => { b.settle with lines := [], parked := some b.settle.lines }
  | .endTooltip =>
    { b.settle with lines := b.parked.getD [], parked := none, tooltip := b.settle.lines }

def paintAll (b : LineBuilder) (calls : List Paint) : LineBuilder := calls.foldl paint b

def takeLines (b : LineBuilder) : List TextLine × LineBuilder :=
  (b.settle.lines, { b.settle with lines := [] })

def takeTooltip (b : LineBuilder) : List TextLine × LineBuilder :=
  (b.tooltip, { b with tooltip := [] })

end LineBuilder

end TraceView
