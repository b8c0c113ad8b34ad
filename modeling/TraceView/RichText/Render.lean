import TraceView.RichText.Segment
import TraceView.Paint

namespace TraceView.RichText

def renderFrom (active : Rgba) (lineStart : Bool) : List Segment → List Paint
  | [] => [.popColor]
  | .run text color :: segs =>
    (if color = active then [] else [.popColor, .pushColor color])
      ++ (if lineStart then [] else [.sameLine])
      ++ .text (Utf8.decodeLossy text) :: renderFrom color false segs
  | .lineBreak :: segs => .newLine :: renderFrom active true segs

def render (t : RichText) (color : Rgba) : List Paint :=
  .pushColor color :: renderFrom color true (t.segments color)

end TraceView.RichText
