import TraceView.Color.Rgba

/-!
Drawing text as a sequence of calls. Whoever draws interprets the calls; the views here say what a
sequence shows: its text, the color of each run, and how many colors are still pushed.
-/

namespace TraceView

inductive Paint where
  | pushColor (c : Rgba)
  | popColor
  | text (s : String)
  | sameLine
  | newLine
  | pushSmallFont
  | popFont
  | beginTooltip
  | endTooltip
  deriving DecidableEq, Repr

namespace Paint

def shownText (calls : List Paint) : String :=
  String.join (calls.map fun
    | .text s => s
    | .newLine => "\n"
    | _ => "")

def stackAfter (stack : List Rgba) : Paint → List Rgba
  | .pushColor c => c :: stack
  | .popColor => stack.tail
  | _ => stack

/-- Each run with the color on top when it was drawn; transparent when there is none. -/
def coloredRunsFrom (stack : List Rgba) : List Paint → List (String × Rgba)
  | [] => []
  | .text s :: calls => (s, stack.headD .transparent) :: coloredRunsFrom stack calls
  | call :: calls => coloredRunsFrom (stackAfter stack call) calls

def coloredRuns (calls : List Paint) : List (String × Rgba) := coloredRunsFrom [] calls

def depth (calls : List Paint) : Nat := (calls.foldl stackAfter []).length

def isRequired : Paint → Bool
  | .sameLine | .pushSmallFont | .popFont => false
  | _ => true

end Paint

end TraceView
