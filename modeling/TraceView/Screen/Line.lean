import TraceView.Screen.Grid

namespace TraceView

structure Span where
  text : String
  look : Look := {}
  deriving DecidableEq, Repr

structure TextLine where
  spans : List Span
  look : Look := {}
  deriving DecidableEq, Repr

namespace TextLine

def ofString (s : String) : TextLine := ⟨[{ text := s }], {}⟩

def width (l : TextLine) : Nat := l.spans.foldr (fun s n => Text.width s.text + n) 0

def text (l : TextLine) : String := String.join (l.spans.map (·.text))

end TextLine

/-- The clusters of a text that take cells, with their widths. Control characters take none. -/
def visibleClusters (s : String) : List (String × Nat) :=
  ((Text.clusters s.toList).filter fun c => !c.any Text.isControl).filterMap fun c =>
    let w := Text.clusterWidth c
    if w = 0 then none else some (String.ofList c, w)

namespace Grid

def cover (g : Grid) (x y : Nat) : Nat → Grid
  | 0 => g
  | n + 1 => (g.modify x y fun _ => .blank).cover (x + 1) y n

def putClusters (g : Grid) (x y room : Nat) (look : Look) : List (String × Nat) → Grid × Nat
  | [] => (g, x)
  | (symbol, w) :: rest =>
    if w ≤ room then
      putClusters ((g.put x y symbol look).cover (x + 1) y (w - 1)) (x + w) y (room - w) look rest
    else (g, x)

def putText (g : Grid) (x y room : Nat) (s : String) (look : Look) : Grid × Nat :=
  g.putClusters x y (min room (g.width - x)) look (visibleClusters s)

def putSpans (g : Grid) (x y room : Nat) (look : Look) : List Span → Grid
  | [] => g
  | s :: rest =>
    let (g, next) := g.putText x y room s.text (look.patch s.look)
    putSpans g next y (room - (next - x)) look rest

def putLine (g : Grid) (x y room : Nat) (line : TextLine) : Grid :=
  g.putSpans x y room line.look line.spans

def putLines (g : Grid) (a : Area) (lines : List TextLine) : Grid :=
  ((lines.take a.height).zipIdx).foldl
    (fun g (line, i) => g.putLine a.x (a.y + i) a.width line) g

end Grid

end TraceView
