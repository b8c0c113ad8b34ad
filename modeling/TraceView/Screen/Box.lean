import TraceView.Screen.Line

namespace TraceView.Grid

/-- The sides first, then the corners over their ends. -/
def putBorder (g : Grid) (a : Area) (look : Look) : Grid :=
  let left := a.x
  let top := a.y
  let right := a.right - 1
  let bottom := a.bottom - 1
  let columns := (List.range a.width).map (a.x + ·)
  let rows := (List.range a.height).map (a.y + ·)
  let g := rows.foldl (fun g y => g.put left y "│" look) g
  let g := columns.foldl (fun g x => g.put x top "─" look) g
  let g := rows.foldl (fun g y => g.put right y "│" look) g
  let g := columns.foldl (fun g x => g.put x bottom "─" look) g
  let g := g.put right bottom "┘" look
  let g := g.put right top "┐" look
  let g := g.put left bottom "└" look
  g.put left top "┌" look

def putBox (g : Grid) (a : Area) (title : String) (fill border : Look) : Grid :=
  if a.isEmpty then g
  else
    let g := (g.paint a fill).putBorder a border
    (g.putText (a.x + 1) a.y (a.width - 2) title {}).1

end TraceView.Grid
