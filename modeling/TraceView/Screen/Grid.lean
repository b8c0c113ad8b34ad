import TraceView.Screen.Area
import TraceView.Screen.Look
import TraceView.Text.Width

/-!
A grid of terminal cells. Every operation says what becomes of single cells; those outside the grid
do not count.
-/

namespace TraceView

structure Cell where
  symbol : String := " "
  fg : Ink := .standard
  bg : Ink := .standard
  underline : Ink := .standard
  modifiers : Modifiers := 0#9
  deriving DecidableEq, Repr

namespace Cell

def blank : Cell := {}

instance : Inhabited Cell := ⟨blank⟩

def paint (c : Cell) (look : Look) : Cell := { c with
  fg := look.fg.getD c.fg
  bg := look.bg.getD c.bg
  underline := look.underline.getD c.underline
  modifiers := (c.modifiers ||| look.add).without look.sub }

theorem paint_patch (c : Cell) (a b : Look) : (c.paint a).paint b = c.paint (a.patch b) := by
  simp [paint, Look.patch, Modifiers.or_without_assoc, Option.getD_or]

end Cell

structure Grid where
  width : Nat
  height : Nat
  cells : Vector Cell (width * height) := Vector.replicate _ .blank

namespace Grid

def blank (width height : Nat) : Grid := { width, height }

def area (g : Grid) : Area := ⟨0, 0, g.width, g.height⟩

def get? (g : Grid) (x y : Nat) : Option Cell :=
  if x < g.width then g.cells[y * g.width + x]? else none

def get (g : Grid) (x y : Nat) : Cell := (g.get? x y).getD .blank

def modify (g : Grid) (x y : Nat) (f : Cell → Cell) : Grid :=
  if h : x < g.width ∧ y * g.width + x < g.width * g.height then
    { g with cells := g.cells.set (y * g.width + x) (f (g.cells.get ⟨_, h.2⟩)) h.2 }
  else g

@[simp] theorem width_modify (g : Grid) (x y : Nat) (f : Cell → Cell) :
    (g.modify x y f).width = g.width := by
  unfold modify; split <;> rfl

@[simp] theorem height_modify (g : Grid) (x y : Nat) (f : Cell → Cell) :
    (g.modify x y f).height = g.height := by
  unfold modify; split <;> rfl

def modifyArea (g : Grid) (a : Area) (f : Cell → Cell) : Grid :=
  a.cells.foldl (fun g (x, y) => g.modify x y f) g

def paint (g : Grid) (a : Area) (look : Look) : Grid := g.modifyArea a (·.paint look)

def clear (g : Grid) (a : Area) : Grid := g.modifyArea a fun _ => .blank

def put (g : Grid) (x y : Nat) (symbol : String) (look : Look) : Grid :=
  g.modify x y fun c => { c.paint look with symbol }

def row (g : Grid) (y : Nat) : List Cell := (List.range g.width).map (g.get · y)

def rows (g : Grid) : List (List Cell) := (List.range g.height).map g.row

/-- What a terminal shows of a grid drawn on an empty screen: a glyph of two cells hides the cell
after it, whatever was put there. -/
def shown (g : Grid) : Grid := { g with
  cells := Vector.ofFn fun i =>
    if 0 < i.val && g.cells[i.val - 1]?.any fun c => 2 ≤ Text.width c.symbol then .blank
    else g.cells[i] }

end Grid

end TraceView
