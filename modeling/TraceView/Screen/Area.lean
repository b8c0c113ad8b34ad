namespace TraceView

structure Area where
  x : Nat
  y : Nat
  width : Nat
  height : Nat
  deriving DecidableEq, Repr

namespace Area

def right (a : Area) : Nat := a.x + a.width
def bottom (a : Area) : Nat := a.y + a.height

def isEmpty (a : Area) : Bool := a.width == 0 || a.height == 0

def inner (a : Area) : Area :=
  ⟨min (a.x + 1) a.right, min (a.y + 1) a.bottom, a.width - 2, a.height - 2⟩

def splitRows (a : Area) (rows : Nat) : Area × Area :=
  let upper := min rows a.height
  (⟨a.x, a.y, a.width, upper⟩, ⟨a.x, a.y + upper, a.width, a.height - upper⟩)

def splitColumns (a : Area) (columns : Nat) : Area × Area :=
  let left := min columns a.width
  (⟨a.x, a.y, left, a.height⟩, ⟨a.x + left, a.y, a.width - left, a.height⟩)

def cells (a : Area) : List (Nat × Nat) :=
  (List.range a.height).flatMap fun dy => (List.range a.width).map fun dx => (a.x + dx, a.y + dy)

end Area

end TraceView
