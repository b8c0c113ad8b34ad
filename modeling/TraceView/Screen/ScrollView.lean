import TraceView.Screen.Line

namespace TraceView

structure ScrollView where
  offset : Nat := 0
  total : Nat := 0
  follow : Bool := true
  deriving DecidableEq, Repr

namespace ScrollView

/-- Positive is down. -/
def scroll (v : ScrollView) (delta : Int) : ScrollView := { v with
  offset := (v.offset + delta).toNat
  follow := v.follow && 0 ≤ delta }

def toBottom (v : ScrollView) : ScrollView := { v with offset := v.total, follow := true }

def settle (v : ScrollView) (count height : Nat) : ScrollView :=
  let last := count - height
  let offset := if v.follow then last else min v.offset last
  { offset, total := count, follow := v.follow || offset = last }

def visible (v : ScrollView) (lines : List TextLine) (height : Nat) : List TextLine :=
  (lines.drop v.offset).take height

def draw (v : ScrollView) (g : Grid) (a : Area) (lines : List TextLine) (look : Look) :
    Grid × ScrollView :=
  let v := v.settle lines.length a.height
  ((g.paint a look).putLines a (v.visible lines a.height), v)

end ScrollView

end TraceView
