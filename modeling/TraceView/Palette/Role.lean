import TraceView.Color.Rgba

namespace TraceView

inductive Role where
  | graphBk
  | graphRowBk
  | timeTick
  | cursorPos
  | mousePos
  | markerA
  | markerB
  | vBlank
  | ftraceMarker
  | barText
  | barSelected
  | eventHover
  | brightText
  | yellowText
  | redText
  | greenText
  | dimText
  deriving DecidableEq, Repr

namespace Role

def all : List Role :=
  [graphBk, graphRowBk, timeTick, cursorPos, mousePos, markerA, markerB, vBlank, ftraceMarker,
    barText, barSelected, eventHover, brightText, yellowText, redText, greenText, dimText]

abbrev count : Nat := 17

theorem count_pos : 0 < count := by decide

@[simp] theorem length_all : all.length = count := rfl

def index : Role → Fin count
  | graphBk => 0
  | graphRowBk => 1
  | timeTick => 2
  | cursorPos => 3
  | mousePos => 4
  | markerA => 5
  | markerB => 6
  | vBlank => 7
  | ftraceMarker => 8
  | barText => 9
  | barSelected => 10
  | eventHover => 11
  | brightText => 12
  | yellowText => 13
  | redText => 14
  | greenText => 15
  | dimText => 16

def ofIndex (i : Fin count) : Role := all[i]

@[simp] theorem ofIndex_index (r : Role) : ofIndex r.index = r := by cases r <;> rfl

@[simp] theorem index_ofIndex (i : Fin count) : (ofIndex i).index = i := by
  revert i; decide

def ofIndex? (i : Nat) : Option Role := all[i]?

def name : Role → String
  | graphBk => "GraphBk"
  | graphRowBk => "GraphRowBk"
  | timeTick => "TimeTick"
  | cursorPos => "CursorPos"
  | mousePos => "MousePos"
  | markerA => "MarkerA"
  | markerB => "MarkerB"
  | vBlank => "VBlank"
  | ftraceMarker => "FtraceMarker"
  | barText => "BarText"
  | barSelected => "BarSelected"
  | eventHover => "EventHover"
  | brightText => "BrightText"
  | yellowText => "YellowText"
  | redText => "RedText"
  | greenText => "GreenText"
  | dimText => "DimText"

def ofName? (s : String) : Option Role := all.find? (·.name == s)

def defaultColor : Role → Rgba
  | graphBk => ⟨20, 20, 20, 255⟩
  | graphRowBk => ⟨34, 34, 40, 255⟩
  | timeTick => ⟨255, 255, 0, 255⟩
  | cursorPos => ⟨0, 255, 0, 255⟩
  | mousePos => ⟨255, 0, 255, 255⟩
  | markerA => ⟨255, 200, 0, 255⟩
  | markerB => ⟨0, 200, 255, 255⟩
  | vBlank => ⟨128, 128, 255, 160⟩
  | ftraceMarker => ⟨255, 60, 60, 255⟩
  | barText => ⟨230, 230, 230, 255⟩
  | barSelected => ⟨0, 200, 0, 200⟩
  | eventHover => ⟨255, 255, 255, 120⟩
  | brightText => ⟨255, 255, 255, 255⟩
  | yellowText => ⟨255, 255, 0, 255⟩
  | redText => ⟨255, 80, 80, 255⟩
  | greenText => ⟨120, 230, 120, 255⟩
  | dimText => ⟨140, 140, 140, 255⟩

end Role

end TraceView
