import TraceView.Settings.Store

namespace TraceView

inductive Part where
  | text
  | textDisabled
  | windowBg
  | popupBg
  | border
  | frameBg
  | titleBg
  | header
  | headerHovered
  | button
  | buttonActive
  | scrollbarBg
  deriving DecidableEq, Repr

namespace Part

def all : List Part :=
  [text, textDisabled, windowBg, popupBg, border, frameBg, titleBg, header, headerHovered, button,
    buttonActive, scrollbarBg]

abbrev count : Nat := 12

def index : Part → Fin count
  | text => 0
  | textDisabled => 1
  | windowBg => 2
  | popupBg => 3
  | border => 4
  | frameBg => 5
  | titleBg => 6
  | header => 7
  | headerHovered => 8
  | button => 9
  | buttonActive => 10
  | scrollbarBg => 11

def ofIndex (i : Fin count) : Part := all[i]

@[simp] theorem ofIndex_index (p : Part) : ofIndex p.index = p := by cases p <;> rfl

def name : Part → String
  | text => "Text"
  | textDisabled => "TextDisabled"
  | windowBg => "WindowBg"
  | popupBg => "PopupBg"
  | border => "Border"
  | frameBg => "FrameBg"
  | titleBg => "TitleBg"
  | header => "Header"
  | headerHovered => "HeaderHovered"
  | button => "Button"
  | buttonActive => "ButtonActive"
  | scrollbarBg => "ScrollbarBg"

def ofName? (s : String) : Option Part := all.find? (·.name == s)

def defaultColor : Part → Vec4
  | text => ⟨0.90, 0.90, 0.90, 1.00⟩
  | textDisabled => ⟨0.60, 0.60, 0.60, 1.00⟩
  | windowBg => ⟨0.00, 0.00, 0.00, 0.70⟩
  | popupBg => ⟨0.05, 0.05, 0.10, 0.90⟩
  | border => ⟨0.70, 0.70, 0.70, 0.65⟩
  | frameBg => ⟨0.80, 0.80, 0.80, 0.30⟩
  | titleBg => ⟨0.27, 0.27, 0.54, 0.83⟩
  | header => ⟨0.40, 0.40, 0.90, 0.45⟩
  | headerHovered => ⟨0.45, 0.45, 0.90, 0.80⟩
  | button => ⟨0.67, 0.40, 0.40, 0.60⟩
  | buttonActive => ⟨0.80, 0.50, 0.50, 1.00⟩
  | scrollbarBg => ⟨0.20, 0.25, 0.30, 0.60⟩

end Part

structure WidgetStyle where
  fontScale : Float32 := 1
  colors : Vector Vec4 Part.count := Vector.ofFn fun i => (Part.ofIndex i).defaultColor

namespace WidgetStyle

def area : String := "$imgui_settings$"

def key (part : Part) : SettingKey := ⟨area, part.name⟩

def scaleKey : SettingKey := ⟨area, "win_scale"⟩

def get (s : WidgetStyle) (part : Part) : Vec4 := s.colors[part.index]

def rgba (s : WidgetStyle) (part : Part) : Rgba := .ofVec4 (s.get part)

def set (s : WidgetStyle) (part : Part) (v : Vec4) : WidgetStyle :=
  { s with colors := s.colors.set part.index v }

def scale (s : WidgetStyle) (size : Float32) : Float32 := size * s.fontScale

instance : BEq WidgetStyle :=
  ⟨fun s t => s.fontScale == t.fontScale && Part.all.all fun p => s.get p == t.get p⟩

section Stored

variable {σ : Type} [SettingsStore σ]

/-- A missing window background becomes opaque; any other missing color stays. -/
def loadPart (store : σ) (s : WidgetStyle) (part : Part) : WidgetStyle :=
  match SettingsStore.getVec4 store (key part) with
  | some v => s.set part v
  | none => if part = .windowBg then s.set part { s.get part with w := 1 } else s

def load (s : WidgetStyle) (store : σ) : WidgetStyle :=
  Part.all.foldl (loadPart store)
    { s with fontScale := (SettingsStore.getFloat store scaleKey).getD 1 }

def save (s : WidgetStyle) (store : σ) : σ :=
  Part.all.foldl (fun store part => SettingsStore.putVec4 store (key part) (s.get part))
    (SettingsStore.putFloat store scaleKey s.fontScale)

end Stored

end WidgetStyle

end TraceView
