import TraceView.Color.Picker
import TraceView.Number.Decimal
import TraceView.Palette.Table
import TraceView.RichText.Basic
import TraceView.WidgetStyle

namespace TraceView

structure Editor where
  colors : ColorTable := {}
  palette : Palette
  style : WidgetStyle := {}
  picker : Picker := {}
  selected : Fin Role.count := ⟨0, Role.count_pos⟩
  swatch : Fin Picker.count := ⟨0, Picker.count_pos⟩

namespace Editor

def pickerStep : Float32 := 0.05
def scaleStep : Float32 := 0.25
def smallestScale : Float32 := 0.5
def largestScale : Float32 := 3

def role (e : Editor) : Role := .ofIndex e.selected

def color (e : Editor) : Rgba := e.colors.get e.role

def swatchColor (e : Editor) : Rgba := e.picker.color (UInt64.ofNat e.swatch)

def publish (e : Editor) : Editor := { e with palette := e.colors.palette }

def turn {n : Nat} (i : Fin n) (up : Bool) : Fin n :=
  ⟨(if up then i.val + 1 else i.val + (n - 1)) % n, Nat.mod_lt _ (by have := i.isLt; omega)⟩

def selectNext (e : Editor) : Editor := { e with selected := turn e.selected true }
def selectPrevious (e : Editor) : Editor := { e with selected := turn e.selected false }
def swatchNext (e : Editor) : Editor := { e with swatch := turn e.swatch true }
def swatchPrevious (e : Editor) : Editor := { e with swatch := turn e.swatch false }

def applySwatch? (e : Editor) : Option Editor :=
  (e.colors.set? e.role e.swatchColor).map fun colors => { e with colors }.publish

def reset? (e : Editor) : Option Editor :=
  (e.colors.reset? e.role).map fun colors => { e with colors }.publish

def adjustPicker (e : Editor) (channel : Picker.Channel) (delta : Float32) : Editor :=
  { e with picker := e.picker.adjust channel delta }

def adjustScale (e : Editor) (delta : Float32) : Editor :=
  { e with style := { e.style with
      fontScale := Binary.clamp (e.style.fontScale + delta) smallestScale largestScale } }

def pushLabel (t : RichText) (c : Rgba) : RichText := t.pushColored (c.withAlpha 255) c.label

def changeEntry (e : Editor) (verb : String) (textColor : Rgba) : RichText :=
  let head := ((RichText.ofString "Color ").pushColored (e.colors.get .brightText)
    e.role.name).pushColor textColor
  pushLabel (((head.pushText " ").pushText verb).pushText " ") e.color

def roleTip (e : Editor) : RichText :=
  let head := ((RichText.empty.pushColored (e.colors.get .brightText)
    e.role.name).pushNewline).pushText "value "
  (pushLabel head e.color).pushNewline.pushColored (e.colors.get .dimText)
    (if e.colors.isChanged e.role then "modified" else "saved")

def swatchTip (e : Editor) : RichText :=
  pushLabel (RichText.empty.pushNewline.pushText "swatch ") e.swatchColor

end Editor

end TraceView
