import TraceView.Screen.Look
import TraceView.WidgetStyle

namespace TraceView.Theme

def windowBg (s : WidgetStyle) : Rgba := (s.rgba .windowBg).composite .black

def popupBg (s : WidgetStyle) : Rgba := (s.rgba .popupBg).composite .black

def textOn (s : WidgetStyle) (bg : Rgba) : Look where
  fg := some (.ofRgbaOver (s.rgba .text) bg)
  bg := some (.ofRgba bg)

def panel (s : WidgetStyle) : Look := textOn s (windowBg s)

def popup (s : WidgetStyle) : Look := textOn s (popupBg s)

def border (s : WidgetStyle) : Look := .ink (.ofRgbaOver (s.rgba .border) (windowBg s))

def selected (s : WidgetStyle) : Look where
  bg := some (.ofRgbaOver (s.rgba .headerHovered) (windowBg s))
  add := .bold

def statusKey : Look := .ink (.rgb 255 223 128)

def statusText : Look := .ink (.rgb 160 160 160)

def smallFont : Modifiers := .italic

def selectionMarker : String := "▶ "
def noMarker : String := "  "
def swatchGlyph : String := "█"
def activeSwatchGlyph : String := "◆"

end TraceView.Theme
