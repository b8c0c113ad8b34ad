import TraceView.Screen.Box
import TraceView.Session.Basic
import TraceView.Theme
import TraceView.Tooltip

namespace TraceView.Session

structure Layout where
  log : Area
  colors : Area
  status : Area
  deriving DecidableEq, Repr

namespace Layout

/-- The panels have at least three rows before the status line gets one; the log has three fifths of
the columns, rounded. -/
def ofFrame (width height : Nat) : Layout :=
  let (panels, status) := (Area.mk 0 0 width height).splitRows (height - min 1 (height - 3))
  let (log, colors) := panels.splitColumns ((6 * width + 5) / 10)
  { log, colors, status }

end Layout

structure ColorLayout where
  list : Area
  picker : Area
  columns : Nat
  first : Nat
  visible : Nat
  deriving DecidableEq, Repr

namespace ColorLayout

/-- The picker has a line of numbers and as many lines as its swatches need; the list has the rest,
at least one row. It starts where the selected role is still shown. -/
def ofInner (inner : Area) (selected : Nat) : ColorLayout :=
  let columns := max 1 inner.width
  let swatchRows := (Picker.count + columns - 1) / columns
  let (list, picker) := inner.splitRows (max 1 (inner.height - (swatchRows + 1)))
  let visible := max 1 list.height
  { list, picker, columns, first := selected + 1 - visible, visible }

def anchor (l : ColorLayout) (selected : Nat) : Area :=
  ⟨l.list.x, l.list.y + (selected - l.first), l.list.width, 1⟩

end ColorLayout

def logTitle (entries : Nat) : String := " Log (" ++ Decimal.digits entries ++ ") "

def colorsTitle (changed : Nat) : String := " Colors (" ++ Decimal.digits changed ++ " modified) "

def drawLog (s : Session) (g : Grid) (a : Area) : Grid × Session :=
  let panel := s.panel.sync s.config.textColor
  let look := Theme.panel s.editor.style
  let g := g.putBox a (logTitle panel.log.size) look (Theme.border s.editor.style)
  let (g, view) := panel.view.draw g a.inner panel.lines look
  (g, { s with panel := { panel with view } })

def roleLine (e : Editor) (role : Role) : TextLine :=
  let bg := Theme.windowBg e.style
  let chosen := role = e.role
  { spans := [
      { text := if chosen then Theme.selectionMarker else Theme.noMarker },
      { text := Theme.swatchGlyph ++ Theme.swatchGlyph,
        look := .ink (.ofRgbaOver (e.colors.get role) bg) },
      { text := " " ++ role.name ++ (if e.colors.isChanged role then " *" else "") }],
    look := if chosen then Theme.selected e.style else {} }

def listLines (e : Editor) (l : ColorLayout) : List TextLine :=
  ((Role.all.drop l.first).take l.visible).map (roleLine e)

def pickerNumbers (p : Picker) : String :=
  "S " ++ Decimal.fixed 2 p.saturation ++ "  V " ++ Decimal.fixed 2 p.value ++ "  A "
    ++ Decimal.fixed 2 p.alpha

def swatchSpans (e : Editor) : List Span :=
  e.picker.swatches.zipIdx.map fun (c, i) =>
    { text := if i = e.swatch.val then Theme.activeSwatchGlyph else Theme.swatchGlyph,
      look := .ink (.ofRgbaOver c (Theme.windowBg e.style)) }

def chunks {α : Type} (size : Nat) (as : List α) : List (List α) :=
  (List.range ((as.length + size - 1) / size)).map fun i => (as.drop (i * size)).take size

def pickerLines (e : Editor) (l : ColorLayout) : List TextLine :=
  .ofString (pickerNumbers e.picker) :: (chunks l.columns (swatchSpans e)).map fun spans => { spans }

def drawColorsIn (e : Editor) (g : Grid) (a : Area) (l : ColorLayout) : Grid × Area :=
  let look := Theme.panel e.style
  let g := g.putBox a (colorsTitle e.colors.changedCount) look (Theme.border e.style)
  let g := (g.paint l.list look).putLines l.list (listLines e l)
  ((g.paint l.picker look).putLines l.picker (pickerLines e l), l.anchor e.selected)

def drawColors (e : Editor) (g : Grid) (a : Area) : Grid × Area :=
  drawColorsIn e g a (.ofInner a.inner e.selected)

def keyHelp : List (String × String) :=
  [("q", " quit  "), ("↑↓", " color  "), ("←→", " swatch  "), ("enter", " apply  "),
    ("r", " reset  "), ("c", " clear log  ")]

def statusText (s : Session) : String :=
  "│ files " ++ Decimal.digits s.loaders.finished.length ++ "/" ++ Decimal.digits s.loaders.total
    ++ " │ entries " ++ Decimal.digits s.panel.log.size ++ " │ scale "
    ++ Decimal.fixed 2 s.editor.style.fontScale

def statusLine (s : Session) : TextLine where
  spans := (keyHelp.flatMap fun (key, purpose) =>
      [⟨key, Theme.statusKey⟩, ⟨purpose, Theme.statusText⟩])
    ++ [⟨statusText s, Theme.statusText⟩]

def tip (s : Session) : Tooltip :=
  if s.showTip then (({} : Tooltip).set s.editor.roleTip).add s.editor.swatchTip else {}

def tipLines? (s : Session) : Option (List TextLine) :=
  let builder : LineBuilder := {
    base := Theme.popup s.editor.style
    smallFont := if s.config.smallFont then some Theme.smallFont else none }
  (s.tip.consume builder.hasSmallFont s.config.textColor).1.map fun calls =>
    (builder.paintAll calls).takeTooltip.1

def tipColumns : Float32 := 40

/-- To the left of the anchor, as wide as its lines but no wider than the scale allows, and inside
the frame. -/
def popupArea (style : WidgetStyle) (width height : Nat) (anchor : Area) (lines : List TextLine) :
    Area :=
  let content := ((lines.map TextLine.width).max?).getD 0
  let columns := min (min (content + 2) (style.scale tipColumns).toUInt16.toNat) width
  let rows := min (lines.length + 2) height
  ⟨anchor.x - columns, min anchor.y (height - rows), columns, rows⟩

def drawPopup (style : WidgetStyle) (g : Grid) (a : Area) (lines : List TextLine) : Grid :=
  let g := ((g.clear a).paint a (Theme.popup style)).putBox a "" {} (Theme.border style)
  g.putLines a.inner lines

def draw (s : Session) (width height : Nat) : Grid × Session :=
  let layout := Layout.ofFrame width height
  let (g, s) := s.drawLog (.blank width height) layout.log
  let (g, anchor) := drawColors s.editor g layout.colors
  let g := g.putLines layout.status [s.statusLine]
  match s.tipLines? with
  | none => (g, s)
  | some lines =>
    (drawPopup s.editor.style g (popupArea s.editor.style width height anchor lines) lines, s)

end TraceView.Session
