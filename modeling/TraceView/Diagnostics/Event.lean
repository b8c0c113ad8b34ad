import TraceView.Diagnostics.Level
import TraceView.Number.Decimal
import TraceView.RichText.Basic
import TraceView.Text.Quoted

namespace TraceView

/-- Text is recorded as it is, any other value as its debug form. -/
inductive FieldValue where
  | text (s : String)
  | shown (s : String)
  deriving DecidableEq, Repr

namespace FieldValue

/-- Positional from 1e-4 up to 1e16, and a whole number keeps a point. -/
def ratioForm : Decimal.Form where
  positional := some (-4, 16)
  wholeSuffix := ".0"
  nan := "NaN"
  infinity := "inf"

def nat (n : Nat) : FieldValue := .shown (Decimal.digits n)
def int (n : Int) : FieldValue := .shown (toString n)
def flag (b : Bool) : FieldValue := .shown (if b then "true" else "false")
def ratio (x : Float) : FieldValue := .shown (Decimal.shortest ratioForm x)

def plain : FieldValue → String
  | text s => s
  | shown s => s

def quoted : FieldValue → String
  | text s => Text.quote s
  | shown s => s

end FieldValue

structure Field where
  name : String
  value : FieldValue
  deriving DecidableEq, Repr

namespace Field

def message (s : String) : Field := ⟨"message", .shown s⟩

def isMessage (f : Field) : Bool := f.name == "message"

def written (f : Field) : String :=
  if f.isMessage then f.value.plain else f.name ++ "=" ++ f.value.quoted

end Field

structure EventText where
  message : String := ""
  fields : String := ""
  deriving DecidableEq, Repr

namespace EventText

def record (t : EventText) (f : Field) : EventText :=
  if f.isMessage then { t with message := t.message ++ f.value.plain }
  else { t with fields := t.fields ++ (" " ++ f.name ++ "=" ++ f.value.plain) }

end EventText

structure Event where
  level : Level
  target : String
  fields : List Field := []
  deriving DecidableEq, Repr

namespace Event

def has (e : Event) (name : String) : Bool := e.fields.any (·.name == name)

def text (e : Event) : EventText := e.fields.foldl .record {}

/-- The level word in its color, the target if asked for, the message, and the fields dimmed. -/
def entry (e : Event) (palette : Palette) (withTarget : Bool) : RichText :=
  let text := palette.get .barText
  let dim := palette.get .dimText
  let head := ((RichText.empty.pushColored (e.level.color palette) e.level.word).pushColor
    text).pushText " "
  let head := if withTarget then
      ((head.pushColored dim (withoutEscapes e.target)).pushColor text).pushText ": "
    else head
  let head := head.pushText (withoutEscapes e.text.message)
  if e.text.fields.isEmpty then head else head.pushColored dim (withoutEscapes e.text.fields)

def line (e : Event) : String := e.level.word ++ " " ++ " ".intercalate (e.fields.map Field.written)

end Event

end TraceView
