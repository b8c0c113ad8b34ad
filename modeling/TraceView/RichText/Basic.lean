import TraceView.Color.Rgba

/-!
Styled text: bytes with two control tokens. A line feed breaks the line; an escape byte with four
more bytes sets the color of what follows. The four color bytes are data and may take any value.
-/

namespace TraceView

structure RichText where
  bytes : Bytes
  deriving DecidableEq, Repr

namespace RichText

def escape : UInt8 := 0x1B
def lineFeed : UInt8 := 0x0A

def empty : RichText := ⟨[]⟩

instance : EmptyCollection RichText := ⟨empty⟩
instance : Inhabited RichText := ⟨empty⟩
instance : Append RichText := ⟨fun s t => ⟨s.bytes ++ t.bytes⟩⟩

@[simp] theorem bytes_append (s t : RichText) : (s ++ t).bytes = s.bytes ++ t.bytes := rfl
@[simp] theorem bytes_empty : (empty : RichText).bytes = [] := rfl

def colorCode (c : Rgba) : Bytes := escape :: c.bytes

def ofString (s : String) : RichText := ⟨Utf8.encode s⟩

instance : Coe String RichText := ⟨ofString⟩

def size (t : RichText) : Nat := t.bytes.length

def isEmpty (t : RichText) : Bool := t.bytes.isEmpty

def pushBytes (t : RichText) (bs : Bytes) : RichText := ⟨t.bytes ++ bs⟩

def pushText (t : RichText) (s : String) : RichText := t.pushBytes (Utf8.encode s)

def pushColor (t : RichText) (c : Rgba) : RichText := t.pushBytes (colorCode c)

def pushNewline (t : RichText) : RichText := t.pushBytes [lineFeed]

def pushColored (t : RichText) (c : Rgba) (s : String) : RichText := (t.pushColor c).pushText s

end RichText

def escapeStandIn : Char := '\u241b'

/-- Text from outside with no escape left, so that it cannot select a color. -/
def withoutEscapes (s : String) : String :=
  String.ofList (s.toList.map fun c => if c = '\x1b' then escapeStandIn else c)

def hasEscape (s : String) : Bool := s.toList.contains '\x1b'

end TraceView
