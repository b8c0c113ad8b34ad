import TraceView.RichText.Basic

/-!
Decoding styled text into runs and line breaks. A `Cursor` yields one segment at a time and can be
left and resumed between any two; `Segment.parse` is the same reading in one pass. An escape with
fewer than four bytes after it ends the text.
-/

namespace TraceView

inductive Segment where
  | run (text : Bytes) (color : Rgba)
  | lineBreak
  deriving DecidableEq, Repr

namespace Segment

def text? : Segment → Option String
  | .run text _ => some (Utf8.decodeLossy text)
  | .lineBreak => none

/-- Pending text (newest first) as a run; no run is empty. -/
def pending? (text : Bytes) (color : Rgba) : Option Segment :=
  if text.isEmpty then none else some (.run text.reverse color)

/-- One pass from the left, with the pending text (newest first) and the color in force. -/
def parseFrom (text : Bytes) (color : Rgba) : Bytes → List Segment
  | [] => (pending? text color).toList
  | x :: xs =>
    if x = RichText.lineFeed then (pending? text color).toList ++ .lineBreak :: parseFrom [] color xs
    else if x = RichText.escape then
      match xs with
      | r :: g :: b :: a :: xs => (pending? text color).toList ++ parseFrom [] ⟨r, g, b, a⟩ xs
      | _ => (pending? text color).toList
    else parseFrom (x :: text) color xs

def parse (xs : Bytes) (color : Rgba) : List Segment := parseFrom [] color xs

end Segment

/-- A decoder between two segments. Once `done` it yields nothing more, whatever is unread. -/
structure Cursor where
  unread : Bytes
  color : Rgba
  taken : Bytes := []
  breakDue : Bool := false
  done : Bool := false
  deriving DecidableEq, Repr

namespace Cursor

def scan (taken : Bytes) (color : Rgba) : Bytes → Option Segment × Cursor
  | [] => (Segment.pending? taken color, { unread := [], color, done := true })
  | x :: xs =>
    if x = RichText.lineFeed then
      match Segment.pending? taken color with
      | some run => (some run, { unread := xs, color, breakDue := true })
      | none => (some .lineBreak, { unread := xs, color })
    else if x = RichText.escape then
      match xs with
      | r :: g :: b :: a :: xs =>
        match Segment.pending? taken color with
        | some run => (some run, { unread := xs, color := ⟨r, g, b, a⟩ })
        | none => scan [] ⟨r, g, b, a⟩ xs
      | _ => (Segment.pending? taken color, { unread := x :: xs, color, taken, done := true })
    else scan (x :: taken) color xs

def next (s : Cursor) : Option Segment × Cursor :=
  if s.breakDue then (some .lineBreak, { s with breakDue := false })
  else if s.done then (none, s)
  else scan s.taken s.color s.unread

def take : Nat → Cursor → List Segment
  | 0, _ => []
  | fuel + 1, s =>
    match s.next with
    | (some seg, s) => seg :: take fuel s
    | (none, _) => []

/-- A due break and one segment for each unread byte at most. -/
def toList (s : Cursor) : List Segment := s.take (s.unread.length + 1)

end Cursor

namespace RichText

def segments (t : RichText) (color : Rgba) : List Segment :=
  Cursor.toList { unread := t.bytes, color }

def plainText (t : RichText) : String :=
  String.join ((t.segments .transparent).map fun seg => seg.text?.getD "\n")

end RichText

end TraceView
