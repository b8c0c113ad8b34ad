import TraceView.Files.Tree
import TraceView.Palette.Table
import TraceView.RichText.Basic
import TraceView.Number.Decimal
import TraceView.Ring
import TraceView.Text.Blank

/-!
Scanning a trace file: its lines, and how often each compute ring is named at the start of a token.
Line by line equals all at once, since no token crosses a line feed.
-/

namespace TraceView

abbrev Tally := Vector Nat Ring.count

namespace Tally

def zero : Tally := Vector.replicate _ 0

def get (t : Tally) (ring : Ring) : Nat := t[ring.index]

def add (t : Tally) (ring : Ring) : Tally := t.set ring.index (t.get ring + 1)

def addToken (t : Tally) (token : List Char) : Tally :=
  match Ring.parse token with
  | some ring => t.add ring
  | none => t

def addLine (t : Tally) (line : Bytes) : Tally :=
  (Text.words Text.isAsciiBlank (Utf8.decodeLossy line).toList).foldl addToken t

def seen (t : Tally) : List (Ring × Nat) :=
  (List.finRange Ring.count).filterMap fun i =>
    if 0 < t[i] then some (Ring.ofIndex i, t[i]) else none

end Tally

structure LoadSummary where
  path : Path
  bytes : Nat
  lines : Nat
  rings : List (Ring × Nat)
  deriving DecidableEq, Repr

namespace LoadSummary

def refs (s : LoadSummary) : Nat := s.rings.foldr (fun r n => r.2 + n) 0

end LoadSummary

abbrev PaletteEntry := Palette → RichText

namespace Scan

def shownPath (path : Path) : String := withoutEscapes path.text

def progressInterval : Nat := 100000

def startEntry (path : Path) (bytes : Nat) : PaletteEntry := fun _ =>
  .ofString ("Loading " ++ shownPath path ++ " (" ++ Decimal.digits bytes ++ " bytes)")

def progressEntry (path : Path) (lines : Nat) : PaletteEntry := fun _ =>
  .ofString (shownPath path ++ ": " ++ Decimal.digits lines ++ " lines")

def progressEntries (path : Path) (lines : Nat) : List PaletteEntry :=
  (List.range (lines / progressInterval)).map fun k =>
    progressEntry path ((k + 1) * progressInterval)

def ringLine (palette : Palette) (entry : RichText) (ring : Ring × Nat) : RichText :=
  ((entry.pushNewline.pushColored (palette.get .dimText) "  ").pushColored
    (palette.get .yellowText) ring.1.name).pushColored
    (palette.get .barText) (" x" ++ Decimal.digits ring.2)

def summaryEntry (s : LoadSummary) : PaletteEntry := fun palette =>
  let head := (((RichText.empty.pushColored (palette.get .greenText) "Loaded ").pushColored
    (palette.get .brightText) (shownPath s.path)).pushColor (palette.get .barText)).pushText
    (": " ++ Decimal.digits s.lines ++ " lines, " ++ Decimal.digits s.bytes ++ " bytes")
  s.rings.foldl (ringLine palette) head

def failureEntry (path : Path) (cause : FileError) : PaletteEntry := fun palette =>
  RichText.empty.pushColored (palette.get .redText)
    (withoutEscapes ("Failed to load " ++ path.text ++ ": " ++ cause.message))

def lines (content : Bytes) : List Bytes := Text.lines (· == RichText.lineFeed) content

def tally (content : Bytes) : Tally := (lines content).foldl Tally.addLine .zero

def summary (path : Path) (bytes : Nat) (content : Bytes) : LoadSummary where
  path
  bytes
  lines := (lines content).length
  rings := (tally content).seen

/-- What is logged of a file that reads as `content`, to its end or up to an error. An error loses the
line under way, but not those before it. -/
def scan (path : Path) (bytes : Nat) (content : Bytes) :
    Option FileError → List PaletteEntry × Except FileError LoadSummary
  | some e =>
    (startEntry path bytes :: progressEntries path (content.count RichText.lineFeed), .error e)
  | none =>
    let s := summary path bytes content
    (startEntry path bytes :: progressEntries path s.lines ++ [summaryEntry s], .ok s)

def run (tree : Tree) (path : Path) : List PaletteEntry × Except FileError LoadSummary :=
  match tree.read path with
  | .error e => scan path (tree.size path) [] (some e)
  | .ok content => scan path (tree.size path) content none

end Scan

end TraceView
