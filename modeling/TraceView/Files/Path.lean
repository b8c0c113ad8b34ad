import TraceView.Text.Split
import TraceView.Text.Utf8

namespace TraceView

structure Path where
  text : String
  deriving DecidableEq, Repr

namespace Path

instance : Coe String Path := ⟨Path.mk⟩

def isAbsolute (p : Path) : Bool := p.text.toList.head? == some '/'

def isEmpty (p : Path) : Bool := p.text.isEmpty

def parts (p : Path) : List String :=
  ((Text.pieces (· == '/') p.text.toList).map String.ofList).filter fun s => s != "" && s != "."

def inOrder : List String → List String → Bool
  | [], _ => true
  | _ :: _, [] => false
  | m :: ms, n :: ns => if m = n then inOrder ms ns else decide (m < n)

def le (p q : Path) : Bool := inOrder p.parts q.parts

def namesFolder (p : Path) : Bool :=
  match p.text.toList.reverse with
  | '/' :: _ => true
  | '.' :: '/' :: _ => true
  | ['.'] => true
  | _ => false

/-- A dot at the end names the folder before it, which must exist even where something new is to
be made. -/
def endsInDot (p : Path) : Bool :=
  (p.text.toList.reverse.dropWhile (· == '/')).takeWhile (· != '/') == ['.']

def hasNul (p : Path) : Bool := p.text.toList.contains '\x00'

/-- No file is reached by so many bytes. -/
def isTooLong (p : Path) : Bool := 4096 ≤ p.text.utf8ByteSize

def join (p : Path) (q : String) : Path :=
  if (Path.mk q).isAbsolute || p.isEmpty then ⟨q⟩
  else if p.text.toList.getLast? == some '/' then ⟨p.text ++ q⟩
  else ⟨p.text ++ "/" ++ q⟩

/-- What follows the last dot of the last component, unless that dot is its first character. -/
def extension? (p : Path) : Option String :=
  match p.parts.getLast? with
  | none => none
  | some ".." => none
  | some name =>
    let back := name.toList.reverse
    let ext := back.takeWhile (· != '.')
    if ext.length + 1 < back.length then some (String.ofList ext.reverse) else none

end Path

end TraceView
