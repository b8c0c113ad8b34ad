import TraceView.Number.Hex

namespace TraceView.Toml.Quoted

def isControl (c : Char) : Bool :=
  (c.toNat ≤ 0x1F && c != '\t' && c != '\n') || c.toNat == 0x7F

def longestRun (q : Char) (current longest : Nat) : List Char → Nat
  | [] => longest
  | c :: cs =>
    if c = q then longestRun q (current + 1) (max longest (current + 1)) cs
    else longestRun q 0 longest cs

def run (q : Char) (cs : List Char) : Nat := longestRun q 0 0 cs

/-- One character between double quotes. `quotes` counts the double quotes right before it, of
which `allowed` may stand bare. -/
def escaped (multiline : Bool) (allowed quotes : Nat) : List Char → List Char
  | [] => []
  | c :: cs =>
    if c = '"' then
      if allowed < quotes + 1 then '\\' :: '"' :: escaped multiline allowed 0 cs
      else '"' :: escaped multiline allowed (quotes + 1) cs
    else
      let shown : List Char :=
        if c = '\x08' then ['\\', 'b']
        else if c = '\t' then ['\\', 't']
        else if c = '\n' then (if multiline then ['\n'] else ['\\', 'n'])
        else if c = '\x0c' then ['\\', 'f']
        else if c = '\r' then ['\\', 'r']
        else if c = '\\' then ['\\', '\\']
        else if isControl c then '\\' :: 'u' :: (Hex.upper 4 c.toNat).toList
        else [c]
      shown ++ escaped multiline allowed 0 cs

inductive Style where
  | basic
  | literal
  | longBasic
  | longLiteral
  deriving DecidableEq, Repr

/-- Text that holds a line feed starts on a line of its own in the long forms. -/
def write (style : Style) (cs : List Char) : List Char :=
  let opening : List Char := if cs.contains '\n' then ['\n'] else []
  match style with
  | .basic => '"' :: escaped false 0 0 cs ++ ['"']
  | .literal => '\'' :: cs ++ ['\'']
  | .longBasic => ['"', '"', '"'] ++ opening ++ escaped true 2 0 cs ++ ['"', '"', '"']
  | .longLiteral => ['\'', '\'', '\''] ++ opening ++ cs ++ ['\'', '\'', '\'']

/-- Plain quotes if nothing needs an escape, then literal, then the long forms. -/
def styleOf (cs : List Char) : Style :=
  let controls := cs.any isControl
  let breaks := cs.contains '\n'
  let backslash := cs.contains '\\'
  let doubles := run '"' cs
  let singles := run '\'' cs
  if !controls && !backslash && doubles = 0 && !breaks then .basic
  else if !controls && singles = 0 && !breaks then .literal
  else if !controls && !backslash && doubles ≤ 2 then .longBasic
  else if !controls && singles ≤ 2 then .longLiteral
  else if breaks then .longBasic
  else .basic

def text (s : String) : String := String.ofList (write (styleOf s.toList) s.toList)

def isBare (c : Char) : Bool := c.isAlphanum || c == '_' || c == '-'

def key (s : String) : String :=
  let cs := s.toList
  if !cs.isEmpty && cs.all isBare then s
  else
    match styleOf cs with
    | .literal => String.ofList (write .literal cs)
    | _ => String.ofList (write .basic cs)

end TraceView.Toml.Quoted
