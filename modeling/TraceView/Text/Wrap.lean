import TraceView.Text.Blank
import TraceView.Text.Controls

namespace TraceView.Text

/-- The words of a line, each with the spaces after it; spaces at the start are a word. -/
def spacedWords (word : List Char) : List Char → List (List Char)
  | [] => if word.isEmpty then [] else [word.reverse]
  | c :: cs =>
    if word.head? = some ' ' && c ≠ ' ' then word.reverse :: spacedWords [c] cs
    else spacedWords (c :: word) cs

def wholeLines (line : List Char) : List Char → List (List Char)
  | [] => if line.isEmpty then [] else [line.reverse]
  | c :: cs =>
    if c = '\n' then (c :: line).reverse :: wholeLines [] cs else wholeLines (c :: line) cs

def stretches : List (Char × Bool) → List (Bool × List Char)
  | [] => []
  | (c, isShown) :: cs =>
    match stretches cs with
    | (b, s) :: rest => if b = isShown then (b, c :: s) :: rest else (isShown, [c]) :: (b, s) :: rest
    | [] => [(isShown, [c])]

/-- The columns of a word. After a control character nothing counts up to an `m`. -/
def wordColumns (inControl : Bool) : List Char → Nat
  | [] => 0
  | c :: cs =>
    if ControlPlace.isControl c then wordColumns true cs
    else if inControl then wordColumns (c ≠ 'm') cs
    else 1 + wordColumns false cs

def byteSize (s : List Char) : Nat := (s.map Char.utf8Size).foldr (· + ·) 0

def trimEnd (s : List Char) : List Char := (s.reverse.dropWhile isBlank).reverse

structure Filling where
  columns : Nat := 0
  indent : Option (List Char) := none

def fill (limit : Nat) (f : Filling) (written : List (List Char)) :
    List (List Char) → List (List Char) × Filling
  | [] => (written.reverse, f)
  | word :: words =>
    let core := trimEnd word
    let columns := wordColumns false core
    let spaces := byteSize word - byteSize core
    match written with
    | last :: before =>
      if limit < f.columns + columns then
        let indent := f.indent.getD []
        fill limit { f with columns := byteSize indent + columns + spaces }
          (word :: indent :: ['\n'] :: trimEnd last :: before) words
      else fill limit { f with columns := f.columns + columns + spaces } (word :: written) words
    | [] => fill limit { f with columns := f.columns + columns + spaces } [word] words

/-- Fills with a line; a line of spaces, or one that starts with spaces, sets the indent. -/
def fillLine (limit : Nat) (f : Filling) (line : List Char) : List Char × Filling :=
  let words := spacedWords [] line
  let first := words.head?.map fun w => if (trimEnd w).isEmpty then w else []
  let (words, f) := fill limit { f with indent := f.indent.or first } [] words
  (words.flatten, f)

def fillLines (limit : Nat) (f : Filling) : List (List Char) → List Char × Filling
  | [] => ([], f)
  | line :: lines =>
    let (line, f) := fillLine limit f line
    match lines with
    | [] => (line, f)
    | _ =>
      let (rest, f) := fillLines limit {} lines
      (line ++ rest, f)

def wrapStretches (limit : Nat) (f : Filling) : List (Bool × List Char) → List Char
  | [] => []
  | (true, s) :: rest =>
    let (s, f) := fillLines limit f (wholeLines [] s)
    s ++ wrapStretches limit f rest
  | (false, s) :: rest => s ++ wrapStretches limit f rest

def wrap (limit : Nat) (s : String) : String :=
  String.ofList (trimEnd (wrapStretches limit {} (stretches (shown false s.toList))))

end TraceView.Text
