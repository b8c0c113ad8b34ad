import TraceView.Files.Tree
import TraceView.Number.Decimal
import TraceView.Text.Blank
import TraceView.Text.Replace

namespace TraceView

namespace SourcePolicy

def sourceExtension : String := "rs"

def testMark : String := "#[cfg(test)]"

def commentMark : String := "//"

/-- The lines of a text. Each loses its line feed, and a carriage return before that. -/
def textLines (text : List Char) : List (List Char) :=
  let pieces := Text.pieces (· == '\n') text
  let whole (line : List Char) : List Char :=
    if line.getLast? = some '\r' then line.dropLast else line
  match pieces.getLast? with
  | none | some [] => pieces.dropLast.map whole
  | some last => pieces.dropLast.map whole ++ [last]

def isTestMark (line : List Char) : Bool :=
  (Text.stripPrefix? testMark.toList (line.dropWhile Text.isBlank)).isSome

def code : List Char → List Char
  | [] => []
  | c :: cs =>
    if (Text.stripPrefix? commentMark.toList (c :: cs)).isSome then [] else c :: code cs

def productionLines (text : String) : List (Nat × String) :=
  ((textLines text.toList).zipIdx 1).takeWhile (fun (line, _) => !isTestMark line)
    |>.map fun (line, n) => (n, String.ofList (code line))

structure Violation where
  path : Path
  line : Nat
  code : String
  deriving DecidableEq, Repr

def Violation.message (v : Violation) : String :=
  v.path.text ++ ":" ++ Decimal.digits v.line ++ " - " ++ Text.trim Text.isBlank v.code

def sourceFiles (tree : Tree) (folder : Path) : List Path :=
  (((tree.walk folder).map (·.1)).filter fun p => p.extension? = some sourceExtension).mergeSort
    Path.le

def fileViolations (tree : Tree) (violates : String → Bool) (path : Path) : List Violation :=
  match tree.readText path with
  | .error _ => []
  | .ok text =>
    (productionLines text).filterMap fun (line, code) =>
      if violates code then some { path, line, code } else none

def violations? (tree : Tree) (folder : Path) (violates : String → Bool) :
    Option (List Violation) :=
  if (tree.walk folder).isEmpty then none
  else some ((sourceFiles tree folder).flatMap (fileViolations tree violates))

def missingMessage (folder : Path) : String := folder.text ++ " does not exist"

def report? (found : List Violation) : Option String :=
  if found.isEmpty then none
  else some ("\nFound " ++ Decimal.digits found.length
    ++ " violation(s).\nFix these before merging!")

def holds (needle : List Char) : List Char → Bool
  | [] => needle.isEmpty
  | c :: cs => (Text.stripPrefix? needle (c :: cs)).isSome || holds needle cs

end SourcePolicy

end TraceView
