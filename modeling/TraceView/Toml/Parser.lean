import TraceView.Toml.Node

namespace TraceView.Toml

/-- The most keys in a path, and the deepest nesting of values. -/
def depthLimit : Nat := 79

namespace Parser

open Lexeme

def elements (value : Reader Node) : Nat → List Node → Reader (List Node)
  | 0, _, _ => none
  | fuel + 1, seen, s => do
    match ← skipSpace (fuel + 1) s with
    | ']' :: s => return (seen.reverse, s)
    | s =>
      let (v, s) ← value s
      match ← skipSpace (fuel + 1) s with
      | ',' :: s => elements value fuel (v :: seen) s
      | ']' :: s => return ((v :: seen).reverse, s)
      | _ => none

def pair (value : Reader Node) (s : List Char) : Option ((List String × Node) × List Char) := do
  let (path, s) ← keyPath depthLimit s
  let (v, s) ← value (skipBlanks (← expect '=' s))
  return ((path, v), s)

/-- Pairs parted by commas up to the brace, all on one line. -/
def members (value : Reader Node) : Nat → Node → Reader Node
  | 0, _, _ => none
  | fuel + 1, table, s => do
    let ((path, v), s) ← pair value s
    let table ← table.put path v
    match skipBlanks s with
    | ',' :: s => members value fuel table s
    | '}' :: s => return (table, s)
    | _ => none

def value : Nat → Reader Node
  | 0, s =>
    match s with
    | '[' :: _ => none
    | '{' :: _ => none
    | s => (scalar s).map fun (v, s) => (.scalar v, s)
  | depth + 1, s =>
    match s with
    | '[' :: s => (elements (value depth) (s.length + 1) [] s).map fun (xs, s) => (.array xs, s)
    | '{' :: s =>
      match skipBlanks s with
      | '}' :: s => some (.braced [], s)
      | s => (members (value depth) (s.length + 1) .root s).map fun (t, s) => (t.close, s)
    | s => (scalar s).map fun (v, s) => (.scalar v, s)

structure State where
  root : Node := .root
  header : List String := []

def line (state : State) : List Char → Option (State × List Char)
  | '[' :: '[' :: s => do
    let (path, s) ← keyPath depthLimit s
    let s ← lineEnd? (← expect ']' (← expect ']' s))
    return (⟨← state.root.openElement path, path⟩, s)
  | '[' :: s => do
    let (path, s) ← keyPath depthLimit s
    let s ← lineEnd? (← expect ']' s)
    return (⟨← state.root.openTable path, path⟩, s)
  | s => do
    let ((path, v), s) ← pair (value depthLimit) s
    let s ← lineEnd? s
    return ({ state with root := ← state.root.putUnder state.header path v }, s)

def lines : Nat → State → List Char → Option State
  | 0, _, _ => none
  | fuel + 1, state, s =>
    match skipBlanks s with
    | [] => some state
    | '#' :: s => (lineEnd? ('#' :: s)).bind (lines fuel state)
    | '\n' :: s => lines fuel state s
    | '\r' :: s => (newline? ('\r' :: s)).bind (lines fuel state)
    | s => (line state s).bind fun (state, s) => lines fuel state s

end Parser

def node? (text : String) : Option Node :=
  let s := match text.toList with
    | '\uFEFF' :: s => s
    | s => s
  (Parser.lines (s.length + 1) {} s).map (·.root)

def parse? (text : String) : Option Document := (node? text).bind (Node.document? false)

def parseMarked? (text : String) : Option Document := (node? text).bind (Node.document? true)

end TraceView.Toml
