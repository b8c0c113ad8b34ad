import TraceView.Toml.Value
import TraceView.Toml.Quoted

/-!
Documents as text. A table shows its plain values first and then its sub-tables, each under a
header; a table that holds only sub-tables has no header. Within a table arrays that hold tables
come after the other values, and tables last.
-/

namespace TraceView.Toml

/-- All digits before the exponent runs out; a whole number keeps a point. -/
def floatForm : Decimal.Form where
  positional := none
  wholeSuffix := ".0"
  nan := "nan"
  infinity := "inf"

namespace Value

mutual

def inline : Value → String
  | .string s => Quoted.text s
  | .integer n => toString n.toInt
  | .float x => Decimal.shortest floatForm x
  | .boolean b => if b then "true" else "false"
  | .moment m => m.text
  | .array xs => "[" ++ inlineList xs ++ "]"
  | .table [] => "\x7b\x7d"
  | .table es => "\x7b " ++ inlineEntries es ++ " \x7d"

def inlineList : List Value → String
  | [] => ""
  | [x] => inline x
  | x :: xs => inline x ++ ", " ++ inlineList xs

def inlineEntries : List (String × Value) → String
  | [] => ""
  | [(k, x)] => Quoted.key k ++ " = " ++ inline x
  | (k, x) :: es => Quoted.key k ++ " = " ++ inline x ++ ", " ++ inlineEntries es

end

def isTableArray : Value → Bool
  | .array xs => !xs.isEmpty && xs.all isTable
  | _ => false

def isPlain (v : Value) : Bool := !v.isTable && !v.isTableArray

def holdsTable : Value → Bool
  | .array xs => xs.any isTable
  | _ => false

/-- Values without tables, arrays with some, tables. -/
def inOrder (es : Document) : Document :=
  es.filter (fun e => !e.2.isTable && !e.2.holdsTable) ++ es.filter (·.2.holdsTable)
    ++ es.filter (·.2.isTable)

mutual

def arranged : Value → Value
  | .array xs => .array (arrangedList xs)
  | .table es => .table (inOrder (arrangedEntries es))
  | v => v

def arrangedList : List Value → List Value
  | [] => []
  | x :: xs => arranged x :: arrangedList xs

def arrangedEntries : List (String × Value) → List (String × Value)
  | [] => []
  | (k, x) :: es => (k, arranged x) :: arrangedEntries es

end

end Value

structure Section where
  header : Option String
  lines : List String

def headerPath (path : List String) : String := ".".intercalate (path.map Quoted.key)

def plainLines (es : Document) : List String :=
  (es.filter (·.2.isPlain)).map fun (k, v) => Quoted.key k ++ " = " ++ v.inline

namespace Section

mutual

def ofValue (path : List String) : Value → List Section
  | .table es =>
    let lines := plainLines es
    (if lines.isEmpty && !es.isEmpty then []
      else [⟨some ("[" ++ headerPath path ++ "]"), lines⟩]) ++ ofEntries path es
  | .array xs => if Value.isTableArray (.array xs) then ofElements path xs else []
  | _ => []

def ofElements (path : List String) : List Value → List Section
  | [] => []
  | .table es :: xs =>
    ⟨some ("[[" ++ headerPath path ++ "]]"), plainLines es⟩ :: ofEntries path es
      ++ ofElements path xs
  | _ :: xs => ofElements path xs

def ofEntries (path : List String) : List (String × Value) → List Section
  | [] => []
  | (k, v) :: es => ofValue (path ++ [k]) v ++ ofEntries path es

end

def ofDocument (doc : Document) : List Section :=
  let lines := plainLines doc
  (if lines.isEmpty then [] else [⟨none, lines⟩]) ++ ofEntries [] doc

def text (s : Section) : String :=
  String.join ((s.header.toList ++ s.lines).map (· ++ "\n"))

end Section

def print (doc : Document) : String :=
  "\n".intercalate ((Section.ofDocument (Value.arrangedEntries doc)).map Section.text)

/-- Writing could fail on a value that has no TOML form, but no document holds one. -/
def serialize (doc : Document) : Except String String := .ok (print doc)

end TraceView.Toml
