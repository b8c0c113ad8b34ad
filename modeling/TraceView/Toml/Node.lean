import TraceView.Toml.Lexeme

/-!
A document while it is read. Each table remembers how it came to be, since that decides what may
still be added to it: a table is opened by a header once, and dotted keys extend only tables that
dotted keys began. Entries stand in the order they came in; a header moves the table that it opens
to the end.
-/

namespace TraceView.Toml

inductive Origin where
  | header
  | implied
  | dotted
  deriving DecidableEq, Repr

/-- Of an array of tables the newest element comes first. -/
inductive Node where
  | scalar (v : Value)
  | array (elements : List Node)
  | braced (entries : List (String × Node))
  | table (origin : Origin) (entries : List (String × Node))
  | tables (elements : List Node)

namespace Node

/-- Changes the table at a path, beginning missing ones. The newest element stands for an array of
tables. Dotted keys do not enter a table that a header opened. -/
def modifyAt (dotted : Bool) (f : Origin → Entries Node → Option Node) : List String → Node → Option Node
  | [], .table origin es => f origin es
  | [], _ => none
  | k :: ks, .table origin es => do
    let child ← match Entries.find? es k with
      | none => modifyAt dotted f ks (.table (if dotted then .dotted else .implied) [])
      | some (.tables (newest :: older)) =>
        (modifyAt dotted f ks newest).map fun t => .tables (t :: older)
      | some (.table o fs) =>
        if dotted && o = .header then none else modifyAt dotted f ks (.table o fs)
      | some _ => none
    return .table origin (Entries.set k child es)
  | _ :: _, _ => none

def openTable (path : List String) (root : Node) : Option Node :=
  match path.getLast? with
  | none => none
  | some k =>
    root.modifyAt false (fun origin es =>
      match Entries.find? es k with
      | none => some (.table origin (Entries.set k (.table .header []) es))
      | some (.table .implied fs) =>
        some (.table origin (Entries.set k (.table .header fs) (es.filter (·.1 != k))))
      | some _ => none) path.dropLast

def openElement (path : List String) (root : Node) : Option Node :=
  match path.getLast? with
  | none => none
  | some k =>
    root.modifyAt false (fun origin es =>
      match Entries.find? es k with
      | none => some (.table origin (Entries.set k (.tables [.table .header []]) es))
      | some (.tables older) =>
        some (.table origin (Entries.set k (.tables (.table .header [] :: older)) es))
      | some _ => none) path.dropLast

/-- A value under a dotted key. The key must be new, and the table it goes to must have been begun
by dotted keys exactly when the key has a point. -/
def put (table : Node) (path : List String) (v : Node) : Option Node :=
  match path.getLast? with
  | none => none
  | some k =>
    table.modifyAt true (fun origin es =>
      if (origin == .dotted) == path.dropLast.isEmpty then none
      else if (Entries.find? es k).isSome then none
      else some (.table origin (Entries.set k v es))) path.dropLast

def putUnder (root : Node) (header path : List String) (v : Node) : Option Node :=
  root.modifyAt false (fun origin es => put (.table origin es) path v) header

def root : Node := .table .header []

def close : Node → Node
  | .table _ es => .braced es
  | x => x

def dateMark : String := "$__toml_private_datetime"

/-- Whether a table is marked, which its first entry decides, and the date then. -/
def marked? : List (String × Node) → Option (Option Moment)
  | (k, .scalar (.string s)) :: _ => if k = dateMark then some (Lexeme.momentText? s) else none
  | (k, _) :: _ => if k = dateMark then some none else none
  | [] => none

mutual

def toValue? (datesMarked : Bool) : Node → Option Value
  | .scalar v => some v
  | .array xs => (toElements? datesMarked xs).map .array
  | .tables xs => (toElements? datesMarked xs).map fun xs => .array xs.reverse
  | .braced es =>
    match datesMarked, marked? es with
    | true, some m => m.map .moment
    | _, _ => (toDocument? datesMarked es).map .table
  | .table _ es =>
    match datesMarked, marked? es with
    | true, some m => m.map .moment
    | _, _ => (toDocument? datesMarked es).map .table

def toDocument? (datesMarked : Bool) : List (String × Node) → Option Document
  | [] => some []
  | (k, x) :: es => do
    return Entries.insert k (← toValue? datesMarked x) (← toDocument? datesMarked es)

def toElements? (datesMarked : Bool) : List Node → Option (List Value)
  | [] => some []
  | x :: xs => do return (← toValue? datesMarked x) :: (← toElements? datesMarked xs)

end

def document? (datesMarked : Bool) : Node → Option Document
  | .table _ es => toDocument? datesMarked es
  | _ => none

end Node

end TraceView.Toml
