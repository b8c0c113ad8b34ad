import TraceView.Settings.Store
import TraceView.Toml.Parser
import TraceView.Toml.Printer
import TraceView.Files.Tree
import TraceView.Number.Natural

/-!
Settings kept in a document, one table per section. A put changes the document; `flush` writes the
file, and only if a put changed something. A natural too large for a signed integer is a decimal
string.
-/

namespace TraceView

inductive SettingsError where
  | read (path : Path) (cause : FileError)
  | parse (path : Path)
  | serialize (cause : String)
  | write (path : Path) (cause : FileError)
  deriving DecidableEq, Repr

namespace SettingsError

def message : SettingsError → String
  | read path cause => "Failed to read settings file at " ++ path.text ++ ": " ++ cause.message
  | parse path => "Failed to parse settings file at " ++ path.text ++ ": "
  | serialize cause => "Failed to serialize settings: " ++ cause
  | write path cause => "Failed to write settings file at " ++ path.text ++ ": " ++ cause.message

end SettingsError

structure FileSettings where
  path : Path
  doc : Toml.Document := []
  dirty : Bool := false

namespace FileSettings

open Toml (Document Entries Value)

def empty (path : Path) : FileSettings := { path }

def load (tree : Tree) (path : Path) : Except SettingsError FileSettings :=
  if tree.exists? path then
    match tree.readText path with
    | .error e => .error (.read path e)
    | .ok text =>
      match Toml.parseMarked? text with
      | none => .error (.parse path)
      | some doc => .ok { path, doc }
  else .ok (empty path)

/-- Writes the document if it is dirty. A failure leaves the settings as they were. -/
def flush (s : FileSettings) (tree : Tree) : Except SettingsError FileSettings × Tree :=
  if !s.dirty then (.ok s, tree)
  else
    match Toml.serialize s.doc with
    | .error cause => (.error (.serialize cause), tree)
    | .ok text =>
      match tree.save s.path (Utf8.encode text) with
      | (.error e, tree) => (.error (.write s.path e), tree)
      | (.ok (), tree) => (.ok { s with dirty := false }, tree)

def section? (s : FileSettings) (area : String) : Option Document :=
  (Entries.find? s.doc area).bind Value.entries?

def find? (s : FileSettings) (key : SettingKey) : Option Value :=
  (s.section? key.area).bind (Entries.find? · key.name)

/-- The table of a section, and the document with it. A missing section is begun, and what is not a
table makes room for one. -/
def openSection (doc : Document) (area : String) : Document × Document :=
  match Entries.find? doc area with
  | some (.table es) => (es, doc)
  | _ => ([], Entries.insert area (.table []) doc)

def put (s : FileSettings) (key : SettingKey) (value : Value) : FileSettings :=
  let (table, doc) := openSection s.doc key.area
  if (Entries.find? table key.name).any (·.same value) then { s with doc }
  else { s with
    doc := Entries.insert key.area (.table (Entries.insert key.name value table)) doc
    dirty := true }

/-- Integers count as floats too. -/
def single? : Value → Option Float32
  | .float x => some (Binary.narrow x)
  | .integer n => some (Binary.ofInteger n)
  | _ => none

def ofSingle (x : Float32) : Value := .float (Binary.widen x)

def nat? : Value → Option UInt64
  | .integer n => if 0 ≤ n then some n.toUInt64 else none
  | .string s => (Natural.read? UInt64.size s).map UInt64.ofNat
  | _ => none

def ofNat (n : UInt64) : Value :=
  if n.toNat < Natural.signBit then .integer n.toInt64 else .string (Decimal.digits n.toNat)

def vec4? (v : Value) : Option Vec4 := do
  Vec4.ofList? (← (← v.elements?).mapM single?)

def ofVec4 (v : Vec4) : Value := .array (v.toList.map ofSingle)

instance : SettingsStore FileSettings where
  getFloat s key := (s.find? key).bind single?
  getNat s key := (s.find? key).bind nat?
  getVec4 s key := (s.find? key).bind vec4?
  putFloat s key x := s.put key (ofSingle x)
  putNat s key n := s.put key (ofNat n)
  putVec4 s key v := s.put key (ofVec4 v)

end FileSettings

end TraceView
