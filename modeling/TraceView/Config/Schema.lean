import TraceView.Toml.Value

namespace TraceView

open Toml (Document Entries Value)

inductive Record where
  | named (fields : Document)
  | positional (fields : List Value)

namespace Record

def ofValue? : Value → Option Record
  | .table es => some (.named es)
  | .array xs => some (.positional xs)
  | .moment _ => some (.named [])
  | _ => none

def get? (r : Record) (name : String) (place : Nat) : Option Value :=
  match r with
  | named fields => Entries.find? fields name
  | positional fields => fields[place]?

/-- An absent field is left open; one of another type is refused. -/
def read {α : Type} (r : Record) (name : String) (place : Nat) (as? : Value → Option α) :
    Option (Option α) :=
  match r.get? name place with
  | none => some none
  | some v => (as? v).map some

end Record

structure FileConfig where
  frameRate : Option Nat := none
  smallFont : Option Bool := none
  textColor : Option String := none
  settingsPath : Option String := none
  deriving DecidableEq, Repr

namespace FileConfig

def word? : Value → Option Nat
  | .integer n => if 0 ≤ n.toInt && n.toInt < UInt32.size then some n.toInt.toNat else none
  | _ => none

def flag? : Value → Option Bool
  | .boolean b => some b
  | _ => none

def text? : Value → Option String
  | .string s => some s
  | _ => none

def section? (doc : Document) (name : String) : Option Record :=
  match Entries.find? doc name with
  | none => some (.named [])
  | some v => Record.ofValue? v

def ofDocument? (doc : Document) : Option FileConfig := do
  let ui ← section? doc "ui"
  let settings ← section? doc "settings"
  return {
    frameRate := ← ui.read "frame_rate" 0 word?
    smallFont := ← ui.read "tooltip_small_font" 1 flag?
    textColor := ← ui.read "default_text_color" 2 text?
    settingsPath := ← settings.read "path" 0 text?
  }

end FileConfig

end TraceView
