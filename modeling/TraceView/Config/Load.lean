import TraceView.Config.Basic
import TraceView.Config.Schema
import TraceView.Number.Natural
import TraceView.Toml.Parser

namespace TraceView

namespace Config

def withFile (c : Config) (f : FileConfig) : Except ConfigError Config := do
  let textColor ← match f.textColor with
    | none => pure c.textColor
    | some text => match Rgba.ofHex? text with
      | some color => pure color
      | none => .error (.color text)
  return { c with
    frameRate := f.frameRate.getD c.frameRate
    smallFont := f.smallFont.getD c.smallFont
    textColor
    settingsPath := f.settingsPath.map Path.mk <|> c.settingsPath }

/-- Reads the file. A missing one changes nothing; one that is there is a source, whatever it
sets. -/
def readFile (c : Config) (tree : Tree) (path : Path) : Except ConfigError Config :=
  if tree.exists? path then
    match tree.readText path with
    | .error e => .error (.read path e)
    | .ok text =>
      match (Toml.parse? text).bind FileConfig.ofDocument? with
      | none => .error .parse
      | some f => (c.withFile f).map fun c => { c with filePath := some path, source := .file }
  else .ok c

def envFrameRate? (env : Environment) : Option Nat :=
  (env.get? "TRACEVIS_FRAME_RATE").bind (Natural.read? UInt32.size)

def envSettings? (env : Environment) : Option Path :=
  match env.get? "TRACEVIS_SETTINGS" with
  | some "" | none => none
  | some path => some path

def envSmallFont? (env : Environment) : Option Bool :=
  match env.get? "TRACEVIS_SMALL_FONT" with
  | some "1" | some "true" | some "yes" => some true
  | some "0" | some "false" | some "no" => some false
  | _ => none

/-- A variable that does not read as a value sets nothing and is no source. -/
def withEnvironment (c : Config) (env : Environment) : Config where
  frameRate := (envFrameRate? env).getD c.frameRate
  smallFont := (envSmallFont? env).getD c.smallFont
  textColor := c.textColor
  settingsPath := envSettings? env <|> c.settingsPath
  filePath := c.filePath
  source :=
    if (envFrameRate? env).isSome || (envSettings? env).isSome || (envSmallFont? env).isSome then
      .environment
    else c.source

def ofFile (path : Option Path) (tree : Tree) (env : Environment) : Except ConfigError Config :=
  match path with
  | none => .ok (standard env)
  | some path => (standard env).readFile tree path

def checked (c : Config) : Except ConfigError Config := c.validate.map fun _ => c

def load (path : Option Path) (tree : Tree) (env : Environment) : Except ConfigError Config :=
  (ofFile path tree env).bind fun c => (c.withEnvironment env).checked

end Config

structure Overrides where
  settingsPath : Option Path := none
  frameRate : Option Nat := none
  deriving DecidableEq, Repr

namespace Overrides

def set (o : Overrides) (c : Config) : Config := { c with
  settingsPath := o.settingsPath <|> c.settingsPath
  frameRate := o.frameRate.getD c.frameRate
  source := if o.settingsPath.isSome || o.frameRate.isSome then .commandLine else c.source }

/-- The values are set first and checked after, so a refused configuration holds them. -/
def apply (o : Overrides) (c : Config) : Except ConfigError Unit × Config :=
  ((o.set c).validate, o.set c)

end Overrides

end TraceView
