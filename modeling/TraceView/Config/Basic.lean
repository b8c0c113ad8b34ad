import TraceView.Color.Rgba
import TraceView.Config.Environment
import TraceView.Files.Tree
import TraceView.Number.Decimal
import TraceView.Text.Quoted

namespace TraceView

inductive ConfigSource where
  | standard
  | file
  | environment
  | commandLine
  deriving DecidableEq, Repr

def ConfigSource.name : ConfigSource → String
  | .standard => "default"
  | .file => "config file"
  | .environment => "environment"
  | .commandLine => "CLI"

inductive ConfigError where
  | read (path : Path) (cause : FileError)
  | parse
  | color (text : String)
  | frameRate (rate : Nat)
  deriving DecidableEq, Repr

structure Config where
  frameRate : Nat := 30
  smallFont : Bool := true
  textColor : Rgba := ⟨230, 230, 230, 255⟩
  settingsPath : Option Path
  filePath : Option Path := none
  source : ConfigSource := .standard
  deriving DecidableEq, Repr

namespace Config

def slowest : Nat := 1
def fastest : Nat := 240

def standardFile? (env : Environment) (name : String) : Option Path :=
  env.configFolder?.map fun folder => (folder.join "tracevis").join name

def standardPath? (env : Environment) : Option Path := standardFile? env "tracevis.toml"

def standardSettingsPath? (env : Environment) : Option Path := standardFile? env "settings.toml"

def standard (env : Environment) : Config := { settingsPath := standardSettingsPath? env }

def isValid (c : Config) : Bool := slowest ≤ c.frameRate && c.frameRate ≤ fastest

def validate (c : Config) : Except ConfigError Unit :=
  if c.isValid then .ok () else .error (.frameRate c.frameRate)

end Config

namespace ConfigError

def message : ConfigError → String
  | read path cause => "Failed to read config file at " ++ path.text ++ ": " ++ cause.message
  | parse => "Failed to parse TOML config: "
  | color text =>
    "Invalid configuration: default_text_color " ++ Text.quote text ++ " is not #rrggbb[aa]"
  | frameRate rate =>
    "Invalid configuration: frame_rate " ++ Decimal.digits rate ++ " outside "
      ++ Decimal.digits Config.slowest ++ "..=" ++ Decimal.digits Config.fastest

end ConfigError

end TraceView
