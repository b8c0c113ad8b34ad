import TraceView.CommandLine.Mark
import TraceView.Number.Natural
import TraceView.Text.Split

/-!
Command line arguments. An option takes the argument after it, or the text after `=`. Values wait
until the argument after them is known, so an unknown argument is reported before a bad value in
front of it.
-/

namespace TraceView

inductive CommandOption where
  | config
  | settings
  | frameRate
  | logFile
  deriving DecidableEq, Repr

namespace CommandOption

def all : List CommandOption := [config, settings, frameRate, logFile]

def name : CommandOption → String
  | config => "config"
  | settings => "settings"
  | frameRate => "frame-rate"
  | logFile => "log-file"

def placeholder : CommandOption → String
  | config => "CONFIG"
  | settings => "SETTINGS"
  | frameRate => "FRAME_RATE"
  | logFile => "LOG_FILE"

def shown (o : CommandOption) : String := "--" ++ o.name ++ " <" ++ o.placeholder ++ ">"

def ofName? (s : String) : Option CommandOption := all.find? (·.name == s)

end CommandOption

structure Arguments where
  files : List String := []
  config : Option String := none
  settings : Option String := none
  frameRate : Option Nat := none
  logFile : Option String := none
  deriving DecidableEq, Repr

inductive UsageError where
  | unknown (argument : String)
  | missingValue (shown : String)
  | repeated (shown : String)
  | badValue (value shown reason : String)
  | needlessValue (value shown : String)
  deriving DecidableEq, Repr

def UsageError.message : UsageError → String
  | .unknown argument => "unexpected argument '" ++ Mark.doubtful.on argument ++ "' found"
  | .missingValue shown =>
    "a value is required for '" ++ Mark.doubtful.on shown ++ "' but none was supplied"
  | .repeated shown =>
    "the argument '" ++ Mark.doubtful.on shown ++ "' cannot be used multiple times"
  | .badValue value shown reason =>
    "invalid value '" ++ Mark.doubtful.on value ++ "' for '" ++ Mark.literal.on shown ++ "': "
      ++ reason
  | .needlessValue value shown =>
    "unexpected value '" ++ Mark.doubtful.on value ++ "' for '" ++ Mark.literal.on shown
      ++ "' found; no more were expected"

inductive Interruption where
  | help
  | version
  | refuse (e : UsageError)
  deriving DecidableEq, Repr

namespace Arguments

def filesShown : String := "[FILES]..."

def has (a : Arguments) : CommandOption → Bool
  | .config => a.config.isSome
  | .settings => a.settings.isSome
  | .frameRate => a.frameRate.isSome
  | .logFile => a.logFile.isSome

/-- A frame rate is an integer of 64 bits that fits 32 without a sign. -/
def readRate (s : String) : Except String Nat :=
  match Natural.readInt Natural.signBit s with
  | .error e => .error e.message
  | .ok n =>
    if 0 ≤ n ∧ n < UInt32.size then .ok n.toNat
    else .error (toString n ++ " is not in 0..=4294967295")

def readPath (shown value : String) : Except Interruption String :=
  if value.isEmpty then .error (.refuse (.missingValue shown)) else .ok value

def set (a : Arguments) (o : CommandOption) (value : String) : Except Interruption Arguments :=
  if a.has o then .error (.refuse (.repeated o.shown))
  else
    match o with
    | .config => (readPath o.shown value).map fun p => { a with config := some p }
    | .settings => (readPath o.shown value).map fun p => { a with settings := some p }
    | .logFile => (readPath o.shown value).map fun p => { a with logFile := some p }
    | .frameRate =>
      match readRate value with
      | .ok n => .ok { a with frameRate := some n }
      | .error reason => .error (.refuse (.badValue value o.shown reason))

def addFiles (a : Arguments) (files : List String) : Except Interruption Arguments :=
  (files.mapM (readPath filesShown)).map fun files => { a with files := a.files ++ files }

inductive Pending where
  | nothing
  | option (o : CommandOption) (value : Option String)
  | files (names : List String)

structure Reading where
  taken : Arguments := {}
  pending : Pending := .nothing
  trailing : Bool := false

namespace Reading

def settle (r : Reading) : Except Interruption Reading :=
  match r.pending with
  | .nothing => .ok r
  | .option o none => .error (.refuse (.missingValue o.shown))
  | .option o (some value) =>
    (r.taken.set o value).map fun taken => { r with taken, pending := .nothing }
  | .files names => (r.taken.addFiles names).map fun taken => { r with taken, pending := .nothing }

def interrupt (r : Reading) (i : Interruption) : Except Interruption Reading :=
  r.settle.bind fun _ => .error i

def file (r : Reading) (argument : String) : Except Interruption Reading :=
  match r.pending with
  | .files names => .ok { r with pending := .files (names ++ [argument]) }
  | _ => r.settle.map fun r => { r with pending := .files [argument] }

def long (r : Reading) (name : String) (value : Option String) : Except Interruption Reading :=
  match CommandOption.ofName? name, name, value with
  | some o, _, none => r.settle.map fun r => { r with pending := .option o none }
  | some o, _, some value => do
    let r ← r.settle
    return { r with taken := ← r.taken.set o value }
  | none, "help", none => r.interrupt .help
  | none, "version", none => r.interrupt .version
  | none, "help", some value => .error (.refuse (.needlessValue value "--help"))
  | none, "version", some value => .error (.refuse (.needlessValue value "--version"))
  | none, name, _ => .error (.refuse (.unknown ("--" ++ name)))

def short (r : Reading) (letter : Char) : Except Interruption Reading :=
  match letter with
  | 'h' => r.interrupt .help
  | 'V' => r.interrupt .version
  | c => .error (.refuse (.unknown ("-" ++ c.toString)))

def plain (r : Reading) (argument : String) : Except Interruption Reading :=
  match r.pending with
  | .option o none => .ok { r with pending := .option o (some argument) }
  | _ => r.file argument

def step (r : Reading) (argument : String) : Except Interruption Reading :=
  if r.trailing then r.file argument
  else
    match argument.toList with
    | ['-', '-'] => .ok { r with trailing := true }
    | '-' :: '-' :: rest =>
      let name := rest.takeWhile (· != '=')
      let value := match rest.drop name.length with
        | [] => none
        | _ :: value => some (String.ofList value)
      r.long (String.ofList name) value
    | '-' :: letter :: _ => r.short letter
    | _ => r.plain argument

end Reading

def configVariable : String := "TRACEVIS_CONFIG"

def withEnvironment (a : Arguments) (env : Environment) : Except Interruption Arguments :=
  match a.config, env.get? configVariable with
  | none, some value => a.set .config value
  | _, _ => .ok a

def read (env : Environment) (arguments : List String) : Except Interruption Arguments := do
  let r ← (← arguments.foldlM Reading.step {}).settle
  r.taken.withEnvironment env

end Arguments

end TraceView
