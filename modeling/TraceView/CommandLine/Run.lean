import TraceView.CommandLine.Help
import TraceView.Config.Load
import TraceView.Session.KeySequence
import TraceView.Session.Run

namespace TraceView.CommandLine

structure Invocation where
  arguments : List String
  environment : Environment
  tree : Tree

structure Outcome where
  exitCode : Nat
  output : String := ""
  errors : String := ""
  tree : Tree

def name : String := "tracevis-tui"

def events (filter : Filter) (notices : List Notice) : List Event :=
  (notices.map Notice.event).filter filter.admits

/-- Adds the admitted notices to the log file, one on a line. The time of each is for the writer of
the file to add. -/
def writeNotices (file : Option Path) (filter : Filter) (notices : List Notice) (tree : Tree) :
    Tree :=
  match file with
  | none => tree
  | some path =>
    let lines := (events filter notices).map fun e => e.line ++ "\n"
    let old := (tree.read path).toOption.getD []
    ((tree.write path (old ++ Utf8.encode (String.join lines))).toOption).getD tree

def createLog (file : Option Path) (tree : Tree) : Except Path Tree :=
  match file with
  | none => .ok tree
  | some path => match tree.write path [] with
    | .ok tree => .ok tree
    | .error _ => .error path

def configPath? (a : Arguments) (env : Environment) : Option Path :=
  a.config.map Path.mk <|> Config.standardPath? env

def resolve (a : Arguments) (env : Environment) (tree : Tree) :
    List Notice × Except ConfigError Config :=
  let path? := configPath? a env
  match Config.ofFile path? tree env with
  | .error e => ([], .error e)
  | .ok c =>
    let found := path?.toList.map fun path =>
      if tree.exists? path then Notice.configLoaded path else .configMissing path
    match (c.withEnvironment env).checked with
    | .error e => (found, .error e)
    | .ok c =>
      match Overrides.apply ⟨a.settings.map Path.mk, a.frameRate⟩ c with
      | (.error e, _) => (found, .error e)
      | (.ok (), c) => (found ++ [.configResolved c.source c.frameRate], .ok c)

structure Prepared where
  arguments : Arguments
  filter : Filter
  config : Config
  notices : List Notice
  tree : Tree

namespace Prepared

def logFile (p : Prepared) : Option Path := p.arguments.logFile.map Path.mk

def log (p : Prepared) : Log :=
  (events p.filter p.notices).foldl (fun log e => log.send .owner (e.entry .standard false)) {}

def terminalWatched : List Notice := [.inputWatched 0, .inputWatched 1]

def begin (p : Prepared) : Session × Tree :=
  let s := (Session.start p.config .standard p.filter p.log p.tree
    (p.arguments.files.map Path.mk)).announceAll terminalWatched
  ({ s with notices := [] }, writeNotices p.logFile p.filter s.notices p.tree)

def finish (p : Prepared) (s : Session) (tree : Tree) : Outcome :=
  let e := s.shutdown tree
  let tree := writeNotices p.logFile p.filter e.session.notices e.tree
  match e.result with
  | .ok () => { exitCode := 0, tree }
  | .error _ => { exitCode := 1, errors := "Error: Failed to save settings\n", tree }

end Prepared

def failed (message : String) (tree : Tree) : Outcome :=
  { exitCode := 1, errors := "Error: " ++ message ++ "\n", tree }

def shownPlain (env : Environment) (message : String) : String :=
  if env.keepsMarks then message else Text.withoutControls message

def interrupted (i : Invocation) : Interruption → Outcome
  | .help =>
    { exitCode := 0, output := shownPlain i.environment (Help.text i.environment), tree := i.tree }
  | .version => { exitCode := 0, output := name ++ " " ++ Session.version ++ "\n", tree := i.tree }
  | .refuse e =>
    let message := Mark.failure.on "error:" ++ " " ++ e.message
      ++ "\n\nFor more information, try '" ++ Mark.literal.on "--help" ++ "'.\n"
    { exitCode := 2, errors := shownPlain i.environment message, tree := i.tree }

def prepare (i : Invocation) : Except Outcome Prepared :=
  match Arguments.read i.environment i.arguments with
  | .error e => .error (interrupted i e)
  | .ok arguments =>
    let file := arguments.logFile.map Path.mk
    let filter := Filter.ofVariable (i.environment.get? "RUST_LOG")
    match createLog file i.tree with
    | .error path => .error (failed ("Failed to create log file " ++ path.text) i.tree)
    | .ok tree =>
      let (notices, resolved) := resolve arguments i.environment tree
      let tree := writeNotices file filter notices tree
      match resolved with
      | .error e => .error (failed e.message tree)
      | .ok config => .ok { arguments, filter, config, notices, tree }

def runDetached (i : Invocation) : Outcome :=
  match prepare i with
  | .error o => o
  | .ok p => failed (name ++ " requires a terminal (TTY)") p.tree

def handle (columns rows : Nat) (s : Session) : List KeyEvent → Session
  | [] => s
  | key :: keys =>
    if s.running then handle columns rows (s.run (Session.keyFrame columns rows key)) keys else s

def runTyped (i : Invocation) (columns rows : Nat) (typed : List Char) : Outcome :=
  match prepare i with
  | .error o => o
  | .ok p =>
    let (s, tree) := p.begin
    p.finish (handle columns rows (s.draw columns rows).2.finishLoaders (KeyEvent.read typed)) tree

end TraceView.CommandLine
