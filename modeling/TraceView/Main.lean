import TraceView.CommandLine.Run

namespace TraceView.CommandLine

def variableNames : List String :=
  ["XDG_CONFIG_HOME", "HOME", "RUST_LOG", "NO_COLOR", "CLICOLOR_FORCE", "TRACEVIS_CONFIG",
    "TRACEVIS_FRAME_RATE", "TRACEVIS_SETTINGS", "TRACEVIS_SMALL_FONT"]

def readEnvironment : IO Environment := do
  let found ← variableNames.mapM fun name => do
    return (← IO.getEnv name).map fun value => (name, value)
  return { vars := found.filterMap id }

def emptyTree : IO Tree := do
  let working := (Path.mk (← IO.currentDir).toString).parts
  let tree : Tree := { working }
  return (tree.makeFolders true working.reverse).2

def addFile (tree : Tree) (path : Path) : IO Tree := do
  try
    let content ← IO.FS.readBinFile path.text
    return (tree.save path content.toList).2
  catch _ =>
    return tree

def namedFiles (env : Environment) (a : Arguments) (tree : Tree) : List Path :=
  let settings := match (resolve a env tree).2 with
    | .ok c => c.settingsPath.toList
    | .error _ => []
  settings ++ a.files.map Path.mk ++ (a.logFile.map Path.mk).toList

def readFiles (env : Environment) (arguments : List String) : IO (List Path × Tree) := do
  let tree ← emptyTree
  match Arguments.read env arguments with
  | .error _ => return ([], tree)
  | .ok a =>
    let tree ← (configPath? a env).toList.foldlM addFile tree
    let files := namedFiles env a tree
    return (files, ← files.foldlM addFile tree)

def writeBack (before after : Tree) (path : Path) : IO Unit := do
  match after.read path with
  | .error _ => return
  | .ok content =>
    if (before.read path).toOption != some content then
      let folder := "/".intercalate path.parts.dropLast
      if folder != "" then
        IO.FS.createDirAll (if path.isAbsolute then "/" ++ folder else folder)
      IO.FS.writeBinFile path.text ⟨content.toArray⟩

def columns : Nat := 100
def rows : Nat := 30

def showFrame (g : Grid) : IO Unit :=
  g.shown.rows.forM fun row => IO.println (String.join (row.map (·.symbol)))

def keysOfLine (line : String) : List KeyEvent :=
  match line.toList.filter (· != '\n') with
  | [] => [{ code := .enter }]
  | typed => KeyEvent.read typed

partial def converse (s : Session) : IO Session := do
  let (g, s) := s.draw columns rows
  showFrame g
  let line ← (← IO.getStdin).getLine
  if line.isEmpty then return s
  let s := handle columns rows s.finishLoaders.update (keysOfLine line)
  if s.running then converse s else return s

def conduct (i : Invocation) : IO Outcome := do
  let terminal := (← (← IO.getStdin).isTty) && (← (← IO.getStdout).isTty)
  if !terminal then return runDetached i
  match prepare i with
  | .error o => return o
  | .ok p =>
    let (s, tree) := p.begin
    return p.finish (← converse s) tree

def program (arguments : List String) : IO UInt32 := do
  let environment ← readEnvironment
  let (files, tree) ← readFiles environment arguments
  let o ← conduct { arguments, environment, tree }
  files.forM (writeBack tree o.tree)
  IO.print o.output
  IO.eprint o.errors
  return UInt32.ofNat o.exitCode

end TraceView.CommandLine

def main (arguments : List String) : IO UInt32 := TraceView.CommandLine.program arguments
