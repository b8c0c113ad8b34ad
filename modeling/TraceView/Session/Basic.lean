import TraceView.Diagnostics.Filter
import TraceView.Diagnostics.Notice
import TraceView.Loader.Pool
import TraceView.Session.Editor
import TraceView.Session.Key
import TraceView.Session.LogPanel

namespace TraceView

structure Session where
  config : Config
  panel : LogPanel
  editor : Editor
  /-- Absent when there is no settings path or the file cannot be read. -/
  settings : Option FileSettings
  loaders : LoaderPool
  showTip : Bool := true
  running : Bool := true
  filter : Filter
  notices : List Notice := []

namespace Session

def version : String := "0.1.0"

def startLine (files : Nat) : String :=
  "tracevis " ++ version ++ " starting, " ++ Decimal.digits files ++ " file(s)"

def announce (s : Session) (n : Notice) : Session :=
  let s := { s with notices := s.notices ++ [n] }
  if s.filter.admits n.event then
    { s with panel := s.panel.send .owner (n.event.entry s.editor.palette false) }
  else s

def announceAll (s : Session) (ns : List Notice) : Session := ns.foldl announce s

def openSettings (tree : Tree) (path : Path) : Option FileSettings × Notice :=
  match FileSettings.load tree path with
  | .ok settings =>
    (some settings, if tree.exists? path then .settingsLoaded path settings.doc.length
      else .settingsMissing path)
  | .error e => (none, .settingsUnavailable e)

def applySettings (s : Session) (settings : FileSettings) : Session :=
  let editor := { s.editor with
    colors := s.editor.colors.load settings
    style := s.editor.style.load settings }
  { s with editor, settings := some settings }.announceAll
    [.colorsLoaded (ColorTable.loadedCount settings), .styleLoaded editor.style.fontScale]

def start (config : Config) (palette : Palette) (filter : Filter) (log : Log) (tree : Tree)
    (files : List Path) : Session :=
  let s : Session :=
    { config, panel := { log }, editor := { palette }, settings := none, loaders := {}, filter }
  let s := match config.settingsPath with
    | none => s
    | some path =>
      let (settings, notice) := openSettings tree path
      let s := s.announce notice
      match settings with
      | some settings => s.applySettings settings
      | none => s
  { s with
    editor := s.editor.publish
    panel := s.panel.append (.ofString (startLine files.length))
    loaders := .spawn tree files }

def stop (s : Session) : Session := { s with running := false }

def edit (s : Session) (f : Editor → Editor) : Session := { s with editor := f s.editor }

def change (s : Session) (verb : String) : Option Editor → Session
  | none => s
  | some editor => { s with
      editor
      panel := s.panel.append (editor.changeEntry verb s.config.textColor) }

def scroll (s : Session) (delta : Int) : Session :=
  { s with panel := { s.panel with view := s.panel.view.scroll delta } }

def pageLines : Int := 10

def act (s : Session) (control : Bool) : KeyCode → Session
  | .escape => s.stop
  | .up => s.edit Editor.selectPrevious
  | .down => s.edit Editor.selectNext
  | .left => s.edit Editor.swatchPrevious
  | .right => s.edit Editor.swatchNext
  | .enter => s.change "set to" s.editor.applySwatch?
  | .pageUp => s.scroll (-pageLines)
  | .pageDown => s.scroll pageLines
  | .finish => { s with panel := { s.panel with view := s.panel.view.toBottom } }
  | .other => s
  | .char 'q' => s.stop
  | .char 'c' => if control then s.stop else { s with panel := s.panel.clear }
  | .char 'r' => s.change "reset to" s.editor.reset?
  | .char 't' => { s with showTip := !s.showTip }
  | .char 's' => s.edit (·.adjustPicker .saturation (-Editor.pickerStep))
  | .char 'S' => s.edit (·.adjustPicker .saturation Editor.pickerStep)
  | .char 'v' => s.edit (·.adjustPicker .value (-Editor.pickerStep))
  | .char 'V' => s.edit (·.adjustPicker .value Editor.pickerStep)
  | .char 'a' => s.edit (·.adjustPicker .alpha (-Editor.pickerStep))
  | .char 'A' => s.edit (·.adjustPicker .alpha Editor.pickerStep)
  | .char '+' => s.edit (·.adjustScale Editor.scaleStep)
  | .char '-' => s.edit (·.adjustScale (-Editor.scaleStep))
  | .char _ => s

/-- Only the press of a key counts. -/
def press (s : Session) (k : KeyEvent) : Session :=
  if k.motion = .press then s.act k.control k.code else s

def log (s : Session) (entry : RichText) : Session :=
  { s with panel := s.panel.send .owner entry }

def logFromWorker (s : Session) (entry : RichText) : Session :=
  { s with panel := s.panel.send .worker entry }

def stepLoader (s : Session) (place : Nat) : Session :=
  let (loaders, log) := s.loaders.step place s.editor.palette s.panel.log
  { s with loaders, panel := { s.panel with log } }

def finishLoaders (s : Session) : Session :=
  let (loaders, log) := s.loaders.finish s.editor.palette s.panel.log
  { s with loaders, panel := { s.panel with log } }

def crashes (done : List Loader) : List Notice :=
  (done.filter (·.outcome = .crashed)).map fun l => .loaderCrashed l.path

def update (s : Session) : Session :=
  let s := { s with panel := s.panel.merge }
  let (done, loaders) := s.loaders.collect
  if done.isEmpty then s
  else
    let log := LoaderPool.report done s.editor.palette s.panel.log
    let s := { s with loaders, panel := { s.panel with log } }.announceAll (crashes done)
    { s with panel := s.panel.merge }

def save (s : Session) (settings : FileSettings) : FileSettings :=
  s.editor.style.save (s.editor.colors.save settings)

structure Ending where
  result : Except SettingsError Unit
  tree : Tree
  session : Session

def persist (s : Session) (tree : Tree) : Ending :=
  match s.settings with
  | none => ⟨.ok (), tree, s⟩
  | some settings =>
    let changed := s.editor.colors.changedCount
    let settings := s.save settings
    let s := { s with settings := some settings }.announceAll
      [.colorsSaved changed, .styleSaved, .savingSettings changed settings.path]
    match settings.flush tree with
    | (.error e, tree) => ⟨.error e, tree, s⟩
    | (.ok flushed, tree) =>
      let s := { s with settings := some flushed }
      ⟨.ok (), tree, if settings.dirty then s.announce (.settingsSaved settings.path) else s⟩

def shutdown (s : Session) (tree : Tree) : Ending :=
  let e := s.persist tree
  let (remaining, log) := e.session.panel.log.clear.shutdown
  let s := { e.session with panel := { e.session.panel with log } }
  { e with session := s.announce (.logClosed remaining.length) }

end Session

end TraceView
