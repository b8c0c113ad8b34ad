import TraceView.Loader.Scan
import TraceView.Log.Collector

namespace TraceView

inductive LoadOutcome where
  | loaded (s : LoadSummary)
  | failed (cause : FileError)
  | crashed
  deriving DecidableEq, Repr

structure Loader where
  path : Path
  unsent : List PaletteEntry
  outcome : LoadOutcome
  ended : Bool := false

namespace Loader

def start (tree : Tree) (path : Path) : Loader :=
  let (unsent, result) := Scan.run tree path
  { path, unsent, outcome := match result with
      | .ok s => .loaded s
      | .error e => .failed e }

def step (l : Loader) (palette : Palette) (log : Log) : Loader × Log :=
  match l.unsent with
  | entry :: unsent => ({ l with unsent }, log.send .worker (entry palette))
  | [] => ({ l with ended := true }, log)

def finish (l : Loader) (palette : Palette) (log : Log) : Loader × Log :=
  ({ l with unsent := [], ended := true },
    l.unsent.foldl (fun log entry => log.send .worker (entry palette)) log)

def failure? (l : Loader) : Option PaletteEntry :=
  match l.outcome with
  | .failed cause => some (Scan.failureEntry l.path cause)
  | _ => none

end Loader

structure LoaderPool where
  running : List Loader := []
  finished : List LoadSummary := []
  failed : Nat := 0

namespace LoaderPool

def spawn (tree : Tree) (paths : List Path) : LoaderPool := { running := paths.map (.start tree) }

def pending (p : LoaderPool) : Nat := p.running.length

def total (p : LoaderPool) : Nat := p.running.length + p.finished.length + p.failed

def lastFirst {α : Type} : List α → List α
  | [] => []
  | a :: as => (a :: as).getLast (by simp) :: (a :: as).dropLast

theorem length_lastFirst {α : Type} (as : List α) : (lastFirst as).length = as.length := by
  cases as <;> simp [lastFirst]

/-- The loaders that have ended, in the order of taking them out, and the others. The place of one
that is taken out goes to the last. -/
def sift : List Loader → List Loader × List Loader
  | [] => ([], [])
  | l :: ls =>
    if l.ended then
      let (done, rest) := sift (lastFirst ls)
      (l :: done, rest)
    else
      let (done, rest) := sift ls
      (done, l :: rest)
  termination_by ls => ls.length
  decreasing_by all_goals simp [length_lastFirst]

def count (p : LoaderPool) (l : Loader) : LoaderPool :=
  match l.outcome with
  | .loaded s => { p with finished := p.finished ++ [s] }
  | _ => { p with failed := p.failed + 1 }

def collect (p : LoaderPool) : List Loader × LoaderPool :=
  let (done, rest) := sift p.running
  (done, done.foldl count { p with running := rest })

def report (done : List Loader) (palette : Palette) (log : Log) : Log :=
  (done.filterMap Loader.failure?).foldl (fun log entry => log.send .owner (entry palette)) log

def step (p : LoaderPool) (place : Nat) (palette : Palette) (log : Log) : LoaderPool × Log :=
  match p.running[place]? with
  | none => (p, log)
  | some l =>
    let (l, log) := l.step palette log
    ({ p with running := p.running.set place l }, log)

def finish (p : LoaderPool) (palette : Palette) (log : Log) : LoaderPool × Log :=
  let (running, log) := p.running.foldl (fun (done, log) l =>
    let (l, log) := l.finish palette log
    (done ++ [l], log)) ([], log)
  ({ p with running }, log)

end LoaderPool

end TraceView
