import TraceView.Diagnostics.Filter
import TraceView.Diagnostics.Notice
import TraceView.Loader.Pool
import TraceView.Log.Threads
import Mathlib.Data.List.ReduceOption
import Mathlib.Logic.Function.Basic

/-!
Loaders as threads beside the frame thread, on the log as its threads change it. The frame thread
updates in turns: it merges, looks at the running loaders one after another, takes out and reports
those that have ended, and merges again if there were any. Loaders, other threads and the frame thread
move in any order. Which palette is in force is up to the schedule too.
-/

namespace TraceView

def Loader.report? (l : Loader) (filter : Filter) (palette : Palette) : Option RichText :=
  match l.outcome with
  | .loaded _ => none
  | .failed cause => some (Scan.failureEntry l.path cause palette)
  | .crashed =>
    let event := (Notice.loaderCrashed l.path).event
    if filter.admits event then some (event.entry palette false) else none

structure LoaderThread where
  loader : Loader
  records : List (Stamped RichText) := []

inductive UpdatePlace where
  | outside
  | merging
  | polling (place done : Nat)
  | settling
  deriving DecidableEq, Repr

structure LoadMachine (n : Nat) where
  log : LogMachine RichText := {}
  threads : Fin n → LoaderThread
  running : List (Fin n)
  collected : List (Fin n) := []
  /-- Loaders for which there was no thread to be had. -/
  unstarted : Nat := 0
  place : UpdatePlace := .outside
  filter : Filter

inductive LoadAction (n : Nat) where
  | log (a : LogAction RichText)
  | load (i : Fin n) (palette : Palette)
  | crash (i : Fin n)
  | update
  | turn (palette : Palette)

namespace LoadMachine

variable {n : Nat}

def start (tree : Tree) (files : List Path) (unstarted : Nat) (filter : Filter) :
    LoadMachine files.length where
  threads i := { loader := .start tree (files.get i) }
  running := List.finRange _
  unstarted
  filter

def fresh (loaders : Fin n → Loader) (unstarted : Nat) (filter : Filter) : LoadMachine n where
  threads i := { loader := loaders i }
  running := List.finRange n
  unstarted
  filter

def spawn (given : List (Option Loader)) (filter : Filter) :
    LoadMachine given.reduceOption.length :=
  fresh given.reduceOption.get (given.countP Option.isNone) filter

def loader (m : LoadMachine n) (i : Fin n) : Loader := (m.threads i).loader

def setLoader (m : LoadMachine n) (i : Fin n) (loader : Loader) : LoadMachine n :=
  { m with threads := Function.update m.threads i { m.threads i with loader } }

def send (m : LoadMachine n) (w : Writer) (i : Fin n) (loader : Loader) (entry : RichText) :
    LoadMachine n :=
  { m with
    log := m.log.call w (.send entry)
    threads := Function.update m.threads i
      { loader, records := (m.threads i).records ++ [⟨m.log.calls, w, entry⟩] } }

/-- Calls are left to a thread while it is neither loading nor updating. The log is not shut down, as
nothing is updated afterwards. -/
def allows (m : LoadMachine n) : LogAction RichText → Bool
  | .advance _ => true
  | .call .owner .shutdown => false
  | .call .owner _ => m.place = .outside
  | .call (.worker id) _ => n ≤ id

def load (m : LoadMachine n) (i : Fin n) (palette : Palette) : LoadMachine n :=
  if m.log.place (.worker i) = .idle ∧ (m.loader i).ended = false then
    match (m.loader i).unsent with
    | entry :: unsent =>
      m.send (.worker i) i { m.loader i with unsent } (entry palette)
    | [] => m.setLoader i { m.loader i with ended := true }
  else m

def crash (m : LoadMachine n) (i : Fin n) : LoadMachine n :=
  if m.log.place (.worker i) = .idle ∧ (m.loader i).ended = false then
    m.setLoader i { m.loader i with unsent := [], outcome := .crashed, ended := true }
  else m

def update (m : LoadMachine n) : LoadMachine n :=
  if m.log.place .owner = .idle ∧ m.place = .outside then
    { m with log := m.log.call .owner .merge, place := .merging }
  else m

def takeOut {α : Type} (as : List α) (k : Nat) : List α :=
  as.take k ++ LoaderPool.lastFirst (as.drop (k + 1))

def withdraw (m : LoadMachine n) (k done : Nat) (i : Fin n) : LoadMachine n :=
  { m with
    running := takeOut m.running k
    collected := m.collected ++ [i]
    place := .polling k (done + 1) }

def collect (m : LoadMachine n) (k done : Nat) (i : Fin n) (palette : Palette) : LoadMachine n :=
  match (m.loader i).report? m.filter palette with
  | some entry => (m.withdraw k done i).send .owner i (m.loader i) entry
  | none => m.withdraw k done i

def poll (m : LoadMachine n) (k done : Nat) (palette : Palette) : LoadMachine n :=
  match m.running[k]? with
  | some i =>
    if (m.loader i).ended then m.collect k done i palette
    else { m with place := .polling (k + 1) done }
  | none =>
    if done = 0 then { m with place := .outside }
    else { m with log := m.log.call .owner .merge, place := .settling }

def turn (m : LoadMachine n) (palette : Palette) : LoadMachine n :=
  if m.log.place .owner = .idle then
    match m.place with
    | .outside => m
    | .merging => { m with place := .polling 0 0 }
    | .polling k done => m.poll k done palette
    | .settling => { m with place := .outside }
  else m

def step (m : LoadMachine n) : LoadAction n → LoadMachine n
  | .log a => if m.allows a then { m with log := m.log.step a } else m
  | .load i palette => m.load i palette
  | .crash i => m.crash i
  | .update => m.update
  | .turn palette => m.turn palette

def run (m : LoadMachine n) (schedule : List (LoadAction n)) : LoadMachine n := schedule.foldl step m

def pool (m : LoadMachine n) : LoaderPool :=
  (m.collected.map m.loader).foldl LoaderPool.count
    { running := m.running.map m.loader, failed := m.unstarted }

@[simp] theorem run_nil (m : LoadMachine n) : m.run [] = m := rfl

@[simp] theorem run_concat (m : LoadMachine n) (schedule : List (LoadAction n)) (a : LoadAction n) :
    m.run (schedule ++ [a]) = (m.run schedule).step a := by
  simp [run]

end LoadMachine

end TraceView
