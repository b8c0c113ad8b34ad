import TraceView.Log.Collector

namespace TraceView

variable {Entry Other : Type}

structure Stamped (Entry : Type) where
  serial : Nat
  writer : Writer
  entry : Entry
  deriving DecidableEq, Repr

inductive LogStep (Entry : Type) where
  | append (entry : Entry)
  | send (writer : Writer) (entry : Entry)
  | merge
  | clear
  deriving DecidableEq, Repr

namespace LogStep

def record? (n : Nat) : LogStep Entry → Option (Stamped Entry)
  | .append entry => some ⟨n, .owner, entry⟩
  | .send writer entry => some ⟨n, writer, entry⟩
  | _ => none

def stamp (n : Nat) : LogStep Entry → LogStep (Stamped Entry)
  | .append entry => .append ⟨n, .owner, entry⟩
  | .send writer entry => .send writer ⟨n, writer, entry⟩
  | .merge => .merge
  | .clear => .clear

def map (f : Entry → Other) : LogStep Entry → LogStep Other
  | .append entry => .append (f entry)
  | .send writer entry => .send writer (f entry)
  | .merge => .merge
  | .clear => .clear

@[simp] theorem map_entry_stamp (n : Nat) (s : LogStep Entry) :
    (s.stamp n).map Stamped.entry = s := by
  cases s <;> rfl

end LogStep

namespace Log

def step (l : Log Entry) : LogStep Entry → Log Entry
  | .append entry => l.append entry
  | .send writer entry => l.send writer entry
  | .merge => l.merge.2
  | .clear => l.clear

def run (steps : List (LogStep Entry)) : Log Entry := steps.foldl step {}

def recorded (steps : List (LogStep Entry)) : Log (Stamped Entry) :=
  run (steps.zipIdx.map fun (s, n) => s.stamp n)

def shown (l : Log Entry) : List Entry := l.entries ++ l.pending

def map (f : Entry → Other) (l : Log Entry) : Log Other :=
  { l with entries := l.entries.map f, pending := l.pending.map f }

@[simp] theorem run_nil : run ([] : List (LogStep Entry)) = {} := rfl

@[simp] theorem run_concat (steps : List (LogStep Entry)) (s : LogStep Entry) :
    run (steps ++ [s]) = (run steps).step s := by
  simp [run]

@[simp] theorem recorded_concat (steps : List (LogStep Entry)) (s : LogStep Entry) :
    recorded (steps ++ [s]) = (recorded steps).step (s.stamp steps.length) := by
  simp [recorded, List.zipIdx_append]

end Log

end TraceView
