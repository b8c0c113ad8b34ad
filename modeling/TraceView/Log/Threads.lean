import TraceView.Log.History

/-!
The log as its threads change it, one atomic step at a time. The pending entries are behind a mutex;
the flag, the hint and `closed` are read outside it. A schedule says who calls what and who moves
next, so that every interleaving of the owner and any number of workers is a schedule.
-/

namespace TraceView

variable {Entry : Type}

inductive AfterMerge (Entry : Type) where
  | done
  | append (r : Stamped Entry)
  | clear
  deriving DecidableEq, Repr

inductive Place (Entry : Type) where
  | idle
  | sendCheck (r : Stamped Entry)
  | sendLock (r : Stamped Entry)
  | sendPush (r : Stamped Entry)
  | sendFlag (r : Stamped Entry)
  | sendPublish (r : Stamped Entry)
  | sendUnlock (r : Stamped Entry)
  | appendCheck (r : Stamped Entry)
  | appendPush (r : Stamped Entry)
  | mergeCheck (after : AfterMerge Entry)
  | mergeLock (after : AfterMerge Entry)
  | mergeMove (after : AfterMerge Entry)
  | mergePublish (after : AfterMerge Entry) (moved : Nat)
  | mergeFlag (after : AfterMerge Entry) (moved : Nat)
  | mergeUnlock (after : AfterMerge Entry) (moved : Nat)
  | mergeReturn (after : AfterMerge Entry) (moved : Nat)
  | clearEntries
  | shutdownClose
  | shutdownTake
  deriving DecidableEq, Repr

def AfterMerge.next : AfterMerge Entry → Place Entry
  | .done => .idle
  | .append r => .appendPush r
  | .clear => .clearEntries

inductive LogCall (Entry : Type) where
  | send (entry : Entry)
  | append (entry : Entry)
  | merge
  | clear
  | shutdown
  deriving DecidableEq, Repr

inductive LogAction (Entry : Type) where
  | call (writer : Writer) (c : LogCall Entry)
  | advance (writer : Writer)
  deriving DecidableEq, Repr

structure LogMachine (Entry : Type) where
  log : Log (Stamped Entry) := {}
  holder : Option Writer := none
  place : Writer → Place Entry := fun _ => .idle
  gone : Bool := false
  calls : Nat := 0
  /-- The steps of a whole log that have taken effect. -/
  history : List (LogStep (Stamped Entry)) := []
  pushed : List (Stamped Entry) := []
  /-- The entries of sends that have returned after their push. -/
  sent : List (Stamped Entry) := []
  released : List (Stamped Entry) := []
  handedBack : List (Stamped Entry) := []

namespace LogMachine

def setPlace (place : Writer → Place Entry) (w : Writer) (p : Place Entry) :
    Writer → Place Entry :=
  fun v => if v = w then p else place v

def goto (m : LogMachine Entry) (w : Writer) (p : Place Entry) : LogMachine Entry :=
  { m with place := setPlace m.place w p }

def commit (m : LogMachine Entry) (s : LogStep (Stamped Entry)) : LogMachine Entry :=
  { m with history := m.history ++ [s] }

def mergeStep : AfterMerge Entry → LogStep (Stamped Entry)
  | .clear => .clear
  | _ => .merge

def begin (m : LogMachine Entry) : LogCall Entry → LogMachine Entry
  | .send _ => m
  | .append entry =>
    { m with calls := m.calls + 1 }.goto .owner (.appendCheck ⟨m.calls, .owner, entry⟩)
  | .merge => m.goto .owner (.mergeCheck .done)
  | .clear => m.goto .owner (.mergeCheck .clear)
  | .shutdown => { m with gone := true }.goto .owner .shutdownClose

def call (m : LogMachine Entry) (w : Writer) (c : LogCall Entry) : LogMachine Entry :=
  match m.place w, c with
  | .idle, .send entry =>
    { m with calls := m.calls + 1 }.goto w (.sendCheck ⟨m.calls, w, entry⟩)
  | .idle, c => if w = .owner ∧ m.gone = false then m.begin c else m
  | _, _ => m

/-- The next step of a thread. One that waits for the mutex stays where it is. -/
def advance (m : LogMachine Entry) (w : Writer) : LogMachine Entry :=
  match m.place w with
  | .idle => m
  | .sendCheck r => m.goto w (if m.log.closed then .idle else .sendLock r)
  | .sendLock r =>
    if m.holder = none then { m with holder := some w }.goto w (.sendPush r) else m
  | .sendPush r =>
    { m with
      log := { m.log with pending := m.log.pending ++ [r] }
      pushed := m.pushed ++ [r] }.goto w (if w = Writer.owner then .sendFlag r else .sendPublish r)
  | .sendFlag r => { m with log := { m.log with ownerPending := true } }.goto w (.sendPublish r)
  | .sendPublish r =>
    ({ m with log := { m.log with pendingSize := m.log.pending.length } }.commit
      (.send w r)).goto w (.sendUnlock r)
  | .sendUnlock r => { m with holder := none, sent := m.sent ++ [r] }.goto w .idle
  | .appendCheck r =>
    m.goto w (if m.log.ownerPending then .mergeCheck (.append r) else .appendPush r)
  | .appendPush r =>
    ({ m with
      log := { m.log with entries := m.log.entries ++ [r] }
      pushed := m.pushed ++ [r] }.commit (.append r)).goto w .idle
  | .mergeCheck after =>
    if m.log.pendingSize = 0 then (m.commit (mergeStep after)).goto w (.mergeReturn after 0)
    else m.goto w (.mergeLock after)
  | .mergeLock after =>
    if m.holder = none then { m with holder := some w }.goto w (.mergeMove after) else m
  | .mergeMove after =>
    ({ m with log := { m.log with entries := m.log.entries ++ m.log.pending, pending := [] } }.commit
      (mergeStep after)).goto w (.mergePublish after m.log.pending.length)
  | .mergePublish after moved =>
    { m with log := { m.log with pendingSize := 0 } }.goto w (.mergeFlag after moved)
  | .mergeFlag after moved =>
    { m with log := { m.log with ownerPending := false } }.goto w (.mergeUnlock after moved)
  | .mergeUnlock after moved => { m with holder := none }.goto w (.mergeReturn after moved)
  | .mergeReturn after _ => m.goto w after.next
  | .clearEntries =>
    { m with
      log := { m.log with entries := [] }
      released := m.released ++ m.log.entries }.goto w .idle
  | .shutdownClose => { m with log := { m.log with closed := true } }.goto w .shutdownTake
  | .shutdownTake =>
    { m with
      log := { m.log with entries := [] }
      handedBack := m.handedBack ++ m.log.entries }.goto w .idle

def step (m : LogMachine Entry) : LogAction Entry → LogMachine Entry
  | .call w c => m.call w c
  | .advance w => m.advance w

def run (schedule : List (LogAction Entry)) : LogMachine Entry := schedule.foldl step {}

@[simp] theorem run_nil : run ([] : List (LogAction Entry)) = {} := rfl

@[simp] theorem run_concat (schedule : List (LogAction Entry)) (a : LogAction Entry) :
    run (schedule ++ [a]) = (run schedule).step a := by
  simp [run]

end LogMachine

end TraceView
