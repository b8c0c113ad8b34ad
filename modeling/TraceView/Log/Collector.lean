import TraceView.RichText.Basic

/-!
The log. Its owner appends to the entries directly; every thread, the owner too, may append through
a handle, and such entries wait until the next merge. Each thread's entries keep their call order.
-/

namespace TraceView

inductive Writer where
  | owner
  | worker (id : Nat := 0)
  deriving DecidableEq, Repr

structure Log (Entry : Type := RichText) where
  entries : List Entry := []
  pending : List Entry := []
  /-- The published length of `pending`. A merge that reads zero here looks no further. -/
  pendingSize : Nat := 0
  ownerPending : Bool := false
  closed : Bool := false
  deriving DecidableEq, Repr

namespace Log

variable {Entry : Type}

def size (l : Log Entry) : Nat := l.entries.length

def merge (l : Log Entry) : Nat × Log Entry :=
  if l.pendingSize = 0 then (0, l)
  else (l.pending.length, { l with
    entries := l.entries ++ l.pending
    pending := []
    pendingSize := 0
    ownerPending := false })

def append (l : Log Entry) (entry : Entry) : Log Entry :=
  let l := if l.ownerPending then l.merge.2 else l
  { l with entries := l.entries ++ [entry] }

def send (l : Log Entry) (writer : Writer) (entry : Entry) : Log Entry :=
  if l.closed then l
  else { l with
    pending := l.pending ++ [entry]
    pendingSize := (l.pending ++ [entry]).length
    ownerPending := l.ownerPending || writer = .owner }

def clear (l : Log Entry) : Log Entry := { l.merge.2 with entries := [] }

def shutdown (l : Log Entry) : List Entry × Log Entry :=
  (l.entries, { l with entries := [], closed := true })

def drop (l : Log Entry) : Log Entry := l.shutdown.2

end Log

end TraceView
