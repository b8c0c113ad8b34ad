import TraceView.Proofs.Log.Growth
import Mathlib.Logic.Function.Iterate

namespace TraceView

variable {Entry : Type}

namespace LogMachine

variable {m : LogMachine Entry} {w : Writer}

theorem setPlace_setPlace (place : Writer → Place Entry) (w : Writer) (p q : Place Entry) :
    setPlace (setPlace place w p) w q = setPlace place w q := by
  funext v
  by_cases hv : v = w <;> simp [setPlace, hv]

theorem setPlace_eq_self {place : Writer → Place Entry} {p : Place Entry} (h : place w = p) :
    setPlace place w p = place := by
  funext v
  by_cases hv : v = w <;> simp [setPlace, hv, h]

/-- The thread is in no call, and nobody is in the guarded section of a log that is open. -/
structure Rests (w : Writer) (m : LogMachine Entry) : Prop where
  idle : m.place w = .idle
  free : m.holder = none
  present : Present m

def moves (w : Writer) (k : Nat) (m : LogMachine Entry) : LogMachine Entry := (·.advance w)^[k] m

theorem send_alone (h : Rests w m) (entry : Entry) :
    ∃ k, Rests w (moves w k (m.call w (.send entry))) ∧
      (moves w k (m.call w (.send entry))).log = m.log.send w ⟨m.calls, w, entry⟩ := by
  obtain ⟨hidle, hfree, hstays, haccepts⟩ := h
  let r : Stamped Entry := ⟨m.calls, w, entry⟩
  have hsend : m.log.send w r = { m.log with
      pending := m.log.pending ++ [r]
      pendingSize := m.log.pending.length + 1
      ownerPending := m.log.ownerPending || w = .owner } := by
    simp [Log.send, haccepts]
  have hmoves : ∃ k, moves w k (m.call w (.send entry)) = { m with
      log := m.log.send w r
      calls := m.calls + 1
      history := m.history ++ [.send w r]
      pushed := m.pushed ++ [r]
      sent := m.sent ++ [r] } := by
    -- The owner has the flag to set too.
    refine ⟨if w = .owner then 6 else 5, ?_⟩
    by_cases hw : w = .owner
    · subst hw
      simp [moves, call, advance, goto, commit, setPlace_self, setPlace_setPlace, setPlace_eq_self,
        hsend, hidle, hfree, haccepts, r]
    · simp [moves, call, advance, goto, commit, setPlace_self, setPlace_setPlace, setPlace_eq_self,
        hsend, hidle, hfree, haccepts, hw, r]
  obtain ⟨k, hmoves⟩ := hmoves
  refine ⟨k, ?_, by rw [hmoves]⟩
  rw [hmoves, hsend]
  exact ⟨hidle, hfree, hstays, haccepts⟩

theorem merge_alone (h : Rests .owner m) :
    ∃ k, Rests .owner (moves .owner k (m.call .owner .merge)) ∧
      (moves .owner k (m.call .owner .merge)).log = m.log.merge.2 := by
  obtain ⟨hidle, hfree, hstays, haccepts⟩ := h
  have haccepts' : m.log.merge.2.closed = false := by
    unfold Log.merge
    split <;> exact haccepts
  have hmoves : ∃ k, moves .owner k (m.call .owner .merge) = { m with
      log := m.log.merge.2
      history := m.history ++ [.merge] } := by
    -- Without the mutex if nothing is pending.
    refine ⟨if m.log.pendingSize = 0 then 2 else 7, ?_⟩
    by_cases hsize : m.log.pendingSize = 0
    · simp [moves, call, begin, advance, goto, commit, setPlace_self, setPlace_setPlace,
        setPlace_eq_self, mergeStep, AfterMerge.next, Log.merge, hidle, hstays, hsize]
    · simp [moves, call, begin, advance, goto, commit, setPlace_self, setPlace_setPlace,
        setPlace_eq_self, mergeStep, AfterMerge.next, Log.merge, hidle, hfree, hstays, hsize]
  obtain ⟨k, hmoves⟩ := hmoves
  refine ⟨k, ?_, by rw [hmoves]⟩
  rw [hmoves]
  exact ⟨hidle, hfree, hstays, haccepts'⟩

end LogMachine

end TraceView
