import TraceView.Proofs.Log.History
import TraceView.Proofs.Log.Places

namespace TraceView

variable {Entry : Type}

namespace Place

/-- The log under the mutex against the log of whole steps, by where its holder stands. -/
def Agrees (whole log : Log (Stamped Entry)) : Place Entry → Prop
  | .sendFlag r => log = { whole with pending := whole.pending ++ [r] }
  | .sendPublish r => log = { whole with
      pending := whole.pending ++ [r]
      ownerPending := whole.ownerPending || r.writer = .owner }
  | .mergePublish .. => whole = { log with pendingSize := 0, ownerPending := false }
  | .mergeFlag .. => whole = { log with ownerPending := false }
  | _ => log = whole

namespace Agrees

variable {whole log : Log (Stamped Entry)} {p : Place Entry}

theorem entries_eq (h : Agrees whole log p) : log.entries = whole.entries := by
  cases p <;> simp only [Agrees] at h <;> subst h <;> rfl

theorem size_zero (h : Agrees whole log p) (hlog : log.pendingSize = 0) : whole.pendingSize = 0 := by
  cases p <;> simp only [Agrees] at h <;> subst h <;> first | exact hlog | rfl

theorem flag_false (h : Agrees whole log p) (hlog : log.ownerPending = false) :
    whole.ownerPending = false := by
  cases p <;> simp only [Agrees] at h <;> subst h <;> simp_all

theorem withEntries (h : Agrees whole log p) (entries : List (Stamped Entry)) :
    Agrees { whole with entries } { log with entries } p := by
  cases p <;> simp only [Agrees] at h ⊢ <;> rw [h]

end Agrees

end Place

namespace LogMachine

def guarded (holder : Option Writer) (place : Writer → Place Entry) : Place Entry :=
  holder.elim .idle place

theorem guarded_setPlace_self {w : Writer} (place : Writer → Place Entry) (p : Place Entry) :
    guarded (some w) (setPlace place w p) = p := setPlace_self place w p

theorem guarded_setPlace_ne {holder : Option Writer} {w : Writer} (h : holder ≠ some w)
    (place : Writer → Place Entry) (p : Place Entry) :
    guarded holder (setPlace place w p) = guarded holder place := by
  cases holder with
  | none => rfl
  | some v => exact setPlace_ne (fun hv => h (congrArg some hv)) place p

/-- The log as whole steps see it: a clear that has taken effect has emptied it, and closing or
handing the entries back is no step. -/
def view (m : LogMachine Entry) : Log (Stamped Entry) :=
  { m.log with
    entries := if (m.place .owner).clearing then [] else m.handedBack ++ m.log.entries
    closed := false }

theorem view_goto {m : LogMachine Entry} {w : Writer} {p q : Place Entry} {log : Log (Stamped Entry)}
    {holder : Option Writer} (hq : m.place w = q) (hclear : p.clearing = q.clearing)
    (hentries : log.entries = m.log.entries) :
    ({ m with log, holder }.goto w p).view =
      { log with entries := m.view.entries, closed := false } := by
  subst hq
  simp only [view, goto, apply_setPlace Place.clearing hclear, hentries]

/-- The log of whole steps is the one under the mutex, up to the step that its holder is in. -/
structure Agreement (m : LogMachine Entry) : Prop where
  consistent : Log.Consistent (Log.run m.history)
  agrees : Place.Agrees (Log.run m.history) m.view (guarded m.holder m.place)
  merged : (m.place .owner).merged = true → (Log.run m.history).ownerPending = false

namespace Agreement

variable {m : LogMachine Entry} {w : Writer} {p q : Place Entry} {r : Stamped Entry}
  {log : Log (Stamped Entry)} {holder : Option Writer}

theorem merged_setPlace (h : Agreement m) (hq : m.place w = q)
    (hmerged : p.merged = true → q.merged = true ∨ (Log.run m.history).ownerPending = false)
    (howner : (setPlace m.place w p .owner).merged = true) :
    (Log.run m.history).ownerPending = false := by
  subst hq
  cases eq_or_ne Writer.owner w with
  | inl heq =>
    subst heq
    rw [setPlace_self] at howner
    exact (hmerged howner).elim h.merged id
  | inr hne =>
    rw [setPlace_ne hne] at howner
    exact h.merged howner

theorem move (h : Agreement m) (hq : m.place w = q) (hclear : p.clearing = q.clearing)
    (hmerged : p.merged = true → q.merged = true ∨ (Log.run m.history).ownerPending = false)
    (hentries : log.entries = m.log.entries)
    (hagrees : Place.Agrees (Log.run m.history)
      { log with entries := m.view.entries, closed := false }
      (guarded holder (setPlace m.place w p))) :
    Agreement ({ m with log, holder }.goto w p) where
  consistent := h.consistent
  agrees := by
    rw [view_goto hq hclear hentries]
    exact hagrees
  merged := h.merged_setPlace hq hmerged

theorem goto (h : Agreement m) (hw : m.holder ≠ some w) (hq : m.place w = q)
    (hclear : p.clearing = q.clearing)
    (hmerged : p.merged = true → q.merged = true ∨ (Log.run m.history).ownerPending = false) :
    Agreement (m.goto w p) := by
  refine h.move hq hclear hmerged rfl ?_
  rw [guarded_setPlace_ne hw]
  exact h.agrees

theorem lock (h : Agreement m) (hfree : m.holder = none) (hq : m.place w = q)
    (hclear : p.clearing = q.clearing) (hmerged : p.merged = false)
    (hp : ∀ whole log : Log (Stamped Entry), log = whole → p.Agrees whole log) :
    Agreement ({ m with holder := some w }.goto w p) := by
  refine h.move hq hclear (fun hp => ?_) rfl ?_
  · simp [hmerged] at hp
  · rw [guarded_setPlace_self]
    have hagrees := h.agrees
    rw [hfree] at hagrees
    exact hp _ _ hagrees

theorem agrees_of_holder (h : Agreement m) (hw : m.holder = some w) (hp : m.place w = p) :
    p.Agrees (Log.run m.history) m.view := by
  have hagrees := h.agrees
  rwa [hw, guarded, Option.elim_some, hp] at hagrees

theorem remember (h : Agreement m) (calls : Nat) (pushed sent released : List (Stamped Entry)) :
    Agreement { m with calls, pushed, sent, released } :=
  ⟨h.consistent, h.agrees, h.merged⟩

theorem sendPush (h : Agreement m) (hw : m.holder = some w) (hp : m.place w = .sendPush r)
    (hr : r.writer = w) :
    Agreement ({ m with log := { m.log with pending := m.log.pending ++ [r] } }.goto w
      (if w = Writer.owner then .sendFlag r else .sendPublish r)) := by
  have hview : m.view = Log.run m.history := h.agrees_of_holder hw hp
  by_cases howner : w = .owner
  · rw [if_pos howner]
    refine h.move hp rfl nofun rfl ?_
    rw [hw, guarded_setPlace_self, ← hview]
    rfl
  -- A worker skips the flag, which its send as a whole leaves as it is, too.
  · rw [if_neg howner]
    refine h.move hp rfl nofun rfl ?_
    rw [hw, guarded_setPlace_self, ← hview]
    simp [Place.Agrees, hr, howner, view]

theorem sendFlag (h : Agreement m) (hw : m.holder = some w) (hp : m.place w = .sendFlag r)
    (hr : r.writer = .owner) :
    Agreement ({ m with log := { m.log with ownerPending := true } }.goto w (.sendPublish r)) := by
  have hview : m.view = { Log.run m.history with pending := (Log.run m.history).pending ++ [r] } :=
    h.agrees_of_holder hw hp
  refine h.move hp rfl nofun rfl ?_
  rw [hw, guarded_setPlace_self]
  show { m.view with ownerPending := true } = _
  rw [hview]
  simp [hr]

theorem commit {s : LogStep (Stamped Entry)}
    (hconsistent : Log.Consistent ((Log.run m.history).step s))
    (hagrees : Place.Agrees ((Log.run m.history).step s) ({ m with log }.goto w p).view
      (guarded m.holder (setPlace m.place w p)))
    (hmerged : (setPlace m.place w p .owner).merged = true →
      ((Log.run m.history).step s).ownerPending = false) :
    Agreement (({ m with log }.commit s).goto w p) := by
  rw [← Log.run_concat] at hconsistent hagrees hmerged
  exact ⟨hconsistent, hagrees, hmerged⟩

theorem sendPublish (h : Agreement m) (hw : m.holder = some w) (hp : m.place w = .sendPublish r)
    (hr : r.writer = w) :
    Agreement (({ m with log := { m.log with pendingSize := m.log.pending.length } }.commit
      (.send w r)).goto w (.sendUnlock r)) := by
  have hview := h.agrees_of_holder hw hp
  have hsend : (Log.run m.history).step (.send w r) =
      { m.view with pendingSize := m.view.pending.length } := by
    rw [Log.step, h.consistent.send_eq, hview, hr]
    simp
  refine commit ?_ ?_ fun howner => ?_
  · exact hr ▸ h.consistent.send r
  · rw [hsend, hw, guarded_setPlace_self]
    exact view_goto hp rfl rfl
  · have hne : Writer.owner ≠ w := by
      rintro rfl
      rw [setPlace_self] at howner
      cases howner
    rw [setPlace_ne hne] at howner
    rw [Log.step, h.consistent.send_eq, h.merged howner]
    simp [hne.symm]

theorem appendPush (h : Agreement m) (hw : m.holder ≠ some .owner)
    (hp : m.place .owner = .appendPush r) :
    Agreement (({ m with log := { m.log with entries := m.log.entries ++ [r] } }.commit
      (.append r)).goto .owner .idle) := by
  have happend : (Log.run m.history).step (.append r) =
      { Log.run m.history with entries := m.view.entries ++ [r] } := by
    rw [Log.step, Log.append, h.merged (by rw [hp]; rfl), h.agrees.entries_eq]
    rfl
  refine commit ?_ ?_ fun howner => ?_
  · rw [happend]
    exact h.consistent.withEntries _
  · rw [happend, guarded_setPlace_ne hw]
    have hview := h.agrees.withEntries (m.view.entries ++ [r])
    simpa [view, LogMachine.goto, setPlace_self, hp, Place.clearing] using hview
  · rw [setPlace_self] at howner
    cases howner

theorem step_mergeStep (h : Agreement m) (after : AfterMerge Entry) :
    (Log.run m.history).step (mergeStep after) =
      { entries := if after.clears then [] else (Log.run m.history).shown } := by
  cases after with
  | clear => exact h.consistent.clear_eq
  | done | append r =>
    rw [mergeStep, Log.step, h.consistent.merge_eq]
    all_goals simp [AfterMerge.clears, h.consistent.closed]

theorem consistent_mergeStep (h : Agreement m) (after : AfterMerge Entry) :
    Log.Consistent ((Log.run m.history).step (mergeStep after)) := by
  rw [h.step_mergeStep]
  constructor <;> simp

/-- What is under way may be pending, but the hint is zero only when no whole step left an entry. -/
theorem nil_of_size_zero (h : Agreement m) (hsize : m.log.pendingSize = 0) :
    (Log.run m.history).pending = [] := by
  rw [← List.length_eq_zero_iff, ← h.consistent.size]
  exact h.agrees.size_zero hsize

theorem mergePass (h : Agreement m) {after : AfterMerge Entry} (hw : m.holder ≠ some .owner)
    (hp : m.place .owner = .mergeCheck after) (hsize : m.log.pendingSize = 0)
    (hnone : m.handedBack = []) :
    Agreement ((m.commit (mergeStep after)).goto .owner (.mergeReturn after 0)) := by
  -- A thread may have pushed by now, but its send takes effect only when it publishes.
  have hpending := h.nil_of_size_zero hsize
  have hentries : (Log.run m.history).shown = m.log.entries := by
    rw [Log.shown, hpending, List.append_nil, ← h.agrees.entries_eq]
    simp [view, hp, hnone, Place.clearing]
  have hstep : (Log.run m.history).step (mergeStep after) =
      { Log.run m.history with entries := if after.clears then [] else m.log.entries } := by
    rw [h.step_mergeStep, hentries, h.consistent.eq_of_nil hpending]
  refine commit (h.consistent_mergeStep after) ?_ fun _ => ?_
  · rw [hstep, guarded_setPlace_ne hw]
    have hview := h.agrees.withEntries (if after.clears then [] else m.log.entries)
    simpa [view, LogMachine.goto, setPlace_self, hnone, Place.clearing] using hview
  · rw [h.step_mergeStep]

theorem mergeMove (h : Agreement m) {after : AfterMerge Entry} (hw : m.holder = some .owner)
    (hp : m.place .owner = .mergeMove after) (hnone : m.handedBack = []) (moved : Nat) :
    Agreement (({ m with log := { m.log with
      entries := m.log.entries ++ m.log.pending, pending := [] } }.commit
        (mergeStep after)).goto .owner (.mergePublish after moved)) := by
  have hview : m.view = Log.run m.history := h.agrees_of_holder hw hp
  refine commit (h.consistent_mergeStep after) ?_ fun _ => ?_
  · rw [h.step_mergeStep, hw, guarded_setPlace_self, ← hview]
    simp [Place.Agrees, view, LogMachine.goto, setPlace_self, hp, hnone, Place.clearing, Log.shown]
  · rw [h.step_mergeStep]

theorem mergePublish (h : Agreement m) {after : AfterMerge Entry} {moved : Nat}
    (hw : m.holder = some w) (hp : m.place w = .mergePublish after moved) :
    Agreement ({ m with log := { m.log with pendingSize := 0 } }.goto w (.mergeFlag after moved)) := by
  have hview : Log.run m.history = { m.view with pendingSize := 0, ownerPending := false } :=
    h.agrees_of_holder hw hp
  refine h.move hp rfl (fun _ => .inl rfl) rfl ?_
  rw [hw, guarded_setPlace_self, hview]
  rfl

theorem mergeFlag (h : Agreement m) {after : AfterMerge Entry} {moved : Nat}
    (hw : m.holder = some w) (hp : m.place w = .mergeFlag after moved) :
    Agreement ({ m with log := { m.log with ownerPending := false } }.goto w
      (.mergeUnlock after moved)) := by
  have hview : Log.run m.history = { m.view with ownerPending := false } :=
    h.agrees_of_holder hw hp
  refine h.move hp rfl (fun _ => .inl rfl) rfl ?_
  rw [hw, guarded_setPlace_self, hview]
  rfl

theorem unlock (h : Agreement m) (hview : m.view = Log.run m.history) (hq : m.place w = q)
    (hmerged : p.merged = true → q.merged = true) (hclear : p.clearing = q.clearing) :
    Agreement ({ m with holder := none }.goto w p) :=
  h.move hq hclear (fun hp => .inl (hmerged hp)) rfl hview

theorem clearEntries (h : Agreement m) (hw : m.holder ≠ some .owner)
    (hp : m.place .owner = .clearEntries) (hnone : m.handedBack = []) :
    Agreement ({ m with log := { m.log with entries := [] } }.goto .owner .idle) where
  consistent := h.consistent
  agrees := by
    have hagrees := h.agrees
    simp only [view, hp, Place.clearing, if_true] at hagrees
    simpa [view, LogMachine.goto, guarded_setPlace_ne hw, setPlace_self, hnone, Place.clearing]
      using hagrees
  merged := by
    simp only [LogMachine.goto, setPlace_self]
    rintro ⟨⟩

theorem shutdownClose (h : Agreement m) (hw : m.holder ≠ some .owner)
    (hp : m.place .owner = .shutdownClose) :
    Agreement ({ m with log := { m.log with closed := true } }.goto .owner .shutdownTake) := by
  refine h.move hp rfl nofun rfl ?_
  rw [guarded_setPlace_ne hw]
  exact h.agrees

theorem shutdownTake (h : Agreement m) (hw : m.holder ≠ some .owner)
    (hp : m.place .owner = .shutdownTake) :
    Agreement ({ m with
      log := { m.log with entries := [] }
      handedBack := m.handedBack ++ m.log.entries }.goto .owner .idle) where
  consistent := h.consistent
  agrees := by
    have hagrees := h.agrees
    simp only [view, hp, Place.clearing] at hagrees
    simpa [view, LogMachine.goto, guarded_setPlace_ne hw, setPlace_self, Place.clearing]
      using hagrees
  merged := by
    simp only [LogMachine.goto, setPlace_self]
    rintro ⟨⟩

end Agreement

end LogMachine

end TraceView
