import TraceView.Proofs.Log.Agreement

/-!
Every interleaving. Each atomic step keeps five invariants: who is in the guarded section, what the
serials of entries say, whether the owner is gone, where every pushed entry is, and that the log under
the mutex agrees with the log of whole steps.
-/

namespace TraceView

variable {Entry : Type}

namespace LogMachine

def placed (m : LogMachine Entry) : List (Stamped Entry) :=
  m.released ++ m.handedBack ++ m.log.entries ++ m.log.pending

def Accounted (m : LogMachine Entry) : Prop := m.placed.Perm m.pushed

structure Sound (m : LogMachine Entry) : Prop where
  exclusive : Exclusive m.place m.holder
  numbered : Numbered m.place m.calls m.pushed m.sent
  handover : Handover m.place m.gone m.handedBack
  accounted : m.Accounted
  agreement : m.Agreement

namespace Sound

variable {m : LogMachine Entry} {w : Writer} {r : Stamped Entry}

theorem nil : Sound ({} : LogMachine Entry) where
  exclusive := .nil
  numbered := .nil
  handover := ⟨by simp [Place.leaving], by simp⟩
  accounted := by simp [Accounted, placed]
  agreement := ⟨.nil, rfl, by simp [Place.merged]⟩

theorem follow (h : Sound m) {p q : Place Entry} {log : Log (Stamped Entry)}
    {holder : Option Writer} {history : List (LogStep (Stamped Entry))}
    {released : List (Stamped Entry)} (hq : m.place w = q)
    (hrecord : ∀ r, p.record? = some r → q.record? = some r ∧ p.hasPushed = q.hasPushed)
    (hleave : p.leaving = q.leaving) (hsend : q.sending = true → p.sending = true)
    (hexclusive : Exclusive (setPlace m.place w p) holder)
    (haccounted : Accounted { m with log, released })
    (hagreement : Agreement ({ m with log, holder, history, released }.goto w p)) :
    Sound ({ m with log, holder, history, released }.goto w p) where
  exclusive := hexclusive
  numbered := h.numbered.goto hq hrecord
  handover := h.handover.goto hq hleave hsend
  accounted := haccounted
  agreement := hagreement

theorem goto (h : Sound m) {p q : Place Entry} (hq : m.place w = q)
    (hout : q.inside = false) (hin : p.inside = false) (hworker : w ≠ .owner → p.ofWorker = true)
    (hrecord : ∀ r, p.record? = some r → q.record? = some r ∧ p.hasPushed = q.hasPushed)
    (hleave : p.leaving = q.leaving) (hsend : q.sending = true → p.sending = true)
    (hclear : p.clearing = q.clearing)
    (hmerged : p.merged = true → q.merged = true ∨ (Log.run m.history).ownerPending = false) :
    Sound (m.goto w p) :=
  h.follow hq hrecord hleave hsend (h.exclusive.goto hq (hin.trans hout.symm) hworker) h.accounted
    (h.agreement.goto (h.exclusive.outside hq hout) hq hclear hmerged)

theorem lock (h : Sound m) {p q : Place Entry} (hfree : m.holder = none) (hq : m.place w = q)
    (hin : p.inside = true) (hworker : w ≠ .owner → p.ofWorker = true)
    (hrecord : ∀ r, p.record? = some r → q.record? = some r ∧ p.hasPushed = q.hasPushed)
    (hleave : p.leaving = q.leaving) (hsend : q.sending = true → p.sending = true)
    (hclear : p.clearing = q.clearing) (hmerged : p.merged = false)
    (hp : ∀ whole log : Log (Stamped Entry), log = whole → p.Agrees whole log) :
    Sound ({ m with holder := some w }.goto w p) :=
  h.follow hq hrecord hleave hsend ((hfree ▸ h.exclusive).lock hin hworker) h.accounted
    (h.agreement.lock hfree hq hclear hmerged hp)

theorem sendCheck (h : Sound m) (hp : m.place w = .sendCheck r) :
    Sound (m.goto w (if m.log.closed then .idle else .sendLock r)) := by
  split
  · exact h.goto hp rfl rfl (fun _ => rfl) nofun rfl (fun _ => rfl) rfl nofun
  · exact h.goto hp rfl rfl (fun _ => rfl) (fun _ hr => ⟨hr, rfl⟩) rfl (fun _ => rfl) rfl nofun

theorem sendLock (h : Sound m) (hp : m.place w = .sendLock r) :
    Sound (if m.holder = none then { m with holder := some w }.goto w (.sendPush r) else m) := by
  split
  case isTrue hfree =>
    exact h.lock hfree hp rfl (fun _ => rfl) (fun _ hr => ⟨hr, rfl⟩) rfl (fun _ => rfl) rfl rfl
      fun _ _ heq => heq
  case isFalse => exact h

theorem sendPush (h : Sound m) (hp : m.place w = .sendPush r) :
    Sound ({ m with
      log := { m.log with pending := m.log.pending ++ [r] }
      pushed := m.pushed ++ [r] }.goto w
        (if w = Writer.owner then .sendFlag r else .sendPublish r)) := by
  have hw := h.exclusive.held hp rfl
  have hr : r.writer = w := (h.numbered.carried w r (by rw [hp]; rfl)).writer
  constructor
  case exclusive =>
    refine h.exclusive.goto hp ?_ fun hne => ?_
    · split <;> rfl
    · rw [if_neg hne]
      rfl
  case numbered =>
    refine h.numbered.push hp rfl rfl fun r' hr' => ?_
    split at hr' <;> cases hr'
    · exact ⟨rfl, by rw [if_pos ‹_›]; rfl⟩
    · exact ⟨rfl, by rw [if_neg ‹_›]; rfl⟩
  case handover =>
    refine h.handover.goto hp ?_ fun _ => ?_ <;> split <;> rfl
  case accounted =>
    rw [Accounted, placed, LogMachine.goto, ← List.append_assoc]
    exact h.accounted.append_right [r]
  case agreement => exact (h.agreement.sendPush hw hp hr).remember ..

theorem sendFlag (h : Sound m) (hp : m.place w = .sendFlag r) :
    Sound ({ m with log := { m.log with ownerPending := true } }.goto w (.sendPublish r)) := by
  have hw := h.exclusive.held hp rfl
  have hr : r.writer = w := (h.numbered.carried w r (by rw [hp]; rfl)).writer
  obtain rfl := h.exclusive.owner_of hp rfl
  exact h.follow hp (fun _ hr => ⟨hr, rfl⟩) rfl (fun _ => rfl) (h.exclusive.goto hp rfl nofun)
    h.accounted (h.agreement.sendFlag hw hp hr)

theorem sendPublish (h : Sound m) (hp : m.place w = .sendPublish r) :
    Sound (({ m with log := { m.log with pendingSize := m.log.pending.length } }.commit
      (.send w r)).goto w (.sendUnlock r)) := by
  have hw := h.exclusive.held hp rfl
  have hr : r.writer = w := (h.numbered.carried w r (by rw [hp]; rfl)).writer
  exact h.follow hp (fun _ hr => ⟨hr, rfl⟩) rfl (fun _ => rfl) (h.exclusive.goto hp rfl fun _ => rfl)
    h.accounted (h.agreement.sendPublish hw hp hr)

theorem sendUnlock (h : Sound m) (hp : m.place w = .sendUnlock r) :
    Sound ({ m with holder := none, sent := m.sent ++ [r] }.goto w .idle) := by
  have hw := h.exclusive.held hp rfl
  have hview := h.agreement.agrees_of_holder hw hp
  have hagreement : Agreement ({ m with holder := none }.goto w .idle) :=
    h.agreement.unlock hview hp nofun rfl
  exact
    { exclusive := (hw ▸ h.exclusive).unlock rfl fun _ => rfl
      numbered := h.numbered.finish hp rfl rfl rfl
      handover := h.handover.goto hp rfl fun _ => rfl
      accounted := h.accounted
      agreement := hagreement.remember .. }

theorem appendCheck (h : Sound m) (hp : m.place w = .appendCheck r) :
    Sound (m.goto w (if m.log.ownerPending then .mergeCheck (.append r) else .appendPush r)) := by
  obtain rfl := h.exclusive.owner_of hp rfl
  split
  case isTrue => exact h.goto hp rfl rfl nofun (fun _ hr => ⟨hr, rfl⟩) rfl nofun rfl nofun
  case isFalse hflag =>
    have howner := h.agreement.agrees.flag_false (Bool.eq_false_iff.mpr hflag)
    exact h.goto hp rfl rfl nofun (fun _ hr => ⟨hr, rfl⟩) rfl nofun rfl fun _ => .inr howner

theorem appendPush (h : Sound m) (hp : m.place w = .appendPush r) :
    Sound (({ m with
      log := { m.log with entries := m.log.entries ++ [r] }
      pushed := m.pushed ++ [r] }.commit (.append r)).goto w .idle) := by
  have hout := h.exclusive.outside hp rfl
  obtain rfl := h.exclusive.owner_of hp rfl
  constructor
  case exclusive => exact h.exclusive.goto hp rfl nofun
  case numbered => exact h.numbered.push hp rfl rfl nofun
  case handover => exact h.handover.goto hp rfl fun _ => rfl
  case accounted =>
    -- The owner's entry passes the pending ones, hence a permutation.
    calc m.released ++ m.handedBack ++ (m.log.entries ++ [r]) ++ m.log.pending
      _ = m.released ++ m.handedBack ++ m.log.entries ++ ([r] ++ m.log.pending) := by
        simp only [List.append_assoc]
      List.Perm _ (m.released ++ m.handedBack ++ m.log.entries ++ (m.log.pending ++ [r])) :=
        List.perm_append_comm.append_left _
      _ = m.released ++ m.handedBack ++ m.log.entries ++ m.log.pending ++ [r] := by
        rw [List.append_assoc _ m.log.pending]
      List.Perm _ (m.pushed ++ [r]) := h.accounted.append_right [r]
  case agreement => exact (h.agreement.appendPush hout hp).remember ..

theorem mergeCheck (h : Sound m) {after : AfterMerge Entry} (hp : m.place w = .mergeCheck after) :
    Sound (if m.log.pendingSize = 0 then (m.commit (mergeStep after)).goto w (.mergeReturn after 0)
      else m.goto w (.mergeLock after)) := by
  have hout := h.exclusive.outside hp rfl
  obtain rfl := h.exclusive.owner_of hp rfl
  split
  case isTrue hsize =>
    have hnone := h.handover.nil_of_sending hp rfl
    exact h.follow hp (fun _ hr => ⟨hr, rfl⟩) rfl nofun (h.exclusive.goto hp rfl nofun) h.accounted
      (h.agreement.mergePass hout hp hsize hnone)
  case isFalse => exact h.goto hp rfl rfl nofun (fun _ hr => ⟨hr, rfl⟩) rfl nofun rfl nofun

theorem mergeLock (h : Sound m) {after : AfterMerge Entry} (hp : m.place w = .mergeLock after) :
    Sound (if m.holder = none then { m with holder := some w }.goto w (.mergeMove after) else m) := by
  obtain rfl := h.exclusive.owner_of hp rfl
  split
  case isTrue hfree =>
    exact h.lock hfree hp rfl nofun (fun _ hr => ⟨hr, rfl⟩) rfl nofun rfl rfl fun _ _ heq => heq
  case isFalse => exact h

theorem mergeMove (h : Sound m) {after : AfterMerge Entry} (hp : m.place w = .mergeMove after) :
    Sound (({ m with log := { m.log with
      entries := m.log.entries ++ m.log.pending, pending := [] } }.commit
        (mergeStep after)).goto w (.mergePublish after m.log.pending.length)) := by
  have hw := h.exclusive.held hp rfl
  obtain rfl := h.exclusive.owner_of hp rfl
  refine h.follow hp (fun _ hr => ⟨hr, rfl⟩) rfl nofun (h.exclusive.goto hp rfl nofun) ?_
    (h.agreement.mergeMove hw hp (h.handover.nil_of_sending hp rfl) _)
  rw [Accounted, placed, List.append_nil, ← List.append_assoc]
  exact h.accounted

theorem mergePublish (h : Sound m) {after : AfterMerge Entry} {moved : Nat}
    (hp : m.place w = .mergePublish after moved) :
    Sound ({ m with log := { m.log with pendingSize := 0 } }.goto w (.mergeFlag after moved)) := by
  have hw := h.exclusive.held hp rfl
  obtain rfl := h.exclusive.owner_of hp rfl
  exact h.follow hp (fun _ hr => ⟨hr, rfl⟩) rfl nofun (h.exclusive.goto hp rfl nofun) h.accounted
    (h.agreement.mergePublish hw hp)

theorem mergeFlag (h : Sound m) {after : AfterMerge Entry} {moved : Nat}
    (hp : m.place w = .mergeFlag after moved) :
    Sound ({ m with log := { m.log with ownerPending := false } }.goto w
      (.mergeUnlock after moved)) := by
  have hw := h.exclusive.held hp rfl
  obtain rfl := h.exclusive.owner_of hp rfl
  exact h.follow hp (fun _ hr => ⟨hr, rfl⟩) rfl nofun (h.exclusive.goto hp rfl nofun) h.accounted
    (h.agreement.mergeFlag hw hp)

theorem mergeUnlock (h : Sound m) {after : AfterMerge Entry} {moved : Nat}
    (hp : m.place w = .mergeUnlock after moved) :
    Sound ({ m with holder := none }.goto w (.mergeReturn after moved)) := by
  have hw := h.exclusive.held hp rfl
  have hview := h.agreement.agrees_of_holder hw hp
  obtain rfl := h.exclusive.owner_of hp rfl
  exact h.follow hp (fun _ hr => ⟨hr, rfl⟩) rfl nofun ((hw ▸ h.exclusive).unlock rfl nofun)
    h.accounted (h.agreement.unlock hview hp (fun _ => rfl) rfl)

theorem mergeReturn (h : Sound m) {after : AfterMerge Entry} {moved : Nat}
    (hp : m.place w = .mergeReturn after moved) : Sound (m.goto w after.next) := by
  obtain rfl := h.exclusive.owner_of hp rfl
  cases after with
  | done => exact h.goto hp rfl rfl nofun nofun rfl nofun rfl nofun
  | append r =>
    exact h.goto hp rfl rfl nofun (fun _ hr => ⟨hr, rfl⟩) rfl nofun rfl fun _ => .inl rfl
  | clear => exact h.goto hp rfl rfl nofun nofun rfl nofun rfl nofun

theorem clearEntries (h : Sound m) (hp : m.place w = .clearEntries) :
    Sound ({ m with
      log := { m.log with entries := [] }
      released := m.released ++ m.log.entries }.goto w .idle) := by
  have hout := h.exclusive.outside hp rfl
  obtain rfl := h.exclusive.owner_of hp rfl
  have hnone := h.handover.nil_of_sending hp rfl
  refine h.follow hp nofun rfl nofun (h.exclusive.goto hp rfl nofun) ?_
    ((h.agreement.clearEntries hout hp hnone).remember ..)
  have haccounted := h.accounted
  rw [Accounted, placed, hnone, List.append_nil] at haccounted ⊢
  rwa [List.append_nil]

theorem shutdownClose (h : Sound m) (hp : m.place w = .shutdownClose) :
    Sound ({ m with log := { m.log with closed := true } }.goto w .shutdownTake) := by
  have hout := h.exclusive.outside hp rfl
  obtain rfl := h.exclusive.owner_of hp rfl
  exact h.follow hp nofun rfl nofun (h.exclusive.goto hp rfl nofun) h.accounted
    (h.agreement.shutdownClose hout hp)

theorem shutdownTake (h : Sound m) (hp : m.place w = .shutdownTake) :
    Sound ({ m with
      log := { m.log with entries := [] }
      handedBack := m.handedBack ++ m.log.entries }.goto w .idle) := by
  have hout := h.exclusive.outside hp rfl
  obtain rfl := h.exclusive.owner_of hp rfl
  constructor
  case exclusive => exact h.exclusive.goto hp rfl nofun
  case numbered => exact h.numbered.goto hp nofun
  case handover => exact h.handover.leave hp rfl rfl m.log.entries
  case accounted =>
    rw [Accounted, placed, LogMachine.goto, List.append_nil, ← List.append_assoc]
    exact h.accounted
  case agreement => exact h.agreement.shutdownTake hout hp

theorem advance (h : Sound m) (w : Writer) : Sound (m.advance w) := by
  unfold LogMachine.advance
  cases hp : m.place w with
  | idle => exact h
  | sendCheck r => exact h.sendCheck hp
  | sendLock r => exact h.sendLock hp
  | sendPush r => exact h.sendPush hp
  | sendFlag r => exact h.sendFlag hp
  | sendPublish r => exact h.sendPublish hp
  | sendUnlock r => exact h.sendUnlock hp
  | appendCheck r => exact h.appendCheck hp
  | appendPush r => exact h.appendPush hp
  | mergeCheck after => exact h.mergeCheck hp
  | mergeLock after => exact h.mergeLock hp
  | mergeMove after => exact h.mergeMove hp
  | mergePublish after moved => exact h.mergePublish hp
  | mergeFlag after moved => exact h.mergeFlag hp
  | mergeUnlock after moved => exact h.mergeUnlock hp
  | mergeReturn after moved => exact h.mergeReturn hp
  | clearEntries => exact h.clearEntries hp
  | shutdownClose => exact h.shutdownClose hp
  | shutdownTake => exact h.shutdownTake hp

theorem bring (h : Sound m) {p : Place Entry} {entry : Entry} (hp : m.place w = .idle)
    (hin : p.inside = false) (hworker : w ≠ .owner → p.ofWorker = true)
    (hrecord : p.record? = some ⟨m.calls, w, entry⟩) (hpushed : p.hasPushed = false)
    (hhandover : Handover (setPlace m.place w p) m.gone m.handedBack)
    (hclear : p.clearing = false) (hmerged : p.merged = false) :
    Sound ({ m with calls := m.calls + 1 }.goto w p) where
  exclusive := h.exclusive.goto hp hin hworker
  numbered := h.numbered.call hrecord hpushed
  handover := hhandover
  accounted := h.accounted
  agreement :=
    (h.agreement.goto (h.exclusive.outside hp rfl) hp hclear (by simp [hmerged])).remember ..

theorem start (h : Sound m) {p : Place Entry} {gone : Bool} (hp : m.place .owner = .idle)
    (hin : p.inside = false) (hrecord : ∀ r, p.record? ≠ some r)
    (hhandover : Handover (setPlace m.place .owner p) gone m.handedBack)
    (hclear : p.clearing = false) (hmerged : p.merged = false) :
    Sound ({ m with gone }.goto .owner p) where
  exclusive := h.exclusive.goto hp hin nofun
  numbered := h.numbered.goto hp fun r hr => (hrecord r hr).elim
  handover := hhandover
  accounted := h.accounted
  agreement :=
    have hagreement :=
      h.agreement.goto (h.exclusive.outside hp rfl) hp hclear (by simp [hmerged])
    ⟨hagreement.consistent, hagreement.agrees, hagreement.merged⟩

theorem begin (h : Sound m) (hp : m.place .owner = .idle) (hpresent : m.gone = false)
    (c : LogCall Entry) : Sound (m.begin c) := by
  have hhandover : Handover m.place false m.handedBack := hpresent ▸ h.handover
  cases c with
  | send entry => exact h
  | append entry => exact h.bring hp rfl nofun rfl rfl (hhandover.begin nofun) rfl rfl
  | merge => exact h.start hp rfl nofun (hhandover.begin nofun) rfl rfl
  | clear => exact h.start hp rfl nofun (hhandover.begin nofun) rfl rfl
  | shutdown => exact h.start hp rfl nofun (hhandover.begin fun _ => rfl) rfl rfl

theorem call (h : Sound m) (w : Writer) (c : LogCall Entry) : Sound (m.call w c) := by
  unfold LogMachine.call
  split
  case h_1 entry hp =>
    exact h.bring hp rfl (fun _ => rfl) rfl rfl (h.handover.goto hp rfl fun _ => rfl) rfl rfl
  case h_2 hp _ =>
    split
    case isTrue howner =>
      obtain ⟨rfl, hpresent⟩ := howner
      exact h.begin hp hpresent _
    case isFalse => exact h
  case h_3 => exact h

theorem step (h : Sound m) (a : LogAction Entry) : Sound (m.step a) := by
  cases a with
  | call w c => exact h.call w c
  | advance w => exact h.advance w

end Sound

theorem sound_run (schedule : List (LogAction Entry)) : Sound (run schedule) := by
  induction schedule using List.reverseRecOn with
  | nil => exact .nil
  | append_singleton schedule a ih =>
    rw [run_concat]
    exact ih.step a

end LogMachine

end TraceView
