import TraceView.Proofs.Log.Threads

/-!
What holds of a log under every interleaving of its threads. An entry sent before a merge began is
moved by that merge or was moved before, also when the merge trusts the hint and takes no lock.
-/

namespace TraceView

variable {Entry : Type}

namespace Place

def inMerge : Place Entry → Bool
  | .mergeCheck _ | .mergeLock _ | .mergeMove _ => true
  | .mergePublish .. | .mergeFlag .. | .mergeUnlock .. | .mergeReturn .. => true
  | _ => false

theorem Agrees.mem_pending {whole log : Log (Stamped Entry)} {p : Place Entry} {r : Stamped Entry}
    (h : p.Agrees whole log) (hr : r ∈ log.pending) : r ∈ whole.pending ∨ p.record? = some r := by
  cases p <;> simp only [Agrees] at h <;> subst h <;> simp_all [record?, eq_comm]

end Place

namespace LogMachine

variable {m : LogMachine Entry} {w : Writer} {r : Stamped Entry}

/-- A zero hint is never late for what has been sent. -/
theorem Sound.not_pending (h : Sound m) (hsize : m.log.pendingSize = 0) (hsent : r ∈ m.sent) :
    r ∉ m.log.pending := by
  intro hr
  have hnil := h.agreement.nil_of_size_zero hsize
  cases h.agreement.agrees.mem_pending hr with
  | inl hwhole =>
    rw [hnil] at hwhole
    cases hwhole
  | inr hrecord =>
    cases hh : m.holder with
    | none =>
      rw [hh] at hrecord
      cases hrecord
    | some w =>
      rw [hh] at hrecord
      exact (h.numbered.carried w r hrecord).not_sent hsent

structure Beside (m m' : LogMachine Entry) : Prop where
  place_eq : m'.place .owner = m.place .owner
  entries_eq : m'.log.entries = m.log.entries
  released_eq : m'.released = m.released
  pending_subset : m.log.pending ⊆ m'.log.pending
  sent_subset : m.sent ⊆ m'.sent

namespace Beside

theorem refl (m : LogMachine Entry) : Beside m m :=
  ⟨rfl, rfl, rfl, fun _ hr => hr, fun _ hr => hr⟩

theorem goto (hw : w ≠ .owner) {p : Place Entry} {m' : LogMachine Entry} (h : Beside m m') :
    Beside m (m'.goto w p) where
  place_eq := (setPlace_ne hw.symm _ _).trans h.place_eq
  entries_eq := h.entries_eq
  released_eq := h.released_eq
  pending_subset := h.pending_subset
  sent_subset := h.sent_subset

end Beside

theorem Sound.beside_advance (h : Sound m) (hw : w ≠ .owner) : Beside m (m.advance w) := by
  have hworker := (h.exclusive w).worker hw
  unfold LogMachine.advance
  cases hp : m.place w with
  | idle => exact .refl m
  | sendCheck r => exact .goto hw (.refl m)
  | sendLock r =>
    dsimp only
    split
    · exact .goto hw ⟨rfl, rfl, rfl, fun _ hr => hr, fun _ hr => hr⟩
    · exact .refl m
  | sendPush r => exact .goto hw ⟨rfl, rfl, rfl, List.subset_append_left .., fun _ hr => hr⟩
  | sendPublish r => exact .goto hw ⟨rfl, rfl, rfl, fun _ hr => hr, fun _ hr => hr⟩
  | sendUnlock r => exact .goto hw ⟨rfl, rfl, rfl, fun _ hr => hr, List.subset_append_left ..⟩
  | _ => simp [hp, Place.ofWorker] at hworker

theorem beside_call (hw : w ≠ .owner) (c : LogCall Entry) : Beside m (m.call w c) := by
  unfold call
  split
  case h_1 => exact .goto hw ⟨rfl, rfl, rfl, fun _ hr => hr, fun _ hr => hr⟩
  case h_2 =>
    rw [if_neg fun howner => hw howner.1]
    exact .refl m
  case h_3 => exact .refl m

theorem call_of_busy (hin : (m.place .owner).inMerge = true) (c : LogCall Entry) :
    m.call .owner c = m := by
  unfold call
  split
  case h_1 hp | h_2 hp _ =>
    rw [hp] at hin
    cases hin
  case h_3 => rfl

/-- In a merge of the owner, what had been sent before is released, moved, or yet to be moved. -/
structure Catching (records released : List (Stamped Entry)) (m : LogMachine Entry) : Prop where
  released_eq : m.released = released
  sent : records ⊆ m.sent
  caught : ∀ r ∈ records, r ∈ released ∨ r ∈ m.log.entries ∨
    r ∈ m.log.pending ∧ (m.place .owner).merged = false

namespace Catching

variable {records released : List (Stamped Entry)}

theorem start (h : Sound m) {after : AfterMerge Entry} (hp : m.place .owner = .mergeCheck after) :
    Catching m.sent m.released m where
  released_eq := rfl
  sent := fun _ hr => hr
  caught r hr := by
    have hpushed := h.accounted.mem_iff.mpr (h.numbered.sent_subset hr)
    rw [placed, h.handover.nil_of_sending hp rfl] at hpushed
    simpa [hp, Place.merged, or_assoc] using hpushed

theorem beside {m' : LogMachine Entry} (h : Catching records released m) (hm : Beside m m') :
    Catching records released m' where
  released_eq := hm.released_eq.trans h.released_eq
  sent _ hr := hm.sent_subset (h.sent hr)
  caught r hr := by
    rw [hm.place_eq, hm.entries_eq]
    exact (h.caught r hr).imp_right (Or.imp_right (And.imp_left (@hm.pending_subset r)))

theorem goto (h : Catching records released m) {p q : Place Entry} {holder : Option Writer}
    (hq : m.place .owner = q) (hmerged : p.merged = q.merged) :
    Catching records released ({ m with holder }.goto .owner p) where
  released_eq := h.released_eq
  sent := h.sent
  caught := by
    subst hq
    simpa only [LogMachine.goto, apply_setPlace Place.merged hmerged] using h.caught

theorem settle (h : Catching records released m) {p : Place Entry} {log : Log (Stamped Entry)}
    {history : List (LogStep (Stamped Entry))} (hentries : m.log.entries ⊆ log.entries)
    (hpending : ∀ r ∈ records, r ∈ m.log.pending → r ∈ log.entries) :
    Catching records released ({ m with log, history }.goto .owner p) where
  released_eq := h.released_eq
  sent := h.sent
  caught r hr := (h.caught r hr).imp_right fun hr' =>
    .inl (hr'.elim (@hentries r) fun hr' => hpending r hr hr'.1)

theorem of_merged (h : Catching records released m) {q : Place Entry} (hq : m.place .owner = q)
    (hmerged : q.merged = true) : ∀ r ∈ records, r ∈ released ∨ r ∈ m.log.entries := by
  intro r hr
  refine (h.caught r hr).imp_right fun hr' => hr'.resolve_right fun hr' => ?_
  simp [hq, hmerged] at hr'

theorem past (h : Catching records released m) {p q : Place Entry} {log : Log (Stamped Entry)}
    {holder : Option Writer} (hq : m.place .owner = q) (hmerged : q.merged = true)
    (hentries : log.entries = m.log.entries) :
    Catching records released ({ m with log, holder }.goto .owner p) where
  released_eq := h.released_eq
  sent := h.sent
  caught r hr := (h.of_merged hq hmerged r hr).imp_right fun hr' => .inl (hentries ▸ hr')

theorem advance_owner (h : Catching records released m) (hsound : Sound m)
    (hin : (m.place .owner).inMerge = true) : Catching records released (m.advance .owner) := by
  unfold LogMachine.advance
  cases hp : m.place .owner with
  | mergeCheck after =>
    dsimp only
    split
    case isTrue hsize =>
      exact h.settle (List.Subset.refl _) fun r hr hr' =>
        (hsound.not_pending hsize (h.sent hr) hr').elim
    case isFalse => exact h.goto hp rfl
  | mergeLock after =>
    dsimp only
    split
    · exact h.goto hp rfl
    · exact h
  | mergeMove after =>
    exact h.settle (List.subset_append_left ..) fun r _ hr' => List.mem_append_right _ hr'
  | mergePublish after moved => exact h.past hp rfl rfl
  | mergeFlag after moved => exact h.past hp rfl rfl
  | mergeUnlock after moved => exact h.past hp rfl rfl
  | mergeReturn after moved => exact h.past hp rfl rfl
  | _ => simp [hp, Place.inMerge] at hin

theorem step (h : Catching records released m) (hsound : Sound m)
    (hin : (m.place .owner).inMerge = true) (a : LogAction Entry) :
    Catching records released (m.step a) := by
  cases a with
  | call w c =>
    cases eq_or_ne w Writer.owner with
    | inl heq =>
      subst heq
      rw [LogMachine.step, call_of_busy hin]
      exact h
    | inr hw => exact h.beside (beside_call hw c)
  | advance w =>
    cases eq_or_ne w Writer.owner with
    | inl heq =>
      subst heq
      exact h.advance_owner hsound hin
    | inr hw => exact h.beside (hsound.beside_advance hw)

end Catching

def MergesThrough (schedule more : List (LogAction Entry)) : Prop :=
  ∀ k ≤ more.length, ((run (schedule ++ more.take k)).place .owner).inMerge = true

instance (schedule more : List (LogAction Entry)) : Decidable (MergesThrough schedule more) :=
  inferInstanceAs (Decidable (∀ k ≤ more.length, _ = true))

theorem MergesThrough.of_concat {schedule more : List (LogAction Entry)} {a : LogAction Entry}
    (h : MergesThrough schedule (more ++ [a])) : MergesThrough schedule more := by
  intro k hk
  have hin := h k (by rw [List.length_append]; omega)
  rwa [List.take_append_of_le_length hk] at hin

theorem catching_run {schedule more : List (LogAction Entry)} {after : AfterMerge Entry}
    (hp : (run schedule).place .owner = .mergeCheck after) (hmore : MergesThrough schedule more) :
    Catching (run schedule).sent (run schedule).released (run (schedule ++ more)) := by
  -- From the end, as the last step starts where the owner is still in its merge.
  induction more using List.reverseRecOn with
  | nil =>
    rw [List.append_nil]
    exact .start (sound_run schedule) hp
  | append_singleton more a ih =>
    have hin := hmore.of_concat more.length (Nat.le_refl _)
    rw [List.take_length] at hin
    rw [← List.append_assoc, run_concat]
    exact (ih hmore.of_concat).step (sound_run _) hin a

theorem view_of_free (h : Sound m) (hfree : m.holder = none) : m.view = Log.run m.history := by
  have hagrees := h.agreement.agrees
  rwa [hfree] at hagrees

theorem log_eq_run (schedule : List (LogAction Entry)) (hfree : (run schedule).holder = none)
    (hclear : ((run schedule).place .owner).clearing = false) (hgone : (run schedule).gone = false) :
    { (run schedule).log with closed := false } = Log.run (run schedule).history := by
  have h := sound_run schedule
  have hnone : (run schedule).handedBack = [] := (hgone ▸ h.handover).nil_of_present
  rw [← view_of_free h hfree]
  simp [view, hclear, hnone]

/-- Whoever runs when: (i) while the mutex is free, the hint and the flag say what is so; (ii) every
pushed entry is in one place; (iii) what was sent before a merge began is in the entries when it
returns, unless a clear had released it before. -/
theorem interleaving_faithful (schedule : List (LogAction Entry)) :
    let m := run schedule
    (m.holder = none → m.log.pendingSize = m.log.pending.length ∧
      (m.log.ownerPending = true ↔ ∃ r ∈ m.log.pending, r.writer = .owner)) ∧
      (m.placed.Perm m.pushed ∧ m.placed.Nodup) ∧
      ∀ after more moved, m.place .owner = .mergeCheck after → MergesThrough schedule more →
        (run (schedule ++ more)).place .owner = .mergeReturn after moved →
          ∀ r ∈ m.sent, r ∈ (run (schedule ++ more)).log.entries ∨ r ∈ m.released := by
  intro m
  have h := sound_run schedule
  refine ⟨fun hfree => ?_, ⟨h.accounted, h.accounted.nodup_iff.mpr h.numbered.nodup⟩, ?_⟩
  · have hconsistent : Log.Consistent m.view := view_of_free h hfree ▸ h.agreement.consistent
    exact ⟨hconsistent.size, hconsistent.owner⟩
  · intro after more moved hbegin hmore hreturn r hr
    exact ((catching_run hbegin hmore).of_merged hreturn rfl r hr).symm

def workerSend (id entry : Nat) : List (LogAction Nat) :=
  .call (.worker id) (.send entry) :: .replicate 5 (.advance (.worker id))

def overlapping : List (LogAction Nat) :=
  workerSend 1 7 ++ .call .owner .merge :: .replicate 7 (.advance .owner) ++
    (workerSend 2 8).take 4 ++ [.call .owner .merge]

theorem interleaving_faithful_overlapping :
    let m := run (overlapping ++ [.advance .owner])
    m.holder = some (.worker 2) ∧ m.place .owner = .mergeReturn .done 0 ∧
      (⟨0, .worker 1, 7⟩ ∈ m.log.entries ∨ ⟨0, .worker 1, 7⟩ ∈ (run overlapping).released) :=
  ⟨by decide, by decide, (interleaving_faithful overlapping).2.2 .done [.advance .owner] 0
    (by decide) (by decide) (by decide) ⟨0, .worker 1, 7⟩ (by decide)⟩

/-- Between a send and the next merge the owner may clear. -/
theorem sent_may_be_released :
    ¬ ∀ (schedule more : List (LogAction Nat)) (after : AfterMerge Nat) (moved : Nat),
      (run schedule).place .owner = .mergeCheck after → MergesThrough schedule more →
        (run (schedule ++ more)).place .owner = .mergeReturn after moved →
          ∀ r ∈ (run schedule).sent, r ∈ (run (schedule ++ more)).log.entries := by
  intro h
  have hsent := h (workerSend 1 7 ++ .call .owner .clear :: .replicate 8 (.advance .owner) ++
    [.call .owner .merge]) [.advance .owner] .done 0 (by decide) (by decide) (by decide)
    ⟨0, .worker 1, 7⟩ (by decide)
  exact absurd hsent (by decide)

end LogMachine

end TraceView
