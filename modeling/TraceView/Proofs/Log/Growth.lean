import TraceView.Proofs.Log.Interleaving

namespace TraceView

variable {Entry : Type}

def LogAction.caller? : LogAction Entry → Option Writer
  | .call w _ => some w
  | .advance _ => none

namespace LogMachine

variable {m m' : LogMachine Entry} {v w : Writer}

def shown (m : LogMachine Entry) : List (Stamped Entry) :=
  m.released ++ m.handedBack ++ m.log.entries

theorem place_goto_self (m : LogMachine Entry) (w : Writer) (p : Place Entry) :
    (m.goto w p).place w = p :=
  setPlace_self m.place w p

theorem place_goto_ne (m : LogMachine Entry) (hne : v ≠ w) (p : Place Entry) :
    (m.goto w p).place v = m.place v :=
  setPlace_ne hne m.place p

theorem Sound.nodup_placed (h : Sound m) : m.placed.Nodup :=
  h.accounted.nodup_iff.mpr h.numbered.nodup

theorem Sound.nodup_shown (h : Sound m) : m.shown.Nodup :=
  h.nodup_placed.sublist (List.sublist_append_left _ m.log.pending)

structure Grows (m m' : LogMachine Entry) : Prop where
  shown : m.shown <+: m'.shown
  placed : m.placed.Sublist m'.placed
  sent : m.sent ⊆ m'.sent

theorem Grows.refl (m : LogMachine Entry) : Grows m m :=
  ⟨List.prefix_rfl, List.Sublist.refl _, List.Subset.refl _⟩

theorem Sound.grows_advance (h : Sound m) (w : Writer) : Grows m (m.advance w) := by
  have hrefl := Grows.refl m
  unfold LogMachine.advance
  cases hp : m.place w with
  | sendLock r | mergeLock after | mergeCheck after =>
    dsimp only
    split
    · exact ⟨hrefl.shown, hrefl.placed, hrefl.sent⟩
    · exact ⟨hrefl.shown, hrefl.placed, hrefl.sent⟩
  | sendPush r =>
    refine ⟨hrefl.shown, ?_, hrefl.sent⟩
    exact (List.sublist_append_left ..).append_left _
  | sendUnlock r => exact ⟨hrefl.shown, hrefl.placed, List.subset_append_left ..⟩
  | appendPush r =>
    refine ⟨?_, ?_, hrefl.sent⟩
    · exact (List.prefix_append_right_inj _).mpr (List.prefix_append ..)
    · exact ((List.sublist_append_left ..).append_left _).append_right _
  | mergeMove after =>
    refine ⟨?_, ?_, hrefl.sent⟩
    · exact (List.prefix_append_right_inj _).mpr (List.prefix_append ..)
    · simp [placed, LogMachine.goto, commit]
  | clearEntries =>
    obtain rfl := h.exclusive.owner_of hp rfl
    have hnone := h.handover.nil_of_sending hp rfl
    constructor <;> simp [shown, placed, LogMachine.goto, hnone]
  | shutdownTake => constructor <;> simp [shown, placed, LogMachine.goto]
  | _ => exact ⟨hrefl.shown, hrefl.placed, hrefl.sent⟩

theorem grows_begin (m : LogMachine Entry) (c : LogCall Entry) : Grows m (m.begin c) := by
  have hrefl := Grows.refl m
  cases c <;> exact ⟨hrefl.shown, hrefl.placed, hrefl.sent⟩

theorem grows_call (m : LogMachine Entry) (w : Writer) (c : LogCall Entry) : Grows m (m.call w c) := by
  have hrefl := Grows.refl m
  unfold call
  split
  case h_1 => exact ⟨hrefl.shown, hrefl.placed, hrefl.sent⟩
  case h_2 =>
    split
    · exact grows_begin m _
    · exact hrefl
  case h_3 => exact hrefl

theorem Sound.grows_step (h : Sound m) (a : LogAction Entry) : Grows m (m.step a) := by
  cases a with
  | call w c => exact grows_call m w c
  | advance w => exact h.grows_advance w

structure Present (m : LogMachine Entry) : Prop where
  stays : m.gone = false
  accepts : m.log.closed = false

theorem Present.advance (h : Present m) (hsound : Sound m) (w : Writer) : Present (m.advance w) := by
  unfold LogMachine.advance
  cases hp : m.place w with
  | sendLock r | mergeLock after | mergeCheck after =>
    dsimp only
    split <;> exact ⟨h.stays, h.accepts⟩
  | shutdownClose =>
    obtain rfl := hsound.exclusive.owner_of hp rfl
    have hgone := hsound.handover.leaving (by rw [hp]; rfl)
    simp [h.stays] at hgone
  | _ => exact ⟨h.stays, h.accepts⟩

theorem Present.begin (h : Present m) {c : LogCall Entry} (hc : c ≠ .shutdown) :
    Present (m.begin c) := by
  cases c with
  | shutdown => exact absurd rfl hc
  | _ => exact ⟨h.stays, h.accepts⟩

theorem Present.call (h : Present m) {c : LogCall Entry} (hc : w = .owner → c ≠ .shutdown) :
    Present (m.call w c) := by
  unfold LogMachine.call
  split
  case h_1 => exact ⟨h.stays, h.accepts⟩
  case h_2 =>
    split
    case isTrue howner => exact h.begin (hc howner.1)
    case isFalse => exact h
  case h_3 => exact h

theorem Present.step (h : Present m) (hsound : Sound m) {a : LogAction Entry}
    (ha : a ≠ .call .owner .shutdown) : Present (m.step a) := by
  cases a with
  | call w c => exact h.call fun howner hc => ha (by rw [howner, hc])
  | advance w => exact h.advance hsound w

theorem place_begin_ne (hne : v ≠ .owner) (c : LogCall Entry) :
    (m.begin c).place v = m.place v := by
  cases c with
  | send entry => rfl
  | _ => exact setPlace_ne hne ..

theorem place_call_ne (hne : v ≠ w) (c : LogCall Entry) : (m.call w c).place v = m.place v := by
  unfold call
  split
  case h_1 => exact setPlace_ne hne ..
  case h_2 =>
    split
    case isTrue howner =>
      obtain ⟨rfl, -⟩ := howner
      exact place_begin_ne hne _
    case isFalse => rfl
  case h_3 => rfl

theorem place_advance_ne (hne : v ≠ w) : (m.advance w).place v = m.place v := by
  unfold advance
  split <;> (try split) <;> first | rfl | exact setPlace_ne hne ..

theorem call_of_ne_idle (h : m.place w ≠ .idle) (c : LogCall Entry) : m.call w c = m := by
  unfold call
  split
  case h_1 hp | h_2 hp _ => exact absurd hp h
  case h_3 => rfl

theorem place_idle_step (h : m.place w = .idle) {a : LogAction Entry} (ha : a.caller? ≠ some w) :
    (m.step a).place w = .idle := by
  cases a with
  | call v c =>
    have hne : w ≠ v := fun heq => ha (congrArg some heq.symm)
    exact (place_call_ne hne c).trans h
  | advance v =>
    cases eq_or_ne w v with
    | inl heq =>
      subst heq
      rw [step, advance, h]
      exact h
    | inr hne => exact (place_advance_ne hne).trans h

theorem place_step_of_busy (h : m.place w ≠ .idle) {a : LogAction Entry}
    (ha : a ≠ .advance w) : (m.step a).place w = m.place w := by
  cases a with
  | call v c =>
    cases eq_or_ne w v with
    | inl heq =>
      subst heq
      rw [step, call_of_ne_idle h]
    | inr hne => exact place_call_ne hne c
  | advance v => exact place_advance_ne fun heq => ha (congrArg _ heq.symm)

def Brought (m : LogMachine Entry) (r : Stamped Entry) : Prop :=
  r ∈ m.pushed ∨ ∃ w, (m.place w).record? = some r

namespace Brought

variable {r : Stamped Entry}

theorem of_goto {p : Place Entry} (h : Brought (m'.goto w p) r) (hplace : m'.place = m.place) :
    r ∈ m'.pushed ∨ p.record? = some r ∨ ∃ v, (m.place v).record? = some r := by
  refine h.imp_right fun ⟨v, hr⟩ => ?_
  cases eq_or_ne v w with
  | inl heq =>
    subst heq
    rw [place_goto_self] at hr
    exact .inl hr
  | inr hne =>
    rw [place_goto_ne _ hne, hplace] at hr
    exact .inr ⟨v, hr⟩

theorem of_move {p q : Place Entry} (h : Brought (m'.goto w p) r) (hplace : m'.place = m.place)
    (hq : m.place w = q) (hrecord : p.record? = some r → q.record? = some r)
    (hpushed : r ∈ m'.pushed → r ∈ m.pushed ∨ q.record? = some r) : Brought m r := by
  subst hq
  obtain hr | hr | hr := h.of_goto hplace
  · exact (hpushed hr).imp_right fun hr => ⟨w, hr⟩
  · exact .inr ⟨w, hrecord hr⟩
  · exact .inr hr

theorem mem_push {r' : Stamped Entry} {q : Place Entry} (hq : q.record? = some r')
    (hr : r ∈ m.pushed ++ [r']) : r ∈ m.pushed ∨ q.record? = some r := by
  rw [hq, Option.some.injEq]
  simpa [eq_comm] using hr

theorem of_advance (h : Brought (m.advance w) r) : Brought m r := by
  unfold LogMachine.advance at h
  cases hp : m.place w with
  | idle =>
    rw [hp] at h
    exact h
  | sendCheck r' =>
    simp only [hp] at h
    refine h.of_move rfl hp (fun hr => ?_) .inl
    split at hr
    · cases hr
    · exact hr
  | sendPush r' =>
    simp only [hp] at h
    refine h.of_move rfl hp (fun hr => ?_) (mem_push rfl)
    split at hr <;> exact hr
  | appendCheck r' =>
    simp only [hp] at h
    refine h.of_move rfl hp (fun hr => ?_) .inl
    split at hr <;> exact hr
  | appendPush r' =>
    simp only [hp] at h
    exact h.of_move rfl hp nofun (mem_push rfl)
  | sendLock r' | mergeLock after | mergeCheck after =>
    simp only [hp] at h
    split at h
    · exact h.of_move rfl hp id .inl
    · first | exact h | exact h.of_move rfl hp id .inl
  | mergeReturn after moved =>
    simp only [hp] at h
    refine h.of_move rfl hp (fun hr => ?_) .inl
    cases after <;> exact hr
  | sendUnlock r' | clearEntries | shutdownTake =>
    simp only [hp] at h
    exact h.of_move rfl hp nofun .inl
  | _ =>
    simp only [hp] at h
    exact h.of_move rfl hp id .inl

theorem of_start {p : Place Entry} {calls : Nat} {gone : Bool}
    (h : Brought ({ m with calls, gone }.goto w p) r) : Brought m r ∨ p.record? = some r := by
  obtain hr | hr | hr := h.of_goto rfl
  · exact .inl (.inl hr)
  · exact .inr hr
  · exact .inl (.inr hr)

theorem of_begin {c : LogCall Entry} (h : Brought (m.begin c) r) :
    Brought m r ∨ ∃ entry, r = ⟨m.calls, .owner, entry⟩ ∧ c = .append entry := by
  cases c with
  | send entry => exact .inl h
  | append entry =>
    exact h.of_start.imp_right fun hr => ⟨entry, (Option.some.inj hr).symm, rfl⟩
  | merge => exact h.of_start.imp_right nofun
  | clear => exact h.of_start.imp_right nofun
  | shutdown => exact h.of_start.imp_right nofun

theorem of_call {c : LogCall Entry} (h : Brought (m.call w c) r) :
    Brought m r ∨ ∃ entry, r = ⟨m.calls, w, entry⟩ ∧ (c = .send entry ∨ c = .append entry) := by
  unfold LogMachine.call at h
  split at h
  case h_1 entry hp =>
    exact h.of_start.imp_right fun hr => ⟨entry, (Option.some.inj hr).symm, .inl rfl⟩
  case h_2 =>
    split at h
    case isTrue howner =>
      obtain ⟨rfl, -⟩ := howner
      exact h.of_begin.imp_right fun ⟨entry, hr, hc⟩ => ⟨entry, hr, .inr hc⟩
    case isFalse => exact .inl h
  case h_3 => exact .inl h

theorem of_step {a : LogAction Entry} (h : Brought (m.step a) r) :
    Brought m r ∨ a.caller? = some r.writer := by
  cases a with
  | call w c => exact h.of_call.imp_right fun ⟨_, hr, _⟩ => by rw [hr]; rfl
  | advance w => exact .inl h.of_advance

end Brought

end LogMachine

end TraceView
