import TraceView.Log.Threads
import Mathlib.Logic.Basic
import Mathlib.Tactic.ByContra

namespace TraceView

variable {Entry : Type}

namespace AfterMerge

def record? : AfterMerge Entry → Option (Stamped Entry)
  | .append r => some r
  | _ => none

def clears : AfterMerge Entry → Bool
  | .clear => true
  | _ => false

end AfterMerge

namespace Place

def inside : Place Entry → Bool
  | .sendPush _ | .sendFlag _ | .sendPublish _ | .sendUnlock _ => true
  | .mergeMove _ | .mergePublish .. | .mergeFlag .. | .mergeUnlock .. => true
  | _ => false

def ofWorker : Place Entry → Bool
  | .idle | .sendCheck _ | .sendLock _ | .sendPush _ | .sendPublish _ | .sendUnlock _ => true
  | _ => false

def record? : Place Entry → Option (Stamped Entry)
  | .sendCheck r | .sendLock r | .sendPush r | .sendFlag r | .sendPublish r | .sendUnlock r => some r
  | .appendCheck r | .appendPush r => some r
  | .mergeCheck after | .mergeLock after | .mergeMove after => after.record?
  | .mergePublish after _ | .mergeFlag after _ => after.record?
  | .mergeUnlock after _ | .mergeReturn after _ => after.record?
  | _ => none

def hasPushed : Place Entry → Bool
  | .sendFlag _ | .sendPublish _ | .sendUnlock _ => true
  | _ => false

def sending : Place Entry → Bool
  | .idle | .sendCheck _ | .sendLock _ | .sendPush _ => true
  | .sendFlag _ | .sendPublish _ | .sendUnlock _ => true
  | _ => false

/-- The clear has taken effect, though the entries are still there. -/
def clearing : Place Entry → Bool
  | .mergePublish after _ | .mergeFlag after _ => after.clears
  | .mergeUnlock after _ | .mergeReturn after _ => after.clears
  | .clearEntries => true
  | _ => false

def merged : Place Entry → Bool
  | .mergePublish .. | .mergeFlag .. | .mergeUnlock .. | .mergeReturn .. | .appendPush _ => true
  | _ => false

def leaving : Place Entry → Bool
  | .shutdownClose | .shutdownTake => true
  | _ => false

end Place

namespace LogMachine

theorem setPlace_self (place : Writer → Place Entry) (w : Writer) (p : Place Entry) :
    setPlace place w p w = p := by
  simp [setPlace]

theorem setPlace_ne {v w : Writer} (h : v ≠ w) (place : Writer → Place Entry) (p : Place Entry) :
    setPlace place w p v = place v := by
  simp [setPlace, h]

theorem forall_setPlace {P : Writer → Place Entry → Prop} {place : Writer → Place Entry} {w : Writer}
    {p : Place Entry} (hp : P w p) (hplace : ∀ v, v ≠ w → P v (place v)) (v : Writer) :
    P v (setPlace place w p v) := by
  cases eq_or_ne v w with
  | inl heq =>
    subst heq
    rwa [setPlace_self]
  | inr hne =>
    rw [setPlace_ne hne]
    exact hplace v hne

theorem apply_setPlace {α : Type} (f : Place Entry → α) {place : Writer → Place Entry} {w : Writer}
    {p : Place Entry} (h : f p = f (place w)) (v : Writer) :
    f (setPlace place w p v) = f (place v) := by
  cases eq_or_ne v w with
  | inl heq =>
    subst heq
    rw [setPlace_self, h]
  | inr hne => rw [setPlace_ne hne]

/-- Who is in the guarded section holds the mutex; a worker only sends. -/
structure Allowed (holder : Option Writer) (w : Writer) (p : Place Entry) : Prop where
  inside_iff : p.inside = true ↔ holder = some w
  worker : w ≠ .owner → p.ofWorker = true

theorem allowed_some_iff {v w : Writer} (hne : v ≠ w) {p : Place Entry} :
    Allowed (some w) v p ↔ Allowed none v p := by
  have hholder : some w = some v ↔ none = some v := by simp [hne.symm]
  constructor
  · exact fun h => ⟨h.inside_iff.trans hholder, h.worker⟩
  · exact fun h => ⟨h.inside_iff.trans hholder.symm, h.worker⟩

def Exclusive (place : Writer → Place Entry) (holder : Option Writer) : Prop :=
  ∀ w, Allowed holder w (place w)

namespace Exclusive

variable {place : Writer → Place Entry} {holder : Option Writer} {w : Writer} {p q : Place Entry}

theorem nil : Exclusive (fun _ => .idle : Writer → Place Entry) none := by
  intro w
  constructor <;> simp [Place.inside, Place.ofWorker]

theorem owner_of (h : Exclusive place holder) (hq : place w = q) (hworker : q.ofWorker = false) :
    w = .owner := by
  by_contra hne
  simp [← hq, (h w).worker hne] at hworker

theorem held (h : Exclusive place holder) (hq : place w = q) (hin : q.inside = true) :
    holder = some w :=
  (h w).inside_iff.mp (hq ▸ hin)

theorem outside (h : Exclusive place holder) (hq : place w = q) (hout : q.inside = false) :
    holder ≠ some w := by
  rw [ne_eq, ← (h w).inside_iff, hq, hout]
  simp

theorem goto (h : Exclusive place holder) (hq : place w = q) (hin : p.inside = q.inside)
    (hp : w ≠ .owner → p.ofWorker = true) : Exclusive (setPlace place w p) holder := by
  apply forall_setPlace
  · exact ⟨by rw [hin, ← hq, (h w).inside_iff], hp⟩
  · exact fun v _ => h v

theorem lock (h : Exclusive place none) (hin : p.inside = true)
    (hp : w ≠ .owner → p.ofWorker = true) : Exclusive (setPlace place w p) (some w) := by
  apply forall_setPlace
  · exact ⟨by simp [hin], hp⟩
  · exact fun v hne => (allowed_some_iff hne).mpr (h v)

theorem unlock (h : Exclusive place (some w)) (hin : p.inside = false)
    (hp : w ≠ .owner → p.ofWorker = true) : Exclusive (setPlace place w p) none := by
  apply forall_setPlace
  · exact ⟨by simp [hin], hp⟩
  · exact fun v hne => (allowed_some_iff hne).mp (h v)

end Exclusive

structure Carried (calls : Nat) (pushed sent : List (Stamped Entry)) (w : Writer) (p : Place Entry)
    (r : Stamped Entry) : Prop where
  writer : r.writer = w
  serial_lt : r.serial < calls
  not_sent : r ∉ sent
  pushed_iff : r ∈ pushed ↔ p.hasPushed = true

def Carries (calls : Nat) (pushed sent : List (Stamped Entry)) (w : Writer) (p : Place Entry) :
    Prop :=
  ∀ r, p.record? = some r → Carried calls pushed sent w p r

structure Numbered (place : Writer → Place Entry) (calls : Nat)
    (pushed sent : List (Stamped Entry)) : Prop where
  carried : ∀ w, Carries calls pushed sent w (place w)
  serial_lt : ∀ r ∈ pushed, r.serial < calls
  nodup : pushed.Nodup
  sent_subset : sent ⊆ pushed

namespace Numbered

variable {place : Writer → Place Entry} {calls : Nat} {pushed sent : List (Stamped Entry)}
  {w : Writer} {p q : Place Entry} {r : Stamped Entry}

theorem nil : Numbered (fun _ => .idle : Writer → Place Entry) 0 [] [] := by
  constructor <;> simp [Carries, Place.record?]

theorem goto (h : Numbered place calls pushed sent) (hq : place w = q)
    (hp : ∀ r, p.record? = some r → q.record? = some r ∧ p.hasPushed = q.hasPushed) :
    Numbered (setPlace place w p) calls pushed sent where
  carried := by
    apply forall_setPlace
    · intro r hr
      obtain ⟨hrecord, hpushed⟩ := hp r hr
      subst hq
      have hcarried := h.carried w r hrecord
      exact { hcarried with pushed_iff := hpushed ▸ hcarried.pushed_iff }
    · exact fun v _ => h.carried v
  serial_lt := h.serial_lt
  nodup := h.nodup
  sent_subset := h.sent_subset

theorem call (h : Numbered place calls pushed sent) (hp : p.record? = some ⟨calls, w, entry⟩)
    (hpushed : p.hasPushed = false) : Numbered (setPlace place w p) (calls + 1) pushed sent where
  carried := by
    have hnew : ⟨calls, w, entry⟩ ∉ pushed := fun hr => Nat.lt_irrefl _ (h.serial_lt _ hr)
    apply forall_setPlace
    · intro r hr
      rw [hp] at hr
      cases hr
      exact
        { writer := rfl
          serial_lt := Nat.lt_succ_self calls
          not_sent := fun hsent => hnew (h.sent_subset hsent)
          pushed_iff := by simp [hnew, hpushed] }
    · intro v _ r hr
      have hcarried := h.carried v r hr
      exact { hcarried with serial_lt := Nat.lt_succ_of_lt hcarried.serial_lt }
  serial_lt r hr := Nat.lt_succ_of_lt (h.serial_lt r hr)
  nodup := h.nodup
  sent_subset := h.sent_subset

theorem ne_of_ne (h : Numbered place calls pushed sent) {v : Writer} {r' : Stamped Entry}
    (hne : v ≠ w) (hr' : (place v).record? = some r') (hr : (place w).record? = some r) :
    r' ≠ r := by
  intro heq
  subst heq
  exact hne ((h.carried v _ hr').writer.symm.trans (h.carried w _ hr).writer)

theorem push (h : Numbered place calls pushed sent) (hq : place w = q) (hw : q.record? = some r)
    (hbefore : q.hasPushed = false)
    (hp : ∀ r', p.record? = some r' → r' = r ∧ p.hasPushed = true) :
    Numbered (setPlace place w p) calls (pushed ++ [r]) sent := by
  subst hq
  have hcarried := h.carried w r hw
  have hnot : r ∉ pushed := by simp [hcarried.pushed_iff, hbefore]
  constructor
  case carried =>
    apply forall_setPlace
    · intro r' hr'
      obtain ⟨heq, hafter⟩ := hp r' hr'
      subst heq
      exact { hcarried with pushed_iff := by simp [hafter] }
    · intro v hne r' hr'
      have hother := h.carried v r' hr'
      refine { hother with pushed_iff := ?_ }
      rw [← hother.pushed_iff, List.mem_append, List.mem_singleton]
      exact or_iff_left (h.ne_of_ne hne hr' hw)
  case serial_lt =>
    intro r' hr'
    cases List.mem_append.mp hr' with
    | inl hr' => exact h.serial_lt r' hr'
    | inr hr' => exact List.mem_singleton.mp hr' ▸ hcarried.serial_lt
  case nodup =>
    rw [List.nodup_append]
    refine ⟨h.nodup, by simp, fun r' hr' r'' hr'' heq => hnot ?_⟩
    rwa [← List.mem_singleton.mp hr'', ← heq]
  case sent_subset => exact fun r' hr' => List.mem_append_left _ (h.sent_subset hr')

theorem finish (h : Numbered place calls pushed sent) (hq : place w = q) (hw : q.record? = some r)
    (hpushed : q.hasPushed = true) (hp : p.record? = none) :
    Numbered (setPlace place w p) calls pushed (sent ++ [r]) := by
  subst hq
  constructor
  case carried =>
    apply forall_setPlace
    · intro r' hr'
      simp [hp] at hr'
    · intro v hne r' hr'
      have hother := h.carried v r' hr'
      refine { hother with not_sent := fun hsent => ?_ }
      cases List.mem_append.mp hsent with
      | inl hsent => exact hother.not_sent hsent
      | inr hsent => exact h.ne_of_ne hne hr' hw (List.mem_singleton.mp hsent)
  case serial_lt => exact h.serial_lt
  case nodup => exact h.nodup
  case sent_subset =>
    intro r' hr'
    cases List.mem_append.mp hr' with
    | inl hr' => exact h.sent_subset hr'
    | inr hr' => exact List.mem_singleton.mp hr' ▸ (h.carried w r hw).pushed_iff.mpr hpushed

end Numbered

/-- Entries are given back only by an owner that is gone, and that then at most sends. -/
structure Handover (place : Writer → Place Entry) (gone : Bool)
    (handedBack : List (Stamped Entry)) : Prop where
  leaving : (place .owner).leaving = true → gone = true
  kept : handedBack ≠ [] → gone = true ∧ (place .owner).sending = true

namespace Handover

variable {place : Writer → Place Entry} {gone : Bool} {handedBack : List (Stamped Entry)}
  {w : Writer} {p q : Place Entry}

theorem goto (h : Handover place gone handedBack) (hq : place w = q) (hleave : p.leaving = q.leaving)
    (hsend : q.sending = true → p.sending = true) :
    Handover (setPlace place w p) gone handedBack where
  leaving := by
    rw [apply_setPlace Place.leaving (hq ▸ hleave)]
    exact h.leaving
  kept hne := by
    obtain ⟨hgone, howner⟩ := h.kept hne
    cases eq_or_ne Writer.owner w with
    | inl heq =>
      subst heq
      rw [setPlace_self]
      exact ⟨hgone, hsend (hq ▸ howner)⟩
    | inr hw =>
      rw [setPlace_ne hw]
      exact ⟨hgone, howner⟩

theorem nil_of_present (h : Handover place false handedBack) : handedBack = [] := by
  by_contra hne
  have hgone := (h.kept hne).1
  contradiction

theorem nil_of_sending (h : Handover place gone handedBack) (hq : place .owner = q)
    (hsend : q.sending = false) : handedBack = [] := by
  by_contra hne
  have hsending := (h.kept hne).2
  simp [hq, hsend] at hsending

theorem begin (h : Handover place false handedBack) (hleave : p.leaving = true → gone = true) :
    Handover (setPlace place .owner p) gone handedBack where
  leaving := by
    rw [setPlace_self]
    exact hleave
  kept hne := absurd h.nil_of_present hne

theorem leave (h : Handover place gone handedBack) (hq : place .owner = q)
    (hleave : q.leaving = true) (hsend : p.sending = true) (taken : List (Stamped Entry)) :
    Handover (setPlace place .owner p) gone (handedBack ++ taken) where
  leaving _ := h.leaving (hq ▸ hleave)
  kept _ := by
    rw [setPlace_self]
    exact ⟨h.leaving (hq ▸ hleave), hsend⟩

end Handover

end LogMachine

end TraceView
