import TraceView.Proofs.Log.Growth

namespace TraceView

variable {Entry : Type}

namespace Place

def sent? : Place Entry → Option (Stamped Entry)
  | .sendCheck r | .sendLock r | .sendPush r | .sendFlag r | .sendPublish r | .sendUnlock r => some r
  | _ => none

def coming : Place Entry → List (Stamped Entry)
  | .sendCheck r | .sendLock r | .sendPush r => [r]
  | _ => []

theorem coming_of_sent? {p : Place Entry} (h : p.sent? = none) : p.coming = [] := by
  cases p <;> first | rfl | cases h

def after? : Place Entry → Option (AfterMerge Entry)
  | .mergeCheck after | .mergeLock after | .mergeMove after => some after
  | .mergePublish after _ | .mergeFlag after _ => some after
  | .mergeUnlock after _ | .mergeReturn after _ => some after
  | _ => none

theorem inMerge_of_after? {p : Place Entry} {after : AfterMerge Entry} (h : p.after? = some after) :
    p.inMerge = true := by
  cases p <;> first | rfl | cases h

end Place

namespace LogMachine

variable {m m' : LogMachine Entry} {w : Writer} {rs : List (Stamped Entry)}

structure Settled (m : LogMachine Entry) (rs : List (Stamped Entry)) : Prop where
  order : rs.Sublist m.placed
  sent : rs ⊆ m.sent

theorem Settled.mono (h : Settled m rs) (hm : Grows m m') : Settled m' rs :=
  ⟨h.order.trans hm.placed, List.Subset.trans h.sent hm.sent⟩

/-- Sends one after another, the last of which a thread may still be at. -/
structure Tracked (m : LogMachine Entry) (w : Writer) (rs : List (Stamped Entry)) : Prop where
  order : rs.Sublist (m.placed ++ (m.place w).coming)
  sent : ∀ r ∈ rs, r ∈ m.sent ∨ (m.place w).sent? = some r

theorem Settled.tracked (h : Settled m rs) (w : Writer) : Tracked m w rs where
  order := h.order.trans (List.sublist_append_left ..)
  sent _ hr := .inl (h.sent hr)

theorem Settled.send (h : Settled m rs) (hp : m.place w = .idle) (entry : Entry) :
    Tracked (m.call w (.send entry)) w (rs ++ [⟨m.calls, w, entry⟩]) := by
  have hgrown := h.mono (grows_call m w (.send entry))
  have hplace : (m.call w (.send entry)).place w = .sendCheck ⟨m.calls, w, entry⟩ := by
    simp only [call, hp]
    exact place_goto_self ..
  constructor
  case order =>
    rw [hplace]
    exact hgrown.order.append_right _
  case sent =>
    intro r hr
    rw [hplace]
    cases List.mem_append.mp hr with
    | inl hr => exact .inl (hgrown.sent hr)
    | inr hr => exact .inr (congrArg some (List.mem_singleton.mp hr).symm)

namespace Tracked

theorem settled (h : Tracked m w rs) (hp : (m.place w).sent? = none) : Settled m rs where
  order := by
    have horder := h.order
    rwa [Place.coming_of_sent? hp, List.append_nil] at horder
  sent r hr := (h.sent r hr).resolve_right (by simp [hp])

theorem mono (h : Tracked m w rs) (hm : Grows m m') (hp : m'.place w = m.place w) :
    Tracked m' w rs where
  order := by
    rw [hp]
    exact h.order.trans (hm.placed.append_right _)
  sent r hr := by
    rw [hp]
    exact (h.sent r hr).imp_left (@hm.sent r)

theorem goto (h : Tracked m w rs) {p q : Place Entry} (hq : m.place w = q)
    (hcoming : (m.placed ++ q.coming).Sublist (m'.placed ++ p.coming)) (hm : m.sent ⊆ m'.sent)
    (hsent : ∀ r, q.sent? = some r → r ∈ m'.sent ∨ p.sent? = some r) : Tracked (m'.goto w p) w rs := by
  subst hq
  constructor
  case order =>
    rw [place_goto_self]
    exact h.order.trans hcoming
  case sent =>
    intro r hr
    rw [place_goto_self]
    exact (h.sent r hr).elim (fun hr => .inl (hm hr)) (hsent r)

theorem advance_sending (h : Tracked m w rs) (hpresent : Present m) {r : Stamped Entry}
    (hr : (m.place w).sent? = some r) : Tracked (m.advance w) w rs := by
  have hplaced := List.Sublist.refl m.placed
  have hsent := List.Subset.refl m.sent
  unfold LogMachine.advance
  cases hp : m.place w with
  | sendCheck r =>
    dsimp only
    rw [hpresent.accepts]
    exact h.goto hp (hplaced.append_right _) hsent fun _ => .inr
  | sendLock r =>
    dsimp only
    split
    · exact h.goto hp (hplaced.append_right _) hsent fun _ => .inr
    · exact h
  | sendPush r =>
    dsimp only
    have hpush : m.placed ++ [r] = m.released ++ m.handedBack ++ m.log.entries ++
        (m.log.pending ++ [r]) := List.append_assoc ..
    split
    · exact h.goto hp (hpush ▸ List.sublist_append_left ..) hsent fun _ => .inr
    · exact h.goto hp (hpush ▸ List.sublist_append_left ..) hsent fun _ => .inr
  | sendFlag r => exact h.goto hp (hplaced.append_right _) hsent fun _ => .inr
  | sendPublish r => exact h.goto hp (hplaced.append_right _) hsent fun _ => .inr
  | sendUnlock r =>
    refine h.goto hp (hplaced.append_right _) (List.subset_append_left ..) fun r' hr' => .inl ?_
    obtain rfl := Option.some.inj hr'
    exact List.mem_append_right _ (List.mem_singleton_self r)
  | _ => simp [hp, Place.sent?] at hr

theorem step (h : Tracked m w rs) (hsound : Sound m) (hpresent : Present m) (a : LogAction Entry) :
    Tracked (m.step a) w rs := by
  have hm := hsound.grows_step a
  cases hs : (m.place w).sent? with
  | none => exact ((h.settled hs).mono hm).tracked w
  | some r =>
    by_cases ha : a = .advance w
    · subst ha
      exact h.advance_sending hpresent hs
    · have hbusy : m.place w ≠ .idle := fun hidle => by simp [hidle, Place.sent?] at hs
      exact h.mono hm (place_step_of_busy hbusy ha)

end Tracked

/-- The owner is in a merge that catches all of the sends, or they have come to the entries before. -/
def Gathers (m : LogMachine Entry) (rs : List (Stamped Entry)) : Prop :=
  (m.place .owner).after? = some .done ∧ Catching rs m.released m ∨ rs ⊆ m.shown

namespace Catching

theorem weaken {records released : List (Stamped Entry)} (h : Catching records released m)
    (hrs : rs ⊆ records) : Catching rs released m where
  released_eq := h.released_eq
  sent := List.Subset.trans hrs h.sent
  caught r hr := h.caught r (hrs hr)

theorem subset_shown (h : Catching rs m.released m) {q : Place Entry} (hq : m.place .owner = q)
    (hmerged : q.merged = true) : rs ⊆ m.shown := by
  intro r hr
  simp only [shown, List.mem_append]
  cases h.of_merged hq hmerged r hr with
  | inl hr => exact .inl (.inl hr)
  | inr hr => exact .inr hr

end Catching

theorem after?_goto {p : Place Entry} {after : AfterMerge Entry} (h : p.after? = some after) :
    ((m.goto .owner p).place .owner).after? = some after := by
  rwa [place_goto_self]

theorem after?_advance {after : AfterMerge Entry} (h : (m.place .owner).after? = some after)
    (hreturn : ∀ moved, m.place .owner ≠ .mergeReturn after moved) :
    ((m.advance .owner).place .owner).after? = some after := by
  unfold advance
  cases hp : m.place .owner with
  | mergeCheck after' =>
    rw [hp] at h
    dsimp only
    split
    · exact after?_goto h
    · exact after?_goto h
  | mergeLock after' =>
    dsimp only
    split
    · rw [hp] at h
      exact after?_goto h
    · exact h
  | mergeMove after' | mergePublish after' moved | mergeFlag after' moved | mergeUnlock after' moved =>
    rw [hp] at h
    exact after?_goto h
  | mergeReturn after' moved =>
    rw [hp] at h
    exact absurd (Option.some.inj h ▸ hp) (hreturn moved)
  | _ => simp [hp, Place.after?] at h

namespace Gathers

theorem start (h : Settled m rs) (hsound : Sound m) (hpresent : Present m)
    (hp : m.place .owner = .idle) : Gathers (m.call .owner .merge) rs := by
  have hcall : m.call .owner .merge = m.goto .owner (.mergeCheck .done) := by
    simp only [call, hp, hpresent.stays]
    rfl
  have hplace : (m.call .owner .merge).place .owner = .mergeCheck .done := by
    rw [hcall, place_goto_self]
  have hcatching := Catching.start (hsound.call .owner .merge) hplace
  exact .inl ⟨by rw [hplace]; rfl, hcatching.weaken (h.mono (grows_call m .owner .merge)).sent⟩

theorem step (h : Gathers m rs) (hsound : Sound m) (a : LogAction Entry) : Gathers (m.step a) rs := by
  have hgrown := (hsound.grows_step a).shown.subset
  cases h with
  | inr hshown => exact .inr (List.Subset.trans hshown hgrown)
  | inl hmerge =>
    obtain ⟨hafter, hcatching⟩ := hmerge
    by_cases hreturn : ∃ moved, m.place .owner = .mergeReturn .done moved
    · obtain ⟨moved, hreturn⟩ := hreturn
      exact .inr (List.Subset.trans (hcatching.subset_shown hreturn rfl) hgrown)
    · have hin := Place.inMerge_of_after? hafter
      have hstep := hcatching.step hsound hin a
      refine .inl ⟨?_, hstep.released_eq ▸ hstep⟩
      by_cases ha : a = .advance .owner
      · subst ha
        exact after?_advance hafter fun moved hp => hreturn ⟨moved, hp⟩
      · have hbusy : m.place .owner ≠ .idle := fun hidle => by simp [hidle, Place.after?] at hafter
        rw [place_step_of_busy hbusy ha]
        exact hafter

theorem sublist_shown (h : Gathers m rs) (hsound : Sound m) (hsettled : Settled m rs)
    (hp : m.place .owner = .idle) : rs.Sublist m.shown := by
  have hshown : rs ⊆ m.shown := h.resolve_left fun hmerge => by simp [hp, Place.after?] at hmerge
  have hdisjoint := (List.nodup_append.mp hsound.nodup_placed).2.2
  -- None of them is pending, as each has come to the entries.
  obtain ⟨front, back, rfl, hfront, hback⟩ := List.sublist_append_iff.mp hsettled.order
  have hnil : back = [] := by
    refine List.eq_nil_iff_forall_not_mem.mpr fun r hr => ?_
    exact hdisjoint r (hshown (List.mem_append_right _ hr)) r (hback.subset hr) rfl
  rwa [hnil, List.append_nil]

end Gathers

end LogMachine

end TraceView
