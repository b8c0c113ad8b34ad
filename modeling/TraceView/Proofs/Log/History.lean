import TraceView.Log.History
import Mathlib.Data.List.Induction

namespace TraceView

variable {Entry Other : Type}

theorem pairwise_concat {R : Entry → Entry → Prop} {as : List Entry} {a : Entry} :
    (as ++ [a]).Pairwise R ↔ as.Pairwise R ∧ ∀ b ∈ as, R b a := by
  simp [List.pairwise_append]

namespace Log

theorem merge_map (f : Entry → Other) (l : Log Entry) :
    (l.map f).merge = (l.merge.1, l.merge.2.map f) := by
  by_cases h : l.pendingSize = 0 <;> simp [merge, map, h]

theorem append_map (f : Entry → Other) (l : Log Entry) (entry : Entry) :
    (l.map f).append (f entry) = (l.append entry).map f := by
  have howner : (l.map f).ownerPending = l.ownerPending := rfl
  by_cases h : l.ownerPending = true
  · simp only [append, howner, h, if_true, merge_map]
    simp [map]
  · simp only [append, howner, h]
    simp [map]

theorem send_map (f : Entry → Other) (l : Log Entry) (writer : Writer) (entry : Entry) :
    (l.map f).send writer (f entry) = (l.send writer entry).map f := by
  have hclosed : (l.map f).closed = l.closed := rfl
  by_cases h : l.closed = true
  · simp only [send, hclosed, h, if_true]
  · simp only [send, hclosed, h]
    simp [map]

theorem step_map (f : Entry → Other) (l : Log Entry) (s : LogStep Entry) :
    (l.map f).step (s.map f) = (l.step s).map f := by
  cases s with
  | append entry => exact append_map f l entry
  | send writer entry => exact send_map f l writer entry
  | merge => exact congrArg Prod.snd (merge_map f l)
  | clear =>
    simp only [LogStep.map, step, clear, merge_map]
    rfl

theorem map_entry_recorded (steps : List (LogStep Entry)) :
    (recorded steps).map Stamped.entry = run steps := by
  induction steps using List.reverseRecOn with
  | nil => rfl
  | append_singleton steps s ih =>
    rw [recorded_concat, run_concat, ← ih, ← step_map, LogStep.map_entry_stamp]

def Kept (steps : List (LogStep Entry)) (r : Stamped Entry) : Prop :=
  (∃ s, steps[r.serial]? = some s ∧ s.record? r.serial = some r) ∧
    ∀ n, r.serial < n → steps[n]? ≠ some .clear

theorem not_kept_nil (r : Stamped Entry) : ¬ Kept [] r := by simp [Kept]

theorem Kept.serial_lt {steps : List (LogStep Entry)} {r : Stamped Entry} (h : Kept steps r) :
    r.serial < steps.length := by
  obtain ⟨⟨s, hs, _⟩, _⟩ := h
  exact (List.getElem?_eq_some_iff.mp hs).1

theorem serial_of_record? {s : LogStep Entry} {n : Nat} {r : Stamped Entry}
    (h : s.record? n = some r) : r.serial = n := by
  cases s <;> cases h <;> rfl

theorem kept_concat {steps : List (LogStep Entry)} {s : LogStep Entry} {r : Stamped Entry} :
    Kept (steps ++ [s]) r ↔
      Kept steps r ∧ s ≠ .clear ∨ s.record? steps.length = some r := by
  constructor
  · rintro ⟨⟨s', hs', hr⟩, hclear⟩
    by_cases hlt : r.serial < steps.length
    · rw [List.getElem?_append_left hlt] at hs'
      refine .inl ⟨⟨⟨s', hs', hr⟩, fun n hn hc => hclear n hn ?_⟩, fun hc => hclear _ hlt ?_⟩
      · rw [List.getElem?_append_left (List.getElem?_eq_some_iff.mp hc).1, hc]
      · simp [hc]
    · have hlen := (List.getElem?_eq_some_iff.mp hs').1
      rw [List.length_append, List.length_singleton] at hlen
      obtain hserial : r.serial = steps.length := by omega
      rw [hserial, List.getElem?_concat_length] at hs'
      cases hs'
      exact .inr (hserial ▸ hr)
  · rintro (⟨⟨⟨s', hs', hr⟩, hclear⟩, hs⟩ | hr)
    · refine ⟨⟨s', ?_, hr⟩, fun n hn hc => ?_⟩
      · rw [List.getElem?_append_left (List.getElem?_eq_some_iff.mp hs').1, hs']
      · cases Nat.lt_or_ge n steps.length with
        | inl hlt => exact hclear n hn (by rwa [List.getElem?_append_left hlt] at hc)
        | inr hle =>
          rw [List.getElem?_append_right hle] at hc
          obtain ⟨_, hc⟩ := List.getElem?_eq_some_iff.mp hc
          exact hs (by simpa using hc)
    · have hserial := serial_of_record? hr
      refine ⟨⟨s, ?_, hserial ▸ hr⟩, fun n hn hc => ?_⟩
      · rw [hserial, List.getElem?_concat_length]
      · have := (List.getElem?_eq_some_iff.mp hc).1
        rw [List.length_append, List.length_singleton] at this
        omega

theorem merge_shown (l : Log Entry) : l.merge.2.shown = l.shown := by
  unfold merge
  split
  · rfl
  · simp [shown]

theorem shown_append (l : Log Entry) (entry : Entry) :
    (l.append entry).shown.Perm (entry :: l.shown) := by
  have hmiddle (l : Log Entry) :
      (l.entries ++ [entry] ++ l.pending).Perm (entry :: (l.entries ++ l.pending)) := by
    rw [List.append_assoc]
    exact List.perm_middle
  unfold append
  split
  · rw [← merge_shown l]
    exact hmiddle l.merge.2
  · exact hmiddle l

/-- What the hint and the flag of an open log say is so. -/
structure Consistent (l : Log (Stamped Entry)) : Prop where
  closed : l.closed = false
  size : l.pendingSize = l.pending.length
  owner : l.ownerPending = true ↔ ∃ r ∈ l.pending, r.writer = .owner

namespace Consistent

variable {l : Log (Stamped Entry)}

theorem nil : Consistent ({} : Log (Stamped Entry)) := by
  constructor <;> simp

theorem ownerPending_of_nil (h : Consistent l) (hpending : l.pending = []) :
    l.ownerPending = false := by
  rw [← Bool.not_eq_true, h.owner, hpending]
  simp

theorem eq_of_nil (h : Consistent l) (hpending : l.pending = []) : l = { entries := l.entries } := by
  have hsize := h.size
  have howner := h.ownerPending_of_nil hpending
  have hclosed := h.closed
  obtain ⟨entries, pending, pendingSize, ownerPending, closed⟩ := l
  simp_all

theorem merge_eq (h : Consistent l) : l.merge = (l.pending.length,
    { l with entries := l.shown, pending := [], pendingSize := 0, ownerPending := false }) := by
  unfold Log.merge
  split
  case isFalse => rfl
  case isTrue hzero =>
    have hpending : l.pending = [] := List.length_eq_zero_iff.mp (h.size ▸ hzero)
    rw [h.eq_of_nil hpending]
    simp [shown]

theorem merge (h : Consistent l) : Consistent l.merge.2 := by
  rw [h.merge_eq]
  constructor
  · exact h.closed
  · rfl
  · simp

theorem clear_eq (h : Consistent l) : l.clear = {} := by
  rw [clear, h.merge_eq]
  simp [h.closed]

theorem send_eq (h : Consistent l) (writer : Writer) (r : Stamped Entry) :
    l.send writer r = { l with
      pending := l.pending ++ [r]
      pendingSize := l.pending.length + 1
      ownerPending := l.ownerPending || writer = .owner } := by
  simp [Log.send, h.closed]

theorem send (h : Consistent l) (r : Stamped Entry) : Consistent (l.send r.writer r) := by
  rw [h.send_eq]
  constructor
  · exact h.closed
  · simp
  · simp [h.owner, or_and_right, exists_or]

theorem withEntries (h : Consistent l) (entries : List (Stamped Entry)) :
    Consistent { l with entries } :=
  ⟨h.closed, h.size, h.owner⟩

end Consistent

structure Faithful (steps : List (LogStep Entry)) (l : Log (Stamped Entry)) : Prop
    extends Consistent l where
  kept : ∀ r, r ∈ l.shown ↔ Kept steps r
  callOrder : l.shown.Pairwise fun r r' => r.writer = r'.writer → r.serial < r'.serial
  pendingOrder : l.pending.Pairwise fun r r' => r.serial < r'.serial
  waiting : ∀ n, steps[n]? = some .merge → ∀ r ∈ l.pending, n < r.serial
  merged : ∀ n, steps[n]? = some .merge →
    l.shown.Pairwise fun r r' => r'.serial < n → r.serial < n

namespace Faithful

variable {steps : List (LogStep Entry)} {l : Log (Stamped Entry)}

theorem nil : Faithful ([] : List (LogStep Entry)) {} where
  toConsistent := .nil
  kept := by simp [shown, not_kept_nil]
  callOrder := .nil
  pendingOrder := .nil
  waiting := by simp
  merged := by simp

theorem serial_lt (h : Faithful steps l) {r : Stamped Entry} (hr : r ∈ l.shown) :
    r.serial < steps.length :=
  ((h.kept r).mp hr).serial_lt

theorem merge (h : Faithful steps l) : Faithful steps l.merge.2 where
  toConsistent := h.toConsistent.merge
  kept := by rw [merge_shown]; exact h.kept
  callOrder := by rw [merge_shown]; exact h.callOrder
  pendingOrder := by rw [h.merge_eq]; exact .nil
  waiting := by rw [h.merge_eq]; simp
  merged := by rw [merge_shown]; exact h.merged

theorem mergeAt_concat {s : LogStep Entry} {n : Nat} (h : (steps ++ [s])[n]? = some .merge) :
    steps[n]? = some .merge ∨ s = .merge ∧ n = steps.length := by
  cases Nat.lt_or_ge n steps.length with
  | inl hlt =>
    rw [List.getElem?_append_left hlt] at h
    exact .inl h
  | inr hle =>
    have hlen := (List.getElem?_eq_some_iff.mp h).1
    rw [List.length_append, List.length_singleton] at hlen
    obtain rfl : n = steps.length := by omega
    rw [List.getElem?_concat_length, Option.some_inj] at h
    exact .inr ⟨h, rfl⟩

theorem concat_merge (h : Faithful steps l) : Faithful (steps ++ [.merge]) l.merge.2 where
  toConsistent := h.toConsistent.merge
  kept r := by rw [h.merge.kept, kept_concat]; simp [LogStep.record?]
  callOrder := h.merge.callOrder
  pendingOrder := h.merge.pendingOrder
  waiting := by rw [h.merge_eq]; simp
  merged n hn := by
    obtain hn | ⟨_, rfl⟩ := mergeAt_concat hn
    · exact h.merge.merged n hn
    · exact List.pairwise_of_forall_mem_list fun r hr _ _ _ => h.merge.serial_lt hr

theorem concat_clear (h : Faithful steps l) : Faithful (steps ++ [.clear]) l.clear := by
  rw [h.clear_eq]
  exact
    { toConsistent := .nil
      kept := by simp [shown, kept_concat, LogStep.record?]
      callOrder := .nil
      pendingOrder := .nil
      waiting := by simp
      merged := by simp [shown] }

theorem concat_send (h : Faithful steps l) (writer : Writer) (entry : Entry) :
    Faithful (steps ++ [.send writer entry]) (l.send writer ⟨steps.length, writer, entry⟩) where
  toConsistent := h.toConsistent.send ⟨steps.length, writer, entry⟩
  kept r := by
    rw [h.send_eq, kept_concat, ← h.kept]
    simp [shown, LogStep.record?, eq_comm, or_assoc]
  callOrder := by
    rw [h.send_eq, shown, ← List.append_assoc, pairwise_concat]
    exact ⟨h.callOrder, fun r hr _ => h.serial_lt hr⟩
  pendingOrder := by
    rw [h.send_eq, pairwise_concat]
    exact ⟨h.pendingOrder, fun r hr => h.serial_lt (List.mem_append_right _ hr)⟩
  waiting n hn r hr := by
    rw [h.send_eq] at hr
    obtain hn | ⟨hs, _⟩ := mergeAt_concat hn
    · cases List.mem_append.mp hr with
      | inl hr => exact h.waiting n hn r hr
      | inr hr =>
        rw [List.mem_singleton.mp hr]
        exact (List.getElem?_eq_some_iff.mp hn).1
    · cases hs
  merged n hn := by
    obtain hn | ⟨hs, _⟩ := mergeAt_concat hn
    · rw [h.send_eq, shown, ← List.append_assoc, pairwise_concat]
      exact ⟨h.merged n hn, fun r hr hlt => Nat.lt_trans (h.serial_lt hr) hlt⟩
    · cases hs

/-- The owner's entry may pass pending ones, for none of them is the owner's or older than a merge. -/
theorem concat_push (h : Faithful steps l) (howner : l.ownerPending = false) (entry : Entry) :
    Faithful (steps ++ [.append entry])
      { l with entries := l.entries ++ [⟨steps.length, .owner, entry⟩] } where
  toConsistent := h.toConsistent.withEntries _
  kept r := by
    rw [kept_concat, ← h.kept]
    simp [shown, LogStep.record?, eq_comm, or_assoc, or_comm]
  callOrder := by
    have hothers : ∀ r ∈ l.pending, r.writer ≠ .owner := by
      intro r hr hw
      have := h.owner.mpr ⟨r, hr, hw⟩
      simp [howner] at this
    have hcall := h.callOrder
    rw [shown, List.pairwise_append] at hcall ⊢
    obtain ⟨hentries, hpending, hcross⟩ := hcall
    refine ⟨pairwise_concat.mpr ⟨hentries, fun r hr _ => ?_⟩, hpending, fun r hr r' hr' hw => ?_⟩
    · exact h.serial_lt (List.mem_append_left _ hr)
    · cases List.mem_append.mp hr with
      | inl hr => exact hcross r hr r' hr' hw
      | inr hr =>
        rw [List.mem_singleton.mp hr] at hw
        exact (hothers r' hr' hw.symm).elim
  pendingOrder := h.pendingOrder
  waiting n hn := by
    obtain hn | ⟨hs, _⟩ := mergeAt_concat hn
    · exact h.waiting n hn
    · cases hs
  merged n hn := by
    obtain hn | ⟨hs, _⟩ := mergeAt_concat hn
    case inr => cases hs
    have hmerged := h.merged n hn
    rw [shown, List.pairwise_append] at hmerged ⊢
    obtain ⟨hentries, hpending, hcross⟩ := hmerged
    refine ⟨pairwise_concat.mpr ⟨hentries, fun r hr hlt => ?_⟩, hpending,
      fun r hr r' hr' hlt => ?_⟩
    · exact Nat.lt_trans (h.serial_lt (List.mem_append_left _ hr)) hlt
    · exact absurd hlt (Nat.lt_asymm (h.waiting n hn r' hr'))

theorem concat_append (h : Faithful steps l) (entry : Entry) :
    Faithful (steps ++ [.append entry]) (l.append ⟨steps.length, .owner, entry⟩) := by
  rw [append]
  cases howner : l.ownerPending with
  | true =>
    refine h.merge.concat_push ?_ entry
    rw [h.merge_eq]
  | false => exact h.concat_push howner entry

theorem concat (h : Faithful steps l) (s : LogStep Entry) :
    Faithful (steps ++ [s]) (l.step (s.stamp steps.length)) := by
  cases s with
  | append entry => exact h.concat_append entry
  | send writer entry => exact h.concat_send writer entry
  | merge => exact h.concat_merge
  | clear => exact h.concat_clear

theorem nodup (h : Faithful steps l) : l.shown.Nodup :=
  h.callOrder.imp fun hlt heq => by
    subst heq
    exact Nat.lt_irrefl _ (hlt rfl)

end Faithful

theorem faithful_recorded (steps : List (LogStep Entry)) : Faithful steps (recorded steps) := by
  induction steps using List.reverseRecOn with
  | nil => exact .nil
  | append_singleton steps s ih =>
    rw [recorded_concat]
    exact ih.concat s

theorem run_merge (steps : List (LogStep Entry)) :
    (run steps).merge = ((run steps).pending.length, { run steps with
      entries := (run steps).shown, pending := [], pendingSize := 0, ownerPending := false }) := by
  rw [← map_entry_recorded, merge_map, (faithful_recorded steps).merge_eq]
  simp [map, shown]

theorem entries_prefix_merge (l : Log Entry) : l.entries <+: l.merge.2.entries := by
  unfold merge
  split
  · exact List.prefix_rfl
  · exact List.prefix_append _ _

theorem entries_prefix_step (l : Log Entry) {s : LogStep Entry} (hs : s ≠ .clear) :
    l.entries <+: (l.step s).entries := by
  cases s with
  | append entry =>
    simp only [step, append]
    split
    · exact (entries_prefix_merge l).trans (List.prefix_append _ _)
    · exact List.prefix_append _ _
  | send writer entry =>
    simp only [step, send]
    split <;> exact List.prefix_rfl
  | merge => exact entries_prefix_merge l
  | clear => exact (hs rfl).elim

theorem sends_closed {l : Log Entry} (h : l.closed = true) (sends : List (Writer × Entry)) :
    sends.foldl (fun l s => l.send s.1 s.2) l = l := by
  induction sends with
  | nil => rfl
  | cons s sends ih => rw [List.foldl_cons, send, if_pos h, ih]

/-- After any history: (a) all that was appended since the last clear is there, once; (b) each thread's
entries are in call order; (c) so are the pending ones; (d) only a clear takes entries away; (e) a
merge moves all that is pending, and a second one nothing; (f) nothing from before a merge stands
behind anything from after it. Shutting down gives the entries, and for good. -/
theorem history_faithful (steps : List (LogStep Entry)) :
    let l := run steps
    let stamped := recorded steps
    stamped.map Stamped.entry = l ∧
      (stamped.shown.Nodup ∧ ∀ r, r ∈ stamped.shown ↔ Kept steps r) ∧
      stamped.shown.Pairwise (fun r r' => r.writer = r'.writer → r.serial < r'.serial) ∧
      stamped.pending.Pairwise (fun r r' => r.serial < r'.serial) ∧
      (∀ s, s ≠ .clear → l.entries <+: (run (steps ++ [s])).entries) ∧
      (l.merge.1 = l.pending.length ∧ l.merge.2.entries = l.shown ∧ l.merge.2.pending = [] ∧
        l.merge.2.merge = (0, l.merge.2)) ∧
      (∀ n, steps[n]? = some .merge →
        stamped.shown.Pairwise fun r r' => r'.serial < n → r.serial < n) ∧
      l.closed = false ∧ l.shutdown.1 = l.entries ∧
      ∀ l' ∈ [l.shutdown.2, l.drop], l'.closed = true ∧
        ∀ sends : List (Writer × Entry), sends.foldl (fun l s => l.send s.1 s.2) l' = l' := by
  intro l stamped
  have h := faithful_recorded steps
  have hmap : stamped.map Stamped.entry = l := map_entry_recorded steps
  have hclosed : l.closed = false := by
    rw [← hmap]
    exact h.closed
  refine ⟨hmap, ⟨h.nodup, h.kept⟩, h.callOrder, h.pendingOrder, fun s hs => ?_, ?_, h.merged, hclosed,
    rfl, fun l' hl' => ?_⟩
  · rw [run_concat]
    exact entries_prefix_step l hs
  · rw [run_merge]
    exact ⟨rfl, rfl, rfl, rfl⟩
  · have hl : l'.closed = true := by
      simp only [List.mem_cons, List.not_mem_nil, or_false] at hl'
      obtain rfl | rfl := hl' <;> rfl
    exact ⟨hl, sends_closed hl⟩

example : run [.send (.worker 1) 'a', .append 'b', .send .owner 'c', .append 'd', .merge] =
    { entries := ['b', 'a', 'c', 'd'] } := by decide

end Log

end TraceView
