import TraceView.Proofs.Loader.Pool
import TraceView.Proofs.Loader.Threads
import Mathlib.Data.List.FinRange
import Mathlib.Data.List.Induction

/-!
What is logged of a loader can be read once the update that takes it out has returned, whatever the
threads did in between. What was sent before the first merge of an update is in the entries anyway;
what came after it is there only because taking a loader out calls for the second merge.
-/

namespace TraceView

namespace LoadMachine

variable {n : Nat} {m : LoadMachine n} {origin : Fin n → Loader}

structure Invariant (origin : Fin n → Loader) (m : LoadMachine n) : Prop where
  sound : m.log.Sound
  present : m.log.Present
  parted : (m.running ++ m.collected).Perm (List.finRange n)
  threads : ∀ i, (m.threads i).Stands (i ∈ m.collected) m.place m.log (origin i) (.worker i)

theorem perm_takeOut {α : Type} {as : List α} {k : Nat} {a : α} (h : as[k]? = some a) :
    (a :: takeOut as k).Perm as := by
  obtain ⟨hk, rfl⟩ := List.getElem?_eq_some_iff.mp h
  calc as[k] :: takeOut as k
    List.Perm _ (as[k] :: (as.take k ++ as.drop (k + 1))) :=
      ((LoaderPool.perm_lastFirst _).append_left _).cons _
    List.Perm _ (as.take k ++ as[k] :: as.drop (k + 1)) := List.perm_middle.symm
    _ = as := by rw [← List.drop_eq_getElem_cons hk, List.take_append_drop]

theorem perm_takeOut_append {α : Type} {as : List α} {k : Nat} {a : α} (h : as[k]? = some a)
    (bs : List α) : (takeOut as k ++ (bs ++ [a])).Perm (as ++ bs) := by
  calc takeOut as k ++ (bs ++ [a])
    _ = (takeOut as k ++ bs) ++ [a] := (List.append_assoc ..).symm
    List.Perm _ (a :: takeOut as k ++ bs) := List.perm_append_singleton ..
    List.Perm _ (as ++ bs) := (perm_takeOut h).append_right _

theorem of_allows {a : LogAction RichText} (h : m.allows a = true) :
    a ≠ .call .owner .shutdown ∧ ∀ i : Fin n, a.caller? ≠ some (.worker i) := by
  cases a with
  | advance w => exact ⟨nofun, fun _ => nofun⟩
  | call w c =>
    cases w with
    | owner =>
      refine ⟨fun ha => ?_, fun _ => nofun⟩
      cases ha
      cases h
    | worker id =>
      refine ⟨nofun, fun i hi => ?_⟩
      cases hi
      simp only [allows, decide_eq_true_eq] at h
      exact absurd i.isLt (Nat.not_lt.mpr h)

namespace Invariant

theorem act (h : Invariant origin m) {a : LogAction RichText} (ha : a ≠ .call .owner .shutdown)
    (hcaller : ∀ i : Fin n, a.caller? ≠ some (.worker i)) :
    Invariant origin { m with log := m.log.step a } where
  sound := h.sound.step a
  present := h.present.step h.sound ha
  parted := h.parted
  threads i := (h.threads i).step h.sound h.present (hcaller i)

theorem taken (h : Invariant origin m) {i : Fin n} (hi : i ∈ m.collected) :
    (m.threads i).Taken m.place m.log (origin i) :=
  (h.threads i).taken hi

theorem underway (h : Invariant origin m) {i : Fin n} (hi : i ∉ m.collected) :
    (m.threads i).Underway m.log (origin i) (.worker i) :=
  (h.threads i).underway hi

theorem goto (h : Invariant origin m) {place : UpdatePlace}
    (hplace : ∀ i ∈ m.collected, m.place.Settles m.log (m.threads i).records →
      place.Settles m.log (m.threads i).records) :
    Invariant origin { m with place } where
  sound := h.sound
  present := h.present
  parted := h.parted
  threads i := { h.threads i with
    taken := fun hi => { h.taken hi with settles := hplace i hi (h.taken hi).settles } }

theorem nodup_collected (h : Invariant origin m) : (m.running ++ m.collected).Nodup :=
  h.parted.nodup_iff.mpr (List.nodup_finRange n)

theorem not_collected (h : Invariant origin m) {i : Fin n} (hi : i ∈ m.running) :
    i ∉ m.collected := fun hcollected =>
  (List.nodup_append.mp h.nodup_collected).2.2 i hi i hcollected rfl

theorem setThread (h : Invariant origin m) {i : Fin n} (hi : i ∉ m.collected) {t : LoaderThread}
    (ht : t.Underway m.log (origin i) (.worker i)) (howns : t.Owns m.log (.worker i)) :
    Invariant origin { m with threads := Function.update m.threads i t } where
  sound := h.sound
  present := h.present
  parted := h.parted
  threads := (Function.forall_update_iff m.threads fun j t =>
    t.Stands (j ∈ m.collected) m.place m.log (origin j) (.worker j)).mpr
    ⟨⟨howns, fun _ => ht, fun hout => absurd hout hi⟩, fun j _ => h.threads j⟩

theorem not_collected_of_running (h : Invariant origin m) {i : Fin n}
    (hi : (m.loader i).ended = false) : i ∉ m.collected := fun hcollected => by
  simp [loader, (h.taken hcollected).ended] at hi

theorem send (h : Invariant origin m) {i : Fin n} (hi : i ∉ m.collected)
    (hidle : m.log.place (.worker i) = .idle) (hrunning : (m.loader i).ended = false)
    {entry : PaletteEntry} {unsent : List PaletteEntry}
    (hunsent : (m.loader i).unsent = entry :: unsent) (palette : Palette) :
    Invariant origin (m.send (.worker i) i { m.loader i with unsent } (entry palette)) := by
  have hcaller {j : Fin n} (hj : j ≠ i) :
      (LogAction.call (.worker i) (.send (entry palette))).caller? ≠ some (.worker j) := by
    simpa [LogAction.caller?, Fin.val_inj] using hj.symm
  constructor
  case sound => exact h.sound.call ..
  case present => exact h.present.call nofun
  case parted => exact h.parted
  case threads =>
    exact (Function.forall_update_iff m.threads fun j t =>
      t.Stands (j ∈ m.collected) m.place _ (origin j) (.worker j)).mpr
      ⟨⟨(h.threads i).owns.send _ _, fun _ => (h.underway hi).send hidle hrunning hunsent palette,
        fun hout => absurd hout hi⟩,
        fun j hj => (h.threads j).step h.sound h.present (hcaller hj)⟩

theorem load (h : Invariant origin m) (i : Fin n) (palette : Palette) :
    Invariant origin (m.load i palette) := by
  unfold LoadMachine.load
  split
  case isFalse => exact h
  case isTrue hready =>
    obtain ⟨hidle, hrunning⟩ := hready
    have hi := h.not_collected_of_running hrunning
    have hunderway := h.underway hi
    split
    case h_1 entry unsent hunsent => exact h.send hi hidle hrunning hunsent palette
    case h_2 hunsent =>
      refine h.setThread hi ?_ (h.threads i).owns
      exact ⟨fun _ => ⟨hunsent, hidle⟩, hunderway.course, hunderway.tracked⟩

theorem crash (h : Invariant origin m) (i : Fin n) : Invariant origin (m.crash i) := by
  unfold LoadMachine.crash
  split
  case isFalse => exact h
  case isTrue hready =>
    obtain ⟨hidle, hrunning⟩ := hready
    have hi := h.not_collected_of_running hrunning
    refine h.setThread hi ?_ (h.threads i).owns
    exact ⟨fun _ => ⟨rfl, hidle⟩, fun hcrashed => absurd rfl hcrashed, (h.underway hi).tracked⟩

theorem update (h : Invariant origin m) : Invariant origin m.update := by
  unfold LoadMachine.update
  split
  case isFalse => exact h
  case isTrue hrest =>
    have hact := h.act (a := .call .owner .merge) nofun nofun
    refine hact.goto fun i _ hsettles => ?_
    rwa [hrest.2] at hsettles

theorem collect (h : Invariant origin m) {k : Nat} {i : Fin n}
    (hidle : m.log.place .owner = .idle) (hi : m.running[k]? = some i)
    (hended : (m.loader i).ended = true) (done : Nat) (palette : Palette) :
    Invariant origin (m.collect k done i palette) := by
  have hnot := h.not_collected (List.mem_of_getElem? hi)
  have hunderway := h.underway hnot
  have hparted : (takeOut m.running k ++ (m.collected ++ [i])).Perm (List.finRange n) :=
    (perm_takeOut_append hi m.collected).trans h.parted
  have hcollected {j : Fin n} (hj : j ≠ i) : j ∈ m.collected ++ [i] ↔ j ∈ m.collected := by
    simp [hj]
  unfold LoadMachine.collect
  split
  case h_1 entry hreport =>
    constructor
    case sound => exact h.sound.call ..
    case present => exact h.present.call nofun
    case parted => exact hparted
    case threads =>
      have hstep (j : Fin n) := (h.threads j).step h.sound h.present
        (a := .call .owner (.send entry)) nofun
      refine (Function.forall_update_iff m.threads fun j t =>
        t.Stands (j ∈ m.collected ++ [i]) (.polling k (done + 1)) _ (origin j) (.worker j)).mpr
        ⟨⟨?_, ?_, ?_⟩, fun j hj => ⟨(hstep j).owns, ?_, ?_⟩⟩
      · exact (hstep i).owns.weaken (List.subset_append_left ..)
      · exact fun hout => absurd (by simp) hout
      · exact fun _ => hunderway.report hended hidle hreport k done
      · exact fun hout => (hstep j).underway (mt (hcollected hj).mpr hout)
      · exact fun hout => { (hstep j).taken ((hcollected hj).mp hout) with settles := trivial }
  case h_2 hreport =>
    refine ⟨h.sound, h.present, hparted, fun j => ⟨(h.threads j).owns, ?_, ?_⟩⟩
    · exact fun hout => h.underway fun hj => hout (List.mem_append_left _ hj)
    · intro hout
      cases eq_or_ne j i with
      | inl heq => exact heq ▸ hunderway.take hended hreport k done
      | inr hne => exact { h.taken ((hcollected hne).mp hout) with settles := trivial }

theorem poll (h : Invariant origin m) {k done : Nat} (hplace : m.place = .polling k done)
    (hidle : m.log.place .owner = .idle) (palette : Palette) :
    Invariant origin (m.poll k done palette) := by
  unfold LoadMachine.poll
  split
  case h_1 i hi =>
    split
    case isTrue hended => exact h.collect hidle hi hended done palette
    case isFalse =>
      refine h.goto fun i _ hsettles => ?_
      rw [hplace] at hsettles
      cases done <;> exact hsettles
  case h_2 =>
    split
    case isTrue hnone =>
      subst hnone
      refine h.goto fun i _ hsettles => ?_
      rwa [hplace] at hsettles
    case isFalse =>
      have hact := h.act (a := .call .owner .merge) nofun nofun
      refine hact.goto fun i hi _ => ?_
      exact .start ((h.taken hi).settled hidle) h.sound h.present hidle

theorem turn (h : Invariant origin m) (palette : Palette) : Invariant origin (m.turn palette) := by
  unfold LoadMachine.turn
  split
  case isFalse => exact h
  case isTrue hidle =>
    split
    case h_1 => exact h
    case h_2 hplace =>
      refine h.goto fun i _ hsettles => ?_
      rwa [hplace] at hsettles
    case h_3 k done hplace => exact h.poll hplace hidle palette
    case h_4 hplace =>
      refine h.goto fun i hi hsettles => ?_
      rw [hplace] at hsettles
      exact LogMachine.Gathers.sublist_shown hsettles h.sound ((h.taken hi).settled hidle) hidle

theorem step (h : Invariant origin m) (a : LoadAction n) : Invariant origin (m.step a) := by
  cases a with
  | log a =>
    rw [LoadMachine.step]
    split
    case isTrue hallows =>
      obtain ⟨hshutdown, hcaller⟩ := of_allows hallows
      exact h.act hshutdown hcaller
    case isFalse => exact h
  | load i palette => exact h.load i palette
  | crash i => exact h.crash i
  | update => exact h.update
  | turn palette => exact h.turn palette

theorem fresh {loaders : Fin n → Loader} (h : ∀ i, (loaders i).ended = false) (unstarted : Nat)
    (filter : Filter) : Invariant loaders (fresh loaders unstarted filter) where
  sound := .nil
  present := ⟨rfl, rfl⟩
  parted := by
    rw [LoadMachine.fresh, List.append_nil]
  threads i := ⟨.start _ _, fun _ => .start _ (h i) _, nofun⟩

theorem start (tree : Tree) (files : List Path) (unstarted : Nat) (filter : Filter) :
    Invariant (fun i => .start tree (files.get i)) (start tree files unstarted filter) :=
  fresh (fun _ => rfl) unstarted filter

theorem run (h : Invariant origin m) (schedule : List (LoadAction n)) :
    Invariant origin (m.run schedule) := by
  induction schedule using List.reverseRecOn with
  | nil => exact h
  | append_singleton schedule a ih =>
    rw [run_concat]
    exact ih.step a

end Invariant

theorem unstarted_collect (m : LoadMachine n) (k done : Nat) (i : Fin n) (palette : Palette) :
    (m.collect k done i palette).unstarted = m.unstarted := by
  simp only [collect]
  split <;> rfl

theorem unstarted_turn (m : LoadMachine n) (palette : Palette) :
    (m.turn palette).unstarted = m.unstarted := by
  simp only [turn, poll]
  repeat' split
  all_goals first | rfl | exact unstarted_collect ..

theorem unstarted_step (m : LoadMachine n) (a : LoadAction n) :
    (m.step a).unstarted = m.unstarted := by
  cases a with
  | log a => simp only [step]; split <;> rfl
  | load i palette =>
    simp only [step, load]
    repeat' split
    all_goals rfl
  | crash i => simp only [step, crash]; split <;> rfl
  | update => simp only [step, update]; split <;> rfl
  | turn palette => exact unstarted_turn m palette

theorem counted_pool (m : LoadMachine n) :
    LoaderPool.Counted { failed := m.unstarted } (m.collected.map m.loader) m.pool :=
  .foldl { failed := m.unstarted } _ _

theorem pool_counts (m : LoadMachine n) (schedule : List (LoadAction n)) :
    (m.run schedule).pool.finished.length + (m.run schedule).pool.failed =
      (m.run schedule).collected.length + m.unstarted := by
  have hunstarted : (m.run schedule).unstarted = m.unstarted := by
    induction schedule using List.reverseRecOn with
    | nil => rfl
    | append_singleton schedule a ih => rw [run_concat, unstarted_step, ih]
  have hcounts := (counted_pool (m.run schedule)).length
  rw [List.length_map, hunstarted] at hcounts
  simp [hcounts, Nat.add_comm]

/-- Once an update has returned, all that is logged of a loader that it or an earlier one took out
has come to the entries, each entry once and in order, from the start of its file to how that ended.
It is still there or a clear has released it. -/
theorem collected_are_shown (tree : Tree) (files : List Path) (unstarted : Nat) (filter : Filter)
    (schedule : List (LoadAction files.length)) :
    let m := (start tree files unstarted filter).run schedule
    let shown := m.log.released ++ m.log.log.entries
    shown.Nodup ∧ m.pool.finished.length + m.pool.failed = m.collected.length + unstarted ∧
      (m.place = .outside → ∀ i ∈ m.collected, (m.loader i).outcome ≠ .crashed →
        let path := files.get i
        let records := (m.threads i).records
        records.Sublist shown ∧ (∀ r ∈ shown, r.writer = .worker i → r ∈ records) ∧
          (m.loader i).outcome = (Loader.start tree path).outcome ∧
          ∃ lines, List.Forall₂ PaletteEntry.Writes (Scan.startEntry path (tree.size path) ::
            Scan.progressEntries path lines ++ [Scan.closingEntry tree path]) records) := by
  intro m shown
  have h : Invariant (fun i => .start tree (files.get i)) m := (Invariant.start ..).run schedule
  have hnone : m.log.handedBack = [] := (h.present.stays ▸ h.sound.handover).nil_of_present
  have hshown : m.log.shown = shown := by
    rw [LogMachine.shown, hnone, List.append_nil]
  refine ⟨hshown ▸ h.sound.nodup_shown, pool_counts .., fun hplace i hi hcrashed => ⟨?_, ?_, ?_⟩⟩
  · have hsettles := (h.taken hi).settles
    rw [hplace] at hsettles
    exact hshown ▸ hsettles
  · intro r hr
    have hplaced : r ∈ m.log.placed := List.mem_append_left _ (hshown.symm ▸ hr : r ∈ m.log.shown)
    exact (h.threads i).owns r (.inl (h.sound.accounted.mem_iff.mp hplaced))
  · obtain ⟨houtcome, hrecords⟩ := (h.taken hi).course hcrashed
    obtain ⟨lines, hscript⟩ := Loader.script_start tree (files.get i)
    exact ⟨houtcome, lines, hscript ▸ hrecords⟩

def moves (w : Writer) (k : Nat) : List (LoadAction 1) := .replicate k (.log (.advance w))

/-- The loader sends and ends after the first merge of an update, which takes it out, reports it and
merges again. -/
def lateFailure (palette : Palette) : List (LoadAction 1) :=
  [.update] ++ moves .owner 2 ++ [.load 0 palette] ++ moves (.worker 0) 5 ++ [.load 0 palette] ++
    .replicate 2 (.turn palette) ++ moves .owner 6 ++ [.turn palette] ++ moves .owner 7 ++
    [.turn palette]

theorem collected_are_shown_late :
    let m := (start {} ["trace"] 0 .off).run (lateFailure .standard)
    m.place = .outside ∧ m.collected = [0] ∧ (m.threads 0).records.length = 2 ∧
      (m.threads 0).records.Sublist (m.log.released ++ m.log.log.entries) := by
  have hshown := (collected_are_shown {} ["trace"] 0 .off (lateFailure .standard)).2.2
    (by decide +kernel) 0 (by decide +kernel) (by decide +kernel)
  exact ⟨by decide +kernel, by decide +kernel, by decide +kernel, hshown.1⟩

end LoadMachine

end TraceView
