import TraceView.Proofs.Loader.Alone
import TraceView.Proofs.Log.Brought

namespace TraceView

def UpdatePlace.isPolling : UpdatePlace → Bool
  | .polling _ _ => true
  | _ => false

namespace LoadMachine

variable {n : Nat} {m m' m'' : LoadMachine n} {origin : Fin n → Loader} {taken : List (Fin n)}
  {k done : Nat}

structure Steady (m m' : LoadMachine n) : Prop where
  filter_eq : m'.filter = m.filter
  unstarted_eq : m'.unstarted = m.unstarted
  path_eq : ∀ i, (m'.loader i).path = (m.loader i).path
  kept : ∀ i, (m.loader i).ended = true → m'.loader i = m.loader i

namespace Steady

theorem refl (m : LoadMachine n) : Steady m m := ⟨rfl, rfl, fun _ => rfl, fun _ _ => rfl⟩

theorem trans (h : Steady m m') (h' : Steady m' m'') : Steady m m'' where
  filter_eq := h'.filter_eq.trans h.filter_eq
  unstarted_eq := h'.unstarted_eq.trans h.unstarted_eq
  path_eq i := (h'.path_eq i).trans (h.path_eq i)
  kept i hi := by
    have hkept := h.kept i hi
    rw [h'.kept i (by rwa [hkept]), hkept]

theorem of_loader_eq (hloader : m'.loader = m.loader) (hfilter : m'.filter = m.filter)
    (hunstarted : m'.unstarted = m.unstarted) : Steady m m' where
  filter_eq := hfilter
  unstarted_eq := hunstarted
  path_eq i := by rw [hloader]
  kept i _ := by rw [hloader]

end Steady

theorem collect_eq (m : LoadMachine n) (k done : Nat) (i : Fin n) (palette : Palette) :
    let m' := m.collect k done i palette
    m'.running = takeOut m.running k ∧ m'.collected = m.collected ++ [i] ∧
      m'.place = .polling k (done + 1) ∧ m'.loader = m.loader ∧ m'.filter = m.filter := by
  unfold collect
  split
  · exact ⟨rfl, rfl, rfl, (loader_send ..).trans (Function.update_eq_self i m.loader), rfl⟩
  · exact ⟨rfl, rfl, rfl, rfl, rfl⟩

theorem brought_collect (hidle : m.log.place .owner = .idle) (k done : Nat) (i : Fin n)
    (palette : Palette) :
    ((m.collect k done i palette).log.broughtBy .owner).map Stamped.entry =
      (m.log.broughtBy .owner).map Stamped.entry ++
        ((m.loader i).report? m.filter palette).toList := by
  unfold collect
  split
  case h_1 entry hreport =>
    rw [hreport]
    exact (congrArg _ (LogMachine.broughtBy_send hidle entry)).trans List.map_append
  case h_2 hreport =>
    rw [hreport]
    exact (List.append_nil _).symm

theorem steady_collect (m : LoadMachine n) (k done : Nat) (i : Fin n) (palette : Palette) :
    Steady m (m.collect k done i palette) :=
  have ⟨_, _, _, hloader, hfilter⟩ := collect_eq m k done i palette
  .of_loader_eq hloader hfilter (unstarted_collect ..)

theorem Invariant.total (h : Invariant origin m) : m.pool.total = n + m.unstarted := by
  have hlength := h.parted.length_eq
  have hcounts := pool_counts m []
  rw [run_nil] at hcounts
  rw [List.length_append, List.length_finRange] at hlength
  rw [LoaderPool.total, pool_running, List.length_map]
  omega

/-- Somewhere in the poll that begins at `m`. The turn that begins it leaves the frame thread idle. -/
inductive Within (m : LoadMachine n) : LoadMachine n → Prop
  | begun (hplace : m.place = .polling 0 0) (hidle : m.log.place .owner = .idle) : Within m m
  | step {m' : LoadMachine n} (h : Within m m') (a : LoadAction n) {k done : Nat}
    (hplace : (m'.step a).place = .polling k done) : Within m (m'.step a)

namespace Within

theorem idle (h : Within m m') : m.log.place .owner = .idle := by
  induction h with
  | begun hplace hidle => exact hidle
  | step h a hplace ih => exact ih

theorem run (hwithin : Within m m') (more : List (LoadAction n))
    (h : ∀ k ≤ more.length, (m'.run (more.take k)).place.isPolling = true) :
    Within m (m'.run more) := by
  induction more generalizing m' with
  | nil => exact hwithin
  | cons a more ih =>
    have hpolling : (m'.step a).place.isPolling = true := h 1 (by simp)
    cases hplace : (m'.step a).place with
    | polling k done => exact ih (.step hwithin a hplace) fun k hk => h (k + 1) (Nat.succ_le_succ hk)
    | _ => simp [hplace, UpdatePlace.isPolling] at hpolling

end Within

/-- The loop invariant: those before the place were still running when the poll began. -/
structure Looking (m m' : LoadMachine n) (k : Nat) (taken : List (Fin n)) : Prop where
  steady : Steady m m'
  place_eq : m'.place = .polling k taken.length
  bound : k ≤ m'.running.length
  passed : ∀ i ∈ m'.running.take k, (m.loader i).ended = false
  parted : (m'.running ++ taken).Perm m.running
  collected_eq : m'.collected = m.collected ++ taken
  ended : ∀ i ∈ taken, (m'.loader i).ended = true
  reported : ∃ reports, List.Forall₂ (Loader.Reported m.filter) (taken.map m'.loader) reports ∧
    (m'.log.broughtBy .owner).map Stamped.entry =
      (m.log.broughtBy .owner).map Stamped.entry ++ reports.flatten

theorem length_takeOut {α : Type} {as : List α} {k : Nat} {a : α} (h : as[k]? = some a) :
    (takeOut as k).length + 1 = as.length :=
  (perm_takeOut h).length_eq

theorem take_takeOut {α : Type} {as : List α} {k : Nat} {a : α} (h : as[k]? = some a) :
    (takeOut as k).take k = as.take k := by
  obtain ⟨hk, -⟩ := List.getElem?_eq_some_iff.mp h
  exact List.take_left' (List.length_take_of_le hk.le)

namespace Looking

theorem begin (hplace : m.place = .polling 0 0) : Looking m m 0 [] where
  steady := .refl m
  place_eq := hplace
  bound := Nat.zero_le _
  passed := nofun
  parted := by rw [List.append_nil]
  collected_eq := (List.append_nil _).symm
  ended := nofun
  reported := ⟨[], .nil, (List.append_nil _).symm⟩

theorem pass (h : Looking m m' k taken) {i : Fin n} (hi : m'.running[k]? = some i)
    (hrunning : (m'.loader i).ended = false) :
    Looking m { m' with place := .polling (k + 1) taken.length } (k + 1) taken where
  steady := h.steady.trans (.of_loader_eq rfl rfl rfl)
  place_eq := rfl
  bound := (List.getElem?_eq_some_iff.mp hi).1
  passed j hj := by
    rw [List.take_add_one, List.mem_append, hi] at hj
    cases hj with
    | inl hj => exact h.passed j hj
    | inr hj =>
      obtain rfl : j = i := by simpa using hj
      -- Had it ended by the beginning, it would not run now.
      by_contra hended
      have hkept := h.steady.kept j (by simpa using hended)
      exact hended (hkept ▸ hrunning)
  parted := h.parted
  collected_eq := h.collected_eq
  ended := h.ended
  reported := h.reported

theorem collect (h : Looking m m' k taken) (hidle : m'.log.place .owner = .idle) {i : Fin n}
    (hi : m'.running[k]? = some i) (hended : (m'.loader i).ended = true) (palette : Palette) :
    Looking m (m'.collect k taken.length i palette) k (taken ++ [i]) := by
  obtain ⟨hrunning, hcollected, hplace, hloader, -⟩ := collect_eq m' k taken.length i palette
  have hlength := length_takeOut hi
  have hk := (List.getElem?_eq_some_iff.mp hi).1
  constructor
  case steady => exact h.steady.trans (steady_collect ..)
  case place_eq => rw [hplace, List.length_append, List.length_singleton]
  case bound =>
    rw [hrunning]
    omega
  case passed =>
    -- What comes to the freed place comes from behind it.
    rw [hrunning, take_takeOut hi]
    exact h.passed
  case parted =>
    rw [hrunning]
    exact (perm_takeOut_append hi taken).trans h.parted
  case collected_eq => rw [hcollected, h.collected_eq, List.append_assoc]
  case ended =>
    rw [hloader]
    intro j hj
    cases List.mem_append.mp hj with
    | inl hj => exact h.ended j hj
    | inr hj =>
      obtain rfl := List.mem_singleton.mp hj
      exact hended
  case reported =>
    obtain ⟨reports, hreports, hbrought⟩ := h.reported
    refine ⟨reports ++ [((m'.loader i).report? m.filter palette).toList], ?_, ?_⟩
    · rw [hloader, List.map_append]
      exact List.rel_append hreports (.cons (Loader.reported_report? ..) .nil)
    · rw [brought_collect hidle, hbrought, h.steady.filter_eq]
      simp

theorem turn (h : Looking m m' k taken) (hidle : m'.log.place .owner = .idle) (palette : Palette) :
    (∃ k' taken', Looking m (m'.turn palette) k' taken' ∧
      k' + taken'.length = k + taken.length + 1) ∨
    (m'.turn palette).place = (if taken.length = 0 then .outside else .settling) ∧
      m'.running.length ≤ k := by
  have hturn : m'.turn palette = m'.poll k taken.length palette := by
    rw [LoadMachine.turn, if_pos hidle, h.place_eq]
  rw [hturn, LoadMachine.poll]
  cases hi : m'.running[k]? with
  | some i =>
    dsimp only
    left
    split
    case isTrue hended =>
      refine ⟨k, taken ++ [i], h.collect hidle hi hended palette, ?_⟩
      rw [List.length_append, List.length_singleton, Nat.add_assoc]
    case isFalse hrunning =>
      exact ⟨k + 1, taken, h.pass hi (Bool.not_eq_true _ ▸ hrunning), by omega⟩
  | none =>
    right
    refine ⟨?_, List.getElem?_eq_none_iff.mp hi⟩
    dsimp only
    split <;> rfl

end Looking

end LoadMachine

end TraceView
