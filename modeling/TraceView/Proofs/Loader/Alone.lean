import TraceView.Proofs.Loader.Visibility
import TraceView.Proofs.Log.Alone
import TraceView.Session.Basic

/-!
Turns that nothing interrupts. Those of a loader do to the log what `Loader.step` does at once, and
those of the frame thread do to the log and to the pool what `Session.update` does.
-/

namespace TraceView

namespace LoaderPool

theorem report_append (done more : List Loader) (palette : Palette) (log : Log) :
    report (done ++ more) palette log = report more palette (report done palette log) := by
  simp only [report, List.filterMap_append, List.foldl_append]

end LoaderPool

theorem Session.update_eq {s : Session} {done : List Loader} {loaders : LoaderPool}
    (h : s.loaders.collect = (done, loaders)) (hcrashed : ∀ l ∈ done, l.outcome ≠ .crashed) :
    s.update.panel.log = (if done.isEmpty then s.panel.log.merge.2
      else (LoaderPool.report done s.editor.palette s.panel.log.merge.2).merge.2) ∧
      s.update.loaders = if done.isEmpty then s.loaders else loaders := by
  have hcrashes : Session.crashes done = [] := by
    rw [Session.crashes, List.map_eq_nil_iff, List.filter_eq_nil_iff]
    simpa using hcrashed
  simp only [Session.update, h, hcrashes, Session.announceAll, List.foldl_nil]
  split <;> exact ⟨rfl, rfl⟩

namespace LoadMachine

variable {n : Nat} {m m' : LoadMachine n} {palette : Palette}

theorem loader_setLoader (m : LoadMachine n) (i : Fin n) (loader : Loader) :
    (m.setLoader i loader).loader = Function.update m.loader i loader :=
  Function.comp_update LoaderThread.loader m.threads i _

theorem loader_send (m : LoadMachine n) (w : Writer) (i : Fin n) (loader : Loader)
    (entry : RichText) :
    (m.send w i loader entry).loader = Function.update m.loader i loader :=
  Function.comp_update LoaderThread.loader m.threads i _

/-- A turn of a loader up to the return of its call is a step of the loader. -/
theorem load_alone {i : Fin n} (hrests : m.log.Rests (.worker i))
    (hrunning : (m.loader i).ended = false) (palette : Palette) :
    let m' := m.load i palette
    let stepped := (m.loader i).step palette (m.log.log.map Stamped.entry)
    m'.loader i = stepped.1 ∧
      ∃ k, (m'.log.moves (.worker i) k).log.map Stamped.entry = stepped.2 := by
  simp only [load, if_pos (And.intro hrests.idle hrunning), Loader.step]
  cases (m.loader i).unsent with
  | nil =>
    dsimp only
    refine ⟨?_, 0, rfl⟩
    rw [loader_setLoader, Function.update_self]
  | cons entry unsent =>
    dsimp only
    refine ⟨by rw [loader_send, Function.update_self], ?_⟩
    obtain ⟨k, -, hlog⟩ := LogMachine.send_alone hrests (entry palette)
    refine ⟨k, ?_⟩
    -- Which worker sends makes no difference to the log.
    calc (m.send (.worker i) i _ (entry palette) |>.log.moves (.worker i) k).log.map Stamped.entry
      _ = (m.log.log.map Stamped.entry).send (.worker i) (entry palette) :=
        (congrArg (Log.map Stamped.entry) hlog).trans (Log.send_map Stamped.entry ..).symm
      _ = (m.log.log.map Stamped.entry).send .worker (entry palette) := by simp [Log.send]

inductive OfFrame (palette : Palette) : LoadAction n → Prop
  | update : OfFrame palette .update
  | turn : OfFrame palette (.turn palette)
  | advance : OfFrame palette (.log (.advance .owner))

/-- The frame thread alone can get there, with one palette in force. -/
def Alone (palette : Palette) (m m' : LoadMachine n) : Prop :=
  ∃ schedule, (∀ a ∈ schedule, OfFrame palette a) ∧ m.run schedule = m'

namespace Alone

theorem refl (palette : Palette) (m : LoadMachine n) : Alone palette m m := ⟨[], nofun, rfl⟩

theorem trans {m'' : LoadMachine n} (h : Alone palette m m') (h' : Alone palette m' m'') :
    Alone palette m m'' := by
  obtain ⟨schedule, hframe, rfl⟩ := h
  obtain ⟨more, hmore, rfl⟩ := h'
  refine ⟨schedule ++ more, fun a ha => ?_, List.foldl_append⟩
  exact (List.mem_append.mp ha).elim (hframe a) (hmore a)

theorem single {a : LoadAction n} (ha : OfFrame palette a) (h : m.step a = m') :
    Alone palette m m' :=
  ⟨[a], by simpa using ha, h⟩

theorem moves (palette : Palette) (m : LoadMachine n) (k : Nat) :
    Alone palette m { m with log := m.log.moves .owner k } := by
  induction k generalizing m with
  | zero => exact refl palette m
  | succ k ih => exact (single .advance rfl).trans (ih _)

end Alone

structure Polled (palette : Palette) (m m' : LoadMachine n) (taken : List Loader) : Prop where
  alone : Alone palette m m'
  rests : m'.log.Rests .owner
  loader_eq : m'.loader = m.loader
  unstarted_eq : m'.unstarted = m.unstarted
  collected_eq : m'.collected.map m.loader = m.collected.map m.loader ++ taken
  log_eq : m'.log.log.map Stamped.entry =
    LoaderPool.report taken palette (m.log.log.map Stamped.entry)

namespace Polled

theorem refl (h : m.log.Rests .owner) : Polled palette m m [] :=
  ⟨.refl palette m, h, rfl, rfl, (List.append_nil _).symm, rfl⟩

theorem trans {m'' : LoadMachine n} {taken more : List Loader} (h : Polled palette m m' taken)
    (h' : Polled palette m' m'' more) : Polled palette m m'' (taken ++ more) where
  alone := h.alone.trans h'.alone
  rests := h'.rests
  loader_eq := h'.loader_eq.trans h.loader_eq
  unstarted_eq := h'.unstarted_eq.trans h.unstarted_eq
  collected_eq := by
    have hcollected := h'.collected_eq
    rw [h.loader_eq] at hcollected
    rw [hcollected, h.collected_eq, List.append_assoc]
  log_eq := by rw [h'.log_eq, h.log_eq, LoaderPool.report_append]

theorem pool_eq {taken : List Loader} (h : Polled palette m m' taken) :
    m'.pool = taken.foldl LoaderPool.count { m.pool with running := m'.running.map m.loader } := by
  let p : LoaderPool := { running := m.running.map m.loader, failed := m.unstarted }
  rw [pool, pool, h.loader_eq, h.collected_eq, h.unstarted_eq, List.foldl_append]
  congr 1
  exact LoaderPool.foldl_count_running _ p _

theorem not_crashed {taken : List Loader} (h : Polled palette m m' taken)
    (hcrashed : ∀ i, (m.loader i).outcome ≠ .crashed) : ∀ l ∈ taken, l.outcome ≠ .crashed := by
  intro l hl
  have hmem : l ∈ m'.collected.map m.loader := by
    rw [h.collected_eq]
    exact List.mem_append_right _ hl
  obtain ⟨i, -, rfl⟩ := List.mem_map.mp hmem
  exact hcrashed i

end Polled

theorem takeOut_append {α : Type} (front : List α) (a : α) (as : List α) :
    takeOut (front ++ a :: as) front.length = front ++ LoaderPool.lastFirst as := by
  simp [takeOut]

theorem turn_polling (hrests : m.log.Rests .owner) {k done : Nat}
    (hplace : m.place = .polling k done) (palette : Palette) :
    m.step (.turn palette) = m.poll k done palette := by
  rw [step, turn, if_pos hrests.idle, hplace]

theorem collect_alone (hrests : m.log.Rests .owner) {k done : Nat} {i : Fin n}
    (hplace : m.place = .polling k done) (hi : m.running[k]? = some i)
    (hended : (m.loader i).ended = true) (hcrashed : (m.loader i).outcome ≠ .crashed)
    (palette : Palette) :
    ∃ m', Polled palette m m' [m.loader i] ∧ m'.running = takeOut m.running k ∧
      m'.place = .polling k (done + 1) := by
  have hturn : m.step (.turn palette) = m.collect k done i palette := by
    rw [turn_polling hrests hplace, poll, hi]
    exact if_pos hended
  have hcollect : Alone palette m (m.collect k done i palette) := Alone.single .turn hturn
  have hreport := Loader.report?_of_not_crashed hcrashed m.filter palette
  rw [collect, hreport] at hcollect
  cases hfailure : (m.loader i).failure? with
  | none =>
    rw [hfailure] at hcollect
    refine ⟨m.withdraw k done i, ⟨hcollect, hrests, rfl, rfl, ?_, ?_⟩, rfl, rfl⟩
    · exact List.map_append
    · simp only [LoaderPool.report, List.filterMap_cons, hfailure]
      rfl
  | some failure =>
    rw [hfailure] at hcollect
    obtain ⟨moves, hmoved, hlog⟩ := LogMachine.send_alone hrests (failure palette)
    have hsent := hcollect.trans (.moves palette _ moves)
    rw [Option.map_some] at hsent
    refine ⟨_, ⟨hsent, hmoved, ?_, rfl, ?_, ?_⟩, rfl, rfl⟩
    · exact (loader_send ..).trans (Function.update_eq_self i m.loader)
    · exact List.map_append
    · rw [LoaderPool.report, List.filterMap_cons, hfailure]
      exact (congrArg (Log.map Stamped.entry) hlog).trans (Log.send_map Stamped.entry ..).symm

/-- The loop over the running loaders takes out those that `sift` does. -/
theorem sift_alone (palette : Palette) (front rest : List (Fin n)) {done : Nat}
    (hrests : m.log.Rests .owner) (hplace : m.place = .polling front.length done)
    (hrunning : m.running = front ++ rest) (hcrashed : ∀ i, (m.loader i).outcome ≠ .crashed) :
    let sifted := LoaderPool.sift (rest.map m.loader)
    ∃ m' left, Polled palette m m' sifted.1 ∧ m'.running = front ++ left ∧
      left.map m.loader = sifted.2 ∧
      m'.place = .polling m'.running.length (done + sifted.1.length) := by
  -- On the number of those still to be looked at, as taking one out reorders them.
  induction hlength : rest.length generalizing m front rest done with
  | zero =>
    obtain rfl := List.length_eq_zero_iff.mp hlength
    have hsift : LoaderPool.sift (([] : List (Fin n)).map m.loader) = ([], []) := by
      rw [List.map_nil, LoaderPool.sift]
    rw [hsift]
    exact ⟨m, [], .refl hrests, hrunning, rfl, by simp [hplace, hrunning]⟩
  | succ k ih =>
    obtain ⟨i, is, rfl⟩ := List.exists_cons_of_length_eq_add_one hlength
    have hi : m.running[front.length]? = some i := by simp [hrunning]
    have hleft : is.length = k := Nat.succ.inj hlength
    rw [List.map_cons, LoaderPool.sift]
    cases hended : (m.loader i).ended with
    | true =>
      obtain ⟨m₁, hpolled, hrunning₁, hplace₁⟩ :=
        collect_alone hrests hplace hi hended (hcrashed i) palette
      rw [hrunning, takeOut_append] at hrunning₁
      obtain ⟨m₂, left, hmore, hrunning₂, hleft, hplace₂⟩ :=
        ih front (LoaderPool.lastFirst is) hpolled.rests hplace₁ hrunning₁
          (hpolled.loader_eq ▸ hcrashed) ((LoaderPool.length_lastFirst is).trans hleft)
      rw [hpolled.loader_eq, ← LoaderPool.lastFirst_map] at hmore hleft hplace₂
      refine ⟨m₂, left, hpolled.trans hmore, hrunning₂, hleft, ?_⟩
      rw [hplace₂, if_pos rfl, List.length_cons]
      congr 1
      omega
    | false =>
      let m₁ := { m with place := .polling (front.length + 1) done }
      have hturn : m.step (.turn palette) = m₁ := by
        rw [turn_polling hrests hplace, poll, hi]
        exact if_neg (by simp [hended])
      have hplace₁ : m₁.place = .polling (front ++ [i]).length done := by
        rw [List.length_append, List.length_singleton]
      have hrunning₁ : m₁.running = front ++ [i] ++ is := by
        rw [List.append_assoc]
        exact hrunning
      obtain ⟨m₂, left, hmore, hrunning₂, hleft, hplace₂⟩ :=
        ih (m := m₁) (front ++ [i]) is hrests hplace₁ hrunning₁ hcrashed hleft
      have halone := (Alone.single .turn hturn).trans hmore.alone
      refine ⟨m₂, i :: left, { hmore with alone := halone }, ?_, ?_, hplace₂⟩
      · rw [hrunning₂, List.append_assoc]
        rfl
      · rw [List.map_cons]
        exact congrArg _ hleft

theorem merge_place (hrests : m.log.Rests .owner) (place : UpdatePlace) (palette : Palette) :
    ∃ log, Alone palette { m with log := m.log.call .owner .merge, place } { m with log, place } ∧
      log.Rests .owner ∧ log.log.map Stamped.entry = (m.log.log.map Stamped.entry).merge.2 := by
  obtain ⟨k, hmerged, hlog⟩ := LogMachine.merge_alone hrests
  refine ⟨_, .moves palette _ k, hmerged, ?_⟩
  exact (congrArg (Log.map Stamped.entry) hlog).trans
    (congrArg Prod.snd (Log.merge_map Stamped.entry m.log.log)).symm

theorem begin_alone (hrests : m.log.Rests .owner) (hplace : m.place = .outside) (palette : Palette) :
    ∃ m', Alone palette m m' ∧ m'.log.Rests .owner ∧ m'.place = .polling 0 0 ∧
      (m'.running = m.running ∧ m'.loader = m.loader ∧ m'.pool = m.pool) ∧
      m'.log.log.map Stamped.entry = (m.log.log.map Stamped.entry).merge.2 := by
  have hupdate : m.step .update = { m with log := m.log.call .owner .merge, place := .merging } :=
    if_pos ⟨hrests.idle, hplace⟩
  obtain ⟨log, hmerge, hmerged, hlog⟩ := merge_place hrests .merging palette
  have hturn : step { m with log, place := .merging } (.turn palette) =
      { m with log, place := .polling 0 0 } := if_pos hmerged.idle
  exact ⟨_, ((Alone.single .update hupdate).trans hmerge).trans (.single .turn hturn), hmerged, rfl,
    ⟨rfl, rfl, rfl⟩, hlog⟩

theorem finish_alone (hrests : m.log.Rests .owner) {done : Nat}
    (hplace : m.place = .polling m.running.length done) (palette : Palette) :
    ∃ m', Alone palette m m' ∧ m'.log.Rests .owner ∧ m'.place = .outside ∧ m'.pool = m.pool ∧
      m'.log.log.map Stamped.entry = if done = 0 then m.log.log.map Stamped.entry
        else (m.log.log.map Stamped.entry).merge.2 := by
  have hturn := turn_polling hrests hplace palette
  rw [poll, List.getElem?_eq_none (Nat.le_refl _)] at hturn
  dsimp only at hturn
  by_cases hnone : done = 0
  · rw [if_pos hnone] at hturn ⊢
    exact ⟨_, .single .turn hturn, hrests, rfl, rfl, rfl⟩
  · rw [if_neg hnone] at hturn ⊢
    obtain ⟨log, hmerge, hmerged, hlog⟩ := merge_place hrests .settling palette
    have hturn' : step { m with log, place := .settling } (.turn palette) =
        { m with log, place := .outside } := if_pos hmerged.idle
    exact ⟨_, ((Alone.single .turn hturn).trans hmerge).trans (.single .turn hturn'), hmerged, rfl,
      rfl, hlog⟩

theorem pool_running (m : LoadMachine n) : m.pool.running = m.running.map m.loader :=
  congrArg LoaderPool.running
    (LoaderPool.foldl_count_running (m.collected.map m.loader) { failed := m.unstarted } _)

theorem pool_collect (m : LoadMachine n) :
    let sifted := LoaderPool.sift (m.running.map m.loader)
    m.pool.collect =
      (sifted.1, sifted.1.foldl LoaderPool.count { m.pool with running := sifted.2 }) := by
  rw [LoaderPool.collect, pool_running]

/-- The frame thread alone brings the machine to where an update of the session ends, if no loader has
crashed. -/
theorem update_alone {s : Session} (hlog : s.panel.log = m.log.log.map Stamped.entry)
    (hloaders : s.loaders = m.pool) (hrests : m.log.Rests .owner) (hplace : m.place = .outside)
    (hcrashed : ∀ i, (m.loader i).outcome ≠ .crashed) :
    ∃ m', Alone s.editor.palette m m' ∧ m'.place = .outside ∧ m'.log.Rests .owner ∧
      s.update.panel.log = m'.log.log.map Stamped.entry ∧ s.update.loaders = m'.pool := by
  obtain ⟨m₁, hbegin, hrests₁, hplace₁, ⟨hrunning₁, hloader₁, hpool₁⟩, hlog₁⟩ :=
    begin_alone hrests hplace s.editor.palette
  rw [← hloader₁] at hcrashed
  obtain ⟨m₂, left, hpolled, hrunning, hleft, hplace₂⟩ :=
    sift_alone s.editor.palette [] m₁.running hrests₁ hplace₁ rfl hcrashed
  obtain ⟨m₃, hfinish, hrests₃, hplace₃, hpool₃, hlog₃⟩ :=
    finish_alone hpolled.rests hplace₂ s.editor.palette
  refine ⟨m₃, (hbegin.trans hpolled.alone).trans hfinish, hplace₃, hrests₃, ?_⟩
  have hcollect := pool_collect m
  rw [← hloaders, ← hrunning₁, ← hloader₁] at hcollect
  obtain ⟨hpanel, hupdated⟩ := Session.update_eq hcollect (hpolled.not_crashed hcrashed)
  constructor
  case left =>
    rw [hpanel, hlog₃, hpolled.log_eq, hlog₁, hlog]
    cases (LoaderPool.sift (m₁.running.map m₁.loader)).1 with
    | nil => rfl
    | cons l ls => simp
  case right =>
    rw [hupdated, hpool₃, hpolled.pool_eq, hpool₁, hrunning, List.nil_append, hleft, hloaders]
    cases htaken : (LoaderPool.sift (m₁.running.map m₁.loader)).1 with
    | nil =>
      rw [LoaderPool.sift_of_none htaken, ← pool_running, hpool₁]
      rfl
    | cons l ls => rfl

end LoadMachine

end TraceView
