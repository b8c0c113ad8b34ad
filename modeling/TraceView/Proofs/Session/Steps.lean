import TraceView.Proofs.Session.LogPanel
import TraceView.Session.Run

namespace TraceView

namespace Log

theorem entries_send (l : Log) (writer : Writer) (entry : RichText) :
    (l.send writer entry).entries = l.entries := by
  unfold send
  split <;> rfl

theorem entries_sends (writer : Writer) (palette : Palette) (l : Log) (es : List PaletteEntry) :
    (es.foldl (fun l entry => l.send writer (entry palette)) l).entries = l.entries := by
  induction es generalizing l with
  | nil => rfl
  | cons e es ih => rw [List.foldl_cons, ih, entries_send]

end Log

namespace LoaderPool

theorem entries_step (p : LoaderPool) (place : Nat) (palette : Palette) (log : Log) :
    (p.step place palette log).2.entries = log.entries := by
  unfold step
  cases p.running[place]? with
  | none => rfl
  | some l =>
    rcases hunsent : l.unsent with _ | ⟨entry, unsent⟩
    · simp [Loader.step, hunsent]
    · simp [Loader.step, hunsent, Log.entries_send]

theorem entries_report (done : List Loader) (palette : Palette) (log : Log) :
    (report done palette log).entries = log.entries :=
  Log.entries_sends .owner palette log _

end LoaderPool

namespace Session

variable {s s' s'' : Session}

/-- The log may grow, loaders may move on and notices may be made; all else stays. -/
structure Background (s s' : Session) : Prop where
  panel : s.panel.Grows s'.panel
  eq : s' = { s with panel := s'.panel, loaders := s'.loaders, notices := s'.notices }

namespace Background

theorem refl (s : Session) : Background s s := ⟨.refl _, rfl⟩

theorem trans (h : Background s s') (h' : Background s' s'') : Background s s'' := by
  refine ⟨h.panel.trans h'.panel, ?_⟩
  rw [h'.eq, h.eq]

theorem config (h : Background s s') : s'.config = s.config := by rw [h.eq]

theorem editor (h : Background s s') : s'.editor = s.editor := by rw [h.eq]

theorem settings (h : Background s s') : s'.settings = s.settings := by rw [h.eq]

theorem of_panel {panel : LogPanel} (h : s.panel.Grows panel) : Background s { s with panel } :=
  ⟨h, rfl⟩

end Background

theorem background_announce (s : Session) (n : Notice) : Background s (s.announce n) := by
  simp only [announce]
  split
  · exact ⟨s.panel.grows_send .owner _, rfl⟩
  · exact ⟨.refl _, rfl⟩

theorem background_announceAll (s : Session) (ns : List Notice) :
    Background s (s.announceAll ns) := by
  induction ns generalizing s with
  | nil => exact .refl s
  | cons n ns ih => exact (background_announce s n).trans (ih _)

theorem background_log (s : Session) (entry : RichText) : Background s (s.log entry) :=
  .of_panel (s.panel.grows_send .owner entry)

theorem background_logFromWorker (s : Session) (entry : RichText) :
    Background s (s.logFromWorker entry) :=
  .of_panel (s.panel.grows_send .worker entry)

theorem background_stepLoader (s : Session) (place : Nat) : Background s (s.stepLoader place) := by
  have hentries := s.loaders.entries_step place s.editor.palette s.panel.log
  exact ⟨LogPanel.grows_of_log (hentries ▸ List.prefix_rfl), rfl⟩

theorem background_update (s : Session) : Background s s.update := by
  have hmerge : Background s { s with panel := s.panel.merge } := .of_panel s.panel.grows_merge
  simp only [update]
  split
  · exact hmerge
  · refine hmerge.trans ?_
    refine .trans (.trans ?_ (background_announceAll _ _)) (.of_panel (LogPanel.grows_merge _))
    have hentries := LoaderPool.entries_report s.loaders.collect.1 s.editor.palette s.panel.merge.log
    exact ⟨LogPanel.grows_of_log (hentries ▸ List.prefix_rfl), rfl⟩

theorem draw_eq (s : Session) (width height : Nat) :
    ∃ view, (s.draw width height).2 =
      { s with panel := { s.panel.sync s.config.textColor with view } } := by
  simp only [draw, drawLog]
  split <;> exact ⟨_, rfl⟩

def opened? (config : Config) (tree : Tree) : Option FileSettings :=
  config.settingsPath.bind fun path => (FileSettings.load tree path).toOption

def startEditor (palette : Palette) : Option FileSettings → Editor
  | none => { palette }
  | some settings => { palette, colors := .load {} settings, style := .load {} settings }

def opening (config : Config) (palette : Palette) (filter : Filter) (log : Log)
    (settings : Option FileSettings) : Session where
  config
  panel := { log }
  editor := (startEditor palette settings).publish
  settings
  loaders := {}
  filter

def withSettings (s : Session) (settings : FileSettings) : Session :=
  { s with
    editor := { s.editor with
      colors := s.editor.colors.load settings, style := s.editor.style.load settings }
    settings := some settings }

theorem background_applySettings (h : Background s s') (settings : FileSettings) :
    Background (s.withSettings settings) (s'.applySettings settings) := by
  have hs : Background (s.withSettings settings) (s'.withSettings settings) := by
    refine ⟨h.panel, ?_⟩
    rw [h.eq]
    rfl
  exact hs.trans (background_announceAll _ _)

theorem background_startLine (h : Background s s') (line : RichText) (loaders : LoaderPool) :
    Background { s with editor := s.editor.publish }
      { s' with editor := s'.editor.publish, panel := s'.panel.append line, loaders } := by
  refine ⟨h.panel.trans (LogPanel.grows_append _ _), ?_⟩
  rw [h.eq]

theorem background_start (config : Config) (palette : Palette) (filter : Filter) (log : Log)
    (tree : Tree) (files : List Path) :
    Background (opening config palette filter log (opened? config tree))
      (start config palette filter log tree files) := by
  let s : Session :=
    { config, panel := { log }, editor := { palette }, settings := none, loaders := {}, filter }
  simp only [start, opened?]
  cases config.settingsPath with
  | none => exact background_startLine (.refl s) _ _
  | some path =>
    simp only [openSettings, Option.bind_some]
    cases FileSettings.load tree path with
    | error e => exact background_startLine (background_announce s _) _ _
    | ok settings =>
      exact background_startLine (background_applySettings (background_announce s _) settings) _ _

inductive Pressed (s : Session) : Session → Prop
  | switch (showTip running : Bool) : Pressed s { s with showTip, running }
  | view (view : ScrollView) : Pressed s { s with panel := { s.panel with view } }
  | clear : Pressed s { s with panel := s.panel.clear }
  | edit (editor : Editor) : editor.colors = s.editor.colors → editor.palette = s.editor.palette →
      Pressed s { s with editor }
  | change (colors : ColorTable) (role : Role) (c : Rgba) (verb : String) :
      s.editor.colors.set? role c = some colors →
      Pressed s (s.change verb (some { s.editor with colors }.publish))

theorem Pressed.config (h : Pressed s s') : s'.config = s.config := by
  cases h <;> rfl

theorem Pressed.settings (h : Pressed s s') : s'.settings = s.settings := by
  cases h <;> rfl

theorem pressed_change (s : Session) (verb : String) (role : Role) (c : Rgba) :
    Pressed s (s.change verb
      ((s.editor.colors.set? role c).map fun colors => { s.editor with colors }.publish)) := by
  cases hset : s.editor.colors.set? role c with
  | none => exact .switch s.showTip s.running
  | some colors => exact .change colors role c verb hset

theorem pressed_act (s : Session) (control : Bool) (code : KeyCode) :
    Pressed s (s.act control code) := by
  unfold act
  split
  case h_6 | h_13 => exact pressed_change s _ _ _
  case h_7 | h_8 | h_9 => exact .view _
  case h_12 =>
    split
    · exact .switch _ _
    · exact .clear
  case h_1 | h_10 | h_11 | h_14 | h_23 => exact .switch _ _
  all_goals exact .edit _ rfl rfl

theorem pressed_press (s : Session) (key : KeyEvent) : Pressed s (s.press key) := by
  unfold press
  split
  · exact pressed_act s _ _
  · exact .switch s.showTip s.running

/-- What a step can do: a key, a drawing, or something in the background. -/
theorem step_cases (s : Session) (x : Step) :
    (∃ key, x = .press key ∧ Pressed s (s.step x)) ∨
      (∃ view, s.step x = { s with panel := { s.panel.sync s.config.textColor with view } }) ∨
      Background s (s.step x) := by
  cases x with
  | press key => exact .inl ⟨key, rfl, pressed_press s key⟩
  | draw width height => exact .inr (.inl (draw_eq s width height))
  | update => exact .inr (.inr (background_update s))
  | log entry => exact .inr (.inr (background_log s entry))
  | logFromWorker entry => exact .inr (.inr (background_logFromWorker s entry))
  | load place => exact .inr (.inr (background_stepLoader s place))

theorem config_step (s : Session) (x : Step) : (s.step x).config = s.config := by
  obtain ⟨key, -, h⟩ | ⟨view, h⟩ | h := step_cases s x
  · exact h.config
  · rw [h]
  · exact h.config

theorem settings_step (s : Session) (x : Step) : (s.step x).settings = s.settings := by
  obtain ⟨key, -, h⟩ | ⟨view, h⟩ | h := step_cases s x
  · exact h.settings
  · rw [h]
  · exact h.settings

theorem config_run (s : Session) (xs : List Step) : (s.run xs).config = s.config := by
  induction xs generalizing s with
  | nil => rfl
  | cons x xs ih => rw [run_cons, ih, config_step]

theorem settings_run (s : Session) (xs : List Step) : (s.run xs).settings = s.settings := by
  induction xs generalizing s with
  | nil => rfl
  | cons x xs ih => rw [run_cons, ih, settings_step]

end Session

end TraceView
