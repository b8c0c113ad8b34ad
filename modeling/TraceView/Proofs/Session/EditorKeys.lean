import TraceView.Proofs.Session.Steps

namespace TraceView

def KeyCode.isEditorKey : KeyCode → Bool
  | .up | .down | .left | .right | .enter => true
  | .char c => ['r', 's', 'S', 'v', 'V', 'a', 'A', '+', '-'].contains c
  | _ => false

def Editor.press (e : Editor) : KeyCode → Editor
  | .up => e.selectPrevious
  | .down => e.selectNext
  | .left => e.swatchPrevious
  | .right => e.swatchNext
  | .enter => e.applySwatch?.getD e
  | .char 'r' => e.reset?.getD e
  | .char 's' => e.adjustPicker .saturation (-pickerStep)
  | .char 'S' => e.adjustPicker .saturation pickerStep
  | .char 'v' => e.adjustPicker .value (-pickerStep)
  | .char 'V' => e.adjustPicker .value pickerStep
  | .char 'a' => e.adjustPicker .alpha (-pickerStep)
  | .char 'A' => e.adjustPicker .alpha pickerStep
  | .char '+' => e.adjustScale scaleStep
  | .char '-' => e.adjustScale (-scaleStep)
  | _ => e

namespace Session

variable {s s' : Session}

def Step.editorKey? : Step → Option KeyCode
  | .press key => if key.motion = .press ∧ key.code.isEditorKey then some key.code else none
  | _ => none

theorem editor_change (s : Session) (verb : String) (editor? : Option Editor) :
    (s.change verb editor?).editor = editor?.getD s.editor := by
  cases editor? <;> rfl

theorem editor_act (s : Session) (control : Bool) (code : KeyCode) :
    (s.act control code).editor = s.editor.press code := by
  unfold act
  split
  case h_6 | h_13 => exact editor_change s _ _
  case h_12 => split <;> rfl
  case h_23 => simp_all [Editor.press]
  all_goals rfl

theorem press_of_not_isEditorKey (e : Editor) {code : KeyCode} (h : code.isEditorKey = false) :
    e.press code = e := by
  unfold Editor.press
  split
  case h_15 => rfl
  all_goals cases h

theorem editor_step (s : Session) (x : Step) :
    (s.step x).editor = x.editorKey?.elim s.editor s.editor.press := by
  cases x with
  | press key =>
    change (s.press key).editor = _
    unfold press Step.editorKey?
    cases hkey : key.code.isEditorKey with
    | true => split <;> simp_all [editor_act]
    | false =>
      have hsame := press_of_not_isEditorKey s.editor hkey
      split <;> simp_all [editor_act]
  | draw width height =>
    obtain ⟨view, hdraw⟩ := draw_eq s width height
    change (s.draw width height).2.editor = s.editor
    rw [hdraw]
  | update => exact (background_update s).editor
  | log entry => exact (background_log s entry).editor
  | logFromWorker entry => exact (background_logFromWorker s entry).editor
  | load place => exact (background_stepLoader s place).editor

theorem editor_run (s : Session) (xs : List Step) :
    (s.run xs).editor = (xs.filterMap Step.editorKey?).foldl Editor.press s.editor := by
  induction xs generalizing s with
  | nil => rfl
  | cons x xs ih =>
    rw [run_cons, ih, editor_step, List.filterMap_cons]
    cases x.editorKey? <;> rfl

theorem save_congr (h : s.editor = s'.editor) (settings : FileSettings) :
    s.save settings = s'.save settings := by
  rw [save, save, h]

theorem settings_announce (s : Session) (n : Notice) : (s.announce n).settings = s.settings :=
  (background_announce s n).settings

theorem settings_announceAll (s : Session) (ns : List Notice) :
    (s.announceAll ns).settings = s.settings :=
  (background_announceAll s ns).settings

theorem shutdown_congr (heditor : s.editor = s'.editor) (hsettings : s.settings = s'.settings)
    (tree : Tree) :
    (s.shutdown tree).tree = (s'.shutdown tree).tree ∧
      (s.shutdown tree).result = (s'.shutdown tree).result ∧
      (s.shutdown tree).session.settings = (s'.shutdown tree).session.settings := by
  simp only [shutdown, persist, settings_announce]
  rw [← hsettings]
  cases h : s.settings with
  | none => exact ⟨rfl, rfl, h.trans (hsettings ▸ h).symm⟩
  | some settings =>
    dsimp only
    rw [← save_congr heditor]
    rcases (s.save settings).flush tree with ⟨e | flushed, tree'⟩
    · refine ⟨rfl, rfl, ?_⟩
      simp only [settings_announceAll]
    · refine ⟨rfl, rfl, ?_⟩
      dsimp only
      split <;> simp only [settings_announce]

/-- Two runs in which the same keys of the editor are pressed, in the same order, end with the same
editor: colors and what was changed of them, palette, style, picker, selection and swatch. Shutting down
then writes the same. Any other step leaves all of that as it is. -/
theorem kept_depends_on_editor_keys (s : Session) {xs ys : List Step}
    (h : xs.filterMap Step.editorKey? = ys.filterMap Step.editorKey?) :
    (s.run xs).editor = (s.run ys).editor ∧
      (∀ tree, let ending := (s.run xs).shutdown tree
        let ending' := (s.run ys).shutdown tree
        ending.tree = ending'.tree ∧ ending.result = ending'.result ∧
          ending.session.settings = ending'.session.settings) ∧
      ∀ x : Step, x.editorKey? = none → (s.step x).editor = s.editor ∧
        ∀ tree, ((s.step x).shutdown tree).tree = (s.shutdown tree).tree ∧
          ((s.step x).shutdown tree).result = (s.shutdown tree).result := by
  have heditor : (s.run xs).editor = (s.run ys).editor := by rw [editor_run, editor_run, h]
  have hsettings : (s.run xs).settings = (s.run ys).settings := by
    rw [settings_run, settings_run]
  refine ⟨heditor, shutdown_congr heditor hsettings, fun x hx => ?_⟩
  have hsame : (s.step x).editor = s.editor := by rw [editor_step, hx, Option.elim_none]
  refine ⟨hsame, fun tree => ?_⟩
  obtain ⟨htree, hresult, -⟩ := shutdown_congr hsame (settings_step s x) tree
  exact ⟨htree, hresult⟩

theorem kept_depends_on_editor_keys_interleaved :
    let s := start { settingsPath := some "s.toml" } .standard ⟨[]⟩ {} { root := .folder [] } []
    let xs : List Step := [.press { code := .down }, .draw 80 24, .press { code := .char 'c' },
      .press { code := .enter, motion := .release }, .press { code := .enter, control := true }]
    let ys : List Step := [.logFromWorker "x", .press { code := .down }, .update,
      .press { code := .char 't' }, .press { code := .enter }, .press { code := .char 'q' }]
    xs.filterMap Step.editorKey? = ys.filterMap Step.editorKey? ∧
      (s.run xs).editor = (s.run ys).editor ∧
      ∀ tree, ((s.run xs).shutdown tree).tree = ((s.run ys).shutdown tree).tree := by
  intro s xs ys
  have h : xs.filterMap Step.editorKey? = ys.filterMap Step.editorKey? := by decide
  obtain ⟨heditor, hending, -⟩ := kept_depends_on_editor_keys s h
  exact ⟨h, heditor, fun tree => (hending tree).1⟩

end Session

end TraceView
