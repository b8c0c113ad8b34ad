import TraceView.Proofs.Session.Steps
import TraceView.Proofs.Settings.Appearance

namespace TraceView.Session

variable {s s' : Session}

def Published (s : Session) : Prop := s.editor.palette = s.editor.colors.palette

namespace Published

theorem background (h : s.Published) (hs : Background s s') : s'.Published := by
  unfold Published
  rw [hs.editor]
  exact h

theorem pressed (h : s.Published) (hs : Pressed s s') : s'.Published := by
  cases hs with
  | switch | view | clear => exact h
  | edit editor hcolors hpalette =>
    unfold Published
    rw [hcolors, hpalette]
    exact h
  | change => rfl

theorem step (h : s.Published) (x : Step) : (s.step x).Published := by
  obtain ⟨key, -, hs⟩ | ⟨view, hs⟩ | hs := step_cases s x
  · exact h.pressed hs
  · rw [hs]
    exact h
  · exact h.background hs

theorem run (h : s.Published) (xs : List Step) : (s.run xs).Published := by
  induction xs generalizing s with
  | nil => exact h
  | cons x xs ih => exact ih (h.step x)

end Published

theorem published_start (config : Config) (palette : Palette) (filter : Filter) (log : Log)
    (tree : Tree) (files : List Path) :
    (start config palette filter log tree files).Published := by
  have h : (opening config palette filter log (opened? config tree)).Published := rfl
  exact h.background (background_start config palette filter log tree files)

/-- The selected role has the color `c` after it, and no other role has another one than before. If it
had that color, nothing happened; if not, one entry more is in the log, and it tells of the color. -/
structure Recolored (s : Session) (c : Rgba) (verb : String) (s' : Session) : Prop where
  selected : s'.editor.colors.get s.editor.role = c
  others : ∀ role, role ≠ s.editor.role →
    s'.editor.colors.get role = s.editor.colors.get role
  same : s.editor.color = c → s' = s
  logged : s.editor.color ≠ c →
    let entry := s'.editor.changeEntry verb s.config.textColor
    s'.panel.log = s.panel.log.append entry ∧
      s'.panel.log.shown.Perm (entry :: s.panel.log.shown)

theorem recolored_change (s : Session) (c : Rgba) (verb : String) :
    Recolored s c verb (s.change verb
      ((s.editor.colors.set? s.editor.role c).map fun colors =>
        { s.editor with colors }.publish)) := by
  by_cases h : s.editor.color = c
  · have hset : s.editor.colors.set? s.editor.role c = none := if_pos h
    rw [hset]
    exact ⟨h, fun _ _ => rfl, fun _ => rfl, fun hne => (hne h).elim⟩
  · have hset : s.editor.colors.set? s.editor.role c =
        some { s.editor.colors.overwrite s.editor.role c with
          changed := s.editor.colors.changed.set s.editor.role.index true } := if_neg h
    rw [hset]
    refine ⟨?_, fun role hne => ?_, fun heq => (h heq).elim, fun _ => ⟨rfl, ?_⟩⟩
    · exact s.editor.colors.get_overwrite_self _ c
    · exact s.editor.colors.get_overwrite_of_ne hne c
    · exact Log.shown_append _ _

/-- At the start and after any steps the palette has the colors of the table. Enter gives the selected
role the active swatch and `r` gives it its default; each changes that role alone, with one entry in the
log if it changes anything. -/
theorem palette_shows_colors (config : Config) (palette : Palette) (filter : Filter) (log : Log)
    (tree : Tree) (files : List Path) (steps : List Step) :
    let s := (start config palette filter log tree files).run steps
    (∀ role, s.editor.palette.get role = s.editor.colors.getWith role none) ∧
      ∀ control,
        Recolored s s.editor.swatchColor "set to" (s.step (.press ⟨.enter, control, .press⟩)) ∧
          Recolored s s.editor.role.defaultColor "reset to"
            (s.step (.press ⟨.char 'r', control, .press⟩)) := by
  intro s
  have h : s.Published := (published_start config palette filter log tree files).run steps
  refine ⟨fun role => ?_, fun control => ⟨?_, ?_⟩⟩
  · exact congrArg (·.get role) h
  · exact recolored_change s _ _
  · exact recolored_change s _ _

end TraceView.Session
