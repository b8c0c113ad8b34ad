import TraceView.Proofs.Session.Steps

namespace TraceView.Session

variable {s s' : Session}

/-- The lines of the panel are up to date with the entries rendered so far. -/
def LinesCurrent (s : Session) : Prop := s.panel.Current s.config.textColor

namespace LinesCurrent

theorem background (h : s.LinesCurrent) (hs : Background s s') : s'.LinesCurrent := by
  unfold LinesCurrent
  rw [hs.config]
  exact h.grow hs.panel

theorem pressed (h : s.LinesCurrent) (hs : Pressed s s') : s'.LinesCurrent := by
  cases hs with
  | switch | edit => exact h
  | view view => exact h.withView view
  | clear => exact .clear _ _
  | change => exact h.grow (LogPanel.grows_append _ _)

theorem step (h : s.LinesCurrent) (x : Step) : (s.step x).LinesCurrent := by
  obtain ⟨key, -, hs⟩ | ⟨view, hs⟩ | hs := step_cases s x
  · exact h.pressed hs
  · rw [hs]
    exact h.sync.withView view
  · exact h.background hs

theorem run (h : s.LinesCurrent) (xs : List Step) : (s.run xs).LinesCurrent := by
  induction xs generalizing s with
  | nil => exact h
  | cons x xs ih => exact ih (h.step x)

end LinesCurrent

theorem linesCurrent_start (config : Config) (palette : Palette) (filter : Filter) (log : Log)
    (tree : Tree) (files : List Path) :
    (start config palette filter log tree files).LinesCurrent := by
  have h : (opening config palette filter log (opened? config tree)).LinesCurrent :=
    LogPanel.Current.nil config.textColor log
  exact h.background (background_start config palette filter log tree files)

/-- At any time the rendered entries are among those of the log and the lines are theirs. A drawing
leaves the lines of all entries, each rendered alone: a line for each of its breaks and one more. -/
theorem lines_of_entries (config : Config) (palette : Palette) (filter : Filter) (log : Log)
    (tree : Tree) (files : List Path) (steps : List Step) :
    let s := (start config palette filter log tree files).run steps
    (∀ entry : RichText, LogPanel.entryLines config.textColor entry =
      Segment.linesFrom {} [] (entry.segments config.textColor)) ∧
    s.panel.rendered ≤ s.panel.log.size ∧
      s.panel.lines = (s.panel.log.entries.take s.panel.rendered).flatMap
        (LogPanel.entryLines config.textColor) ∧
      ∀ width height, let drawn := (s.step (.draw width height)).panel
        drawn.log = s.panel.log ∧
          drawn.lines = drawn.log.entries.flatMap (LogPanel.entryLines config.textColor) ∧
          drawn.rendered = drawn.log.size := by
  intro s
  have hconfig : s.config = config := by
    rw [config_run, (background_start config palette filter log tree files).config]
    rfl
  have hcurrent : s.panel.Current config.textColor :=
    hconfig ▸ (linesCurrent_start config palette filter log tree files).run steps
  refine ⟨LogPanel.entryLines_eq config.textColor, hcurrent.rendered_le, hcurrent.lines_eq, ?_⟩
  intro width height drawn
  obtain ⟨view, hdraw⟩ := draw_eq s width height
  have hdrawn : drawn = { s.panel.sync config.textColor with view } := by
    rw [← hconfig]
    exact congrArg Session.panel hdraw
  rw [hdrawn, hcurrent.sync_eq]
  exact ⟨rfl, rfl, rfl⟩

end TraceView.Session
