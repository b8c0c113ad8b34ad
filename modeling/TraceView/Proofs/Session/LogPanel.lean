import TraceView.Proofs.Log.History
import TraceView.Proofs.Screen.Spans
import TraceView.Session.LogPanel

/-!
The lines of a log panel. They are turned out entry by entry and only once, and yet after a `sync`
they are those of every entry, each by itself. What carries this is `Current`: the lines kept are
those of the first entries, and these stay where they are as long as the log only grows.
-/

namespace TraceView

namespace LogPanel

variable {textColor : Rgba} {p q : LogPanel}

def entryLines (textColor : Rgba) (entry : RichText) : List TextLine :=
  (LineBuilder.paintAll {} (entry.render textColor)).finishLine.takeLines.1

/-- They are read off the segments, with no builder in between. -/
theorem entryLines_eq (textColor : Rgba) (entry : RichText) :
    entryLines textColor entry = Segment.linesFrom {} [] (entry.segments textColor) := by
  rw [entryLines, LineBuilder.finishLine_render]
  rfl

theorem paintEntry_new (textColor : Rgba) (entry : RichText) :
    paintEntry textColor {} entry = { lines := entryLines textColor entry } := by
  rw [entryLines_eq]
  exact LineBuilder.finishLine_render {} none entry textColor

theorem paintEntry_behind (textColor : Rgba) (b : LineBuilder) (lines : List TextLine)
    (entry : RichText) :
    paintEntry textColor (b.behind lines) entry = (paintEntry textColor b entry).behind lines := by
  rw [paintEntry, LineBuilder.paintAll_behind (RichText.isInline_render entry textColor),
    LineBuilder.behind_finishLine, paintEntry]

/-- A builder that painted some entries goes on with the next like a new one. -/
theorem foldl_paintEntry (textColor : Rgba) (entries : List RichText) (lines : List TextLine) :
    entries.foldl (paintEntry textColor) { lines } =
      { lines := lines ++ entries.flatMap (entryLines textColor) } := by
  induction entries generalizing lines with
  | nil => simp
  | cons entry entries ih =>
    have hnext : paintEntry textColor { lines } entry =
        { lines := lines ++ entryLines textColor entry } := by
      calc
        paintEntry textColor { lines } entry =
            paintEntry textColor (LineBuilder.behind {} lines) entry := by
          simp [LineBuilder.behind]
        _ = (paintEntry textColor {} entry).behind lines := paintEntry_behind _ _ _ _
        _ = { lines := lines ++ entryLines textColor entry } := by rw [paintEntry_new]; rfl
    rw [List.foldl_cons, hnext, ih, List.flatMap_cons, List.append_assoc]

theorem linesOf_eq (textColor : Rgba) (entries : List RichText) :
    linesOf textColor entries = entries.flatMap (entryLines textColor) := by
  rw [linesOf, foldl_paintEntry]
  rfl

/-- The lines kept are those of the first `rendered` entries. -/
structure Current (textColor : Rgba) (p : LogPanel) : Prop where
  rendered_le : p.rendered ≤ p.log.size
  lines_eq : p.lines = (p.log.entries.take p.rendered).flatMap (entryLines textColor)

structure Grows (p q : LogPanel) : Prop where
  entries : p.log.entries <+: q.log.entries
  eq : q = { p with log := q.log }

theorem Grows.refl (p : LogPanel) : Grows p p := ⟨List.prefix_rfl, rfl⟩

theorem Grows.trans {r : LogPanel} (h : Grows p q) (h' : Grows q r) : Grows p r := by
  refine ⟨h.entries.trans h'.entries, ?_⟩
  rw [h'.eq, h.eq]

theorem grows_of_log {log : Log} (h : p.log.entries <+: log.entries) :
    Grows p { p with log } := ⟨h, rfl⟩

theorem grows_step {s : LogStep RichText} (hs : s ≠ .clear) (p : LogPanel) :
    Grows p { p with log := p.log.step s } :=
  grows_of_log (p.log.entries_prefix_step hs)

theorem grows_append (p : LogPanel) (entry : RichText) : Grows p (p.append entry) :=
  grows_step (s := .append entry) nofun p

theorem grows_send (p : LogPanel) (writer : Writer) (entry : RichText) :
    Grows p (p.send writer entry) :=
  grows_step (s := .send writer entry) nofun p

theorem grows_merge (p : LogPanel) : Grows p p.merge := grows_step (s := .merge) nofun p

namespace Current

theorem nil (textColor : Rgba) (log : Log) : Current textColor { log } :=
  ⟨Nat.zero_le _, rfl⟩

theorem grow (h : Current textColor p) (hg : Grows p q) : Current textColor q := by
  have hentries := hg.entries
  rw [hg.eq]
  refine ⟨Nat.le_trans h.rendered_le hentries.length_le, ?_⟩
  obtain ⟨more, hmore⟩ := hentries
  rw [← hmore, List.take_append_of_le_length h.rendered_le]
  exact h.lines_eq

theorem clear (textColor : Rgba) (p : LogPanel) : Current textColor p.clear := nil textColor _

theorem withView (h : Current textColor p) (view : ScrollView) :
    Current textColor { p with view } := ⟨h.rendered_le, h.lines_eq⟩

/-- The log never became shorter, so a `sync` only adds lines. -/
theorem sync_eq (h : Current textColor p) : p.sync textColor =
    { p with
      lines := p.log.entries.flatMap (entryLines textColor)
      rendered := p.log.size } := by
  rw [sync, if_neg (Nat.not_lt.mpr h.rendered_le)]
  simp only [linesOf_eq, h.lines_eq]
  rw [← List.flatMap_append, List.take_append_drop]

theorem sync (h : Current textColor p) : Current textColor (p.sync textColor) := by
  rw [h.sync_eq]
  refine ⟨Nat.le_refl _, ?_⟩
  rw [Log.size, List.take_length]

end Current

end LogPanel

end TraceView
