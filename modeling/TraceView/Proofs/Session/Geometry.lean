import TraceView.Proofs.Number.Word
import TraceView.Proofs.Session.RoleList
import TraceView.Proofs.Session.Selection
import TraceView.Proofs.Tooltip.Extent

namespace TraceView

namespace Session

/-- How the color panel is divided. Nothing is known of it but that each part lies within the whole. -/
structure Panes (frame : Area) where
  inner : Area
  divide : Nat → Area × Area
  inner_within : inner.Within frame
  list_within : ∀ rows, (divide rows).1.Within inner
  picker_within : ∀ rows, (divide rows).2.Within inner

theorem Layout.colors_within (width height : Nat) :
    (Layout.ofFrame width height).colors.Within ⟨0, 0, width, height⟩ :=
  (Area.splitColumns_within _ _).2.trans (Area.splitRows_within _ _).1

namespace Panes

def ofFrame (width height : Nat) : Panes ⟨0, 0, width, height⟩ :=
  let inner := (Layout.ofFrame width height).colors.inner
  { inner
    divide rows := inner.splitRows (max 1 (inner.height - rows))
    inner_within := (Area.inner_within _).trans (Layout.colors_within width height)
    list_within _ := (Area.splitRows_within _ _).1
    picker_within _ := (Area.splitRows_within _ _).2 }

variable {frame : Area} (panes : Panes frame)

/-- `ColorLayout.ofInner` for any division. -/
def layout (selected : Nat) : ColorLayout :=
  let columns := max 1 panes.inner.width
  let swatchRows := (Picker.count + columns - 1) / columns
  let parts := panes.divide (swatchRows + 1)
  let visible := max 1 parts.1.height
  { list := parts.1, picker := parts.2, columns, first := selected + 1 - visible, visible }

def checked (selected : Nat) : Except Word.Fault (ColorLayout × Area) := do
  let columns := max 1 panes.inner.width
  let swatchRows ← Word.div Picker.count columns
  let rows ← Word.add 16 (Word.low 16 swatchRows) 1
  let parts := panes.divide rows
  let visible := max 1 parts.1.height
  let next ← Word.add 64 selected 1
  let first := next - visible
  let offset ← Word.sub selected first
  let y ← Word.add 16 parts.1.y (Word.low 16 offset)
  let l : ColorLayout := { list := parts.1, picker := parts.2, columns, first, visible }
  return (l, ⟨parts.1.x, y, parts.1.width, 1⟩)

variable {panes}

theorem list_within_frame (selected : Nat) : (panes.layout selected).list.Within frame :=
  (panes.list_within _).trans panes.inner_within

theorem checked_eq (hbottom : frame.bottom < 2 ^ 16) {selected : Nat}
    (hselected : selected < 2 ^ 16) :
    panes.checked selected =
      .ok (panes.layout selected, (panes.layout selected).anchor selected) := by
  have hcolumns : 0 < max 1 panes.inner.width := by omega
  have hswatches : (Picker.count + max 1 panes.inner.width - 1) / max 1 panes.inner.width ≤ 64 := by
    refine Nat.div_le_of_le_mul ?_
    rw [Picker.count]
    omega
  have hlist : (panes.layout selected).list.bottom < 2 ^ 16 :=
    Nat.lt_of_le_of_lt (panes.list_within_frame selected).bottom hbottom
  simp only [layout, Area.bottom] at hlist
  simp only [checked, layout, ColorLayout.anchor]
  rw [Word.div_of_pos hcolumns, Word.ok_bind, Word.low_of_lt (by omega), Word.add_of_lt (by omega),
    Word.ok_bind, Word.add_of_lt (by omega), Word.ok_bind, Word.sub_of_le (by omega), Word.ok_bind,
    Word.low_of_lt (by omega), Word.add_of_lt (by omega)]
  rfl

end Panes

def checkedPopup (frame : Area) (style : WidgetStyle) (anchor : Area) (lines : List TextLine) :
    Except Word.Fault Area := do
  let content := Word.low 16 (((lines.map TextLine.width).max?).getD 0)
  let wide ← Word.add 16 content 2
  let tall ← Word.add 16 (Word.low 16 lines.length) 2
  let columns := min (min wide (style.scale tipColumns).toUInt16.toNat) frame.width
  let rows := min tall frame.height
  return ⟨max (anchor.x - columns) frame.x, min anchor.y (frame.bottom - rows), columns, rows⟩

theorem checkedPopup_eq (style : WidgetStyle) (width height : Nat) (anchor : Area)
    {lines : List TextLine} (hlines : lines.length + 2 < 2 ^ 16)
    (hwidth : ∀ line ∈ lines, line.width + 2 < 2 ^ 16) :
    checkedPopup ⟨0, 0, width, height⟩ style anchor lines =
      .ok (popupArea style width height anchor lines) := by
  have hcontent : ((lines.map TextLine.width).max?).getD 0 + 2 < 2 ^ 16 := by
    cases hmax : (lines.map TextLine.width).max? with
    | none => decide
    | some widest =>
      obtain ⟨line, hline, rfl⟩ := List.mem_map.mp (List.max?_mem hmax)
      exact hwidth line hline
  simp only [checkedPopup, popupArea]
  rw [Word.low_of_lt (by omega), Word.add_of_lt hcontent, Word.ok_bind, Word.low_of_lt (by omega),
    Word.add_of_lt hlines, Word.ok_bind]
  simp only [Area.bottom, Nat.max_zero, Nat.zero_add]
  rfl

theorem popupArea_within (style : WidgetStyle) {width height : Nat} {anchor : Area}
    (h : anchor.x ≤ width) (lines : List TextLine) :
    (popupArea style width height anchor lines).Within ⟨0, 0, width, height⟩ := by
  constructor <;> simp only [popupArea, Area.right, Area.bottom] <;> omega

theorem size_pushLabel_le (t : RichText) (c : Rgba) : (Editor.pushLabel t c).size ≤ t.size + 37 := by
  have hlabel : c.label.length = 8 := by simp [Rgba.label, Hex.byte]
  have hcolored := t.size_pushColored_le (c.withAlpha 255) c.label
  rwa [hlabel] at hcolored

theorem size_roleTip_le (e : Editor) : e.roleTip.size ≤ 153 := by
  let name := RichText.empty.pushColored (e.colors.get .brightText) e.role.name
  let value := Editor.pushLabel (name.pushNewline.pushText "value ") e.color
  have hname : name.size ≤ 53 := by
    have hlength : e.role.name.length ≤ 12 := by cases e.role <;> decide
    have hcolored := RichText.empty.size_pushColored_le (e.colors.get .brightText) e.role.name
    have hempty : RichText.empty.size = 0 := rfl
    exact Nat.le_trans hcolored (by omega)
  have hvalue : value.size ≤ 115 := by
    have hlabel := size_pushLabel_le (name.pushNewline.pushText "value ") e.color
    have htext := name.pushNewline.size_pushText_le "value "
    have hlength : "value ".length = 6 := by decide
    have hline := name.size_pushNewline
    exact Nat.le_trans hlabel (by omega)
  have hstate : (if e.colors.isChanged e.role then "modified" else "saved").length ≤ 8 := by
    split <;> decide
  have hcolored := value.pushNewline.size_pushColored_le (e.colors.get .dimText)
    (if e.colors.isChanged e.role then "modified" else "saved")
  have hline := value.size_pushNewline
  exact Nat.le_trans hcolored (by omega)

theorem size_swatchTip_le (e : Editor) : e.swatchTip.size ≤ 66 := by
  have hlabel := size_pushLabel_le (RichText.empty.pushNewline.pushText "swatch ") e.swatchColor
  have htext := RichText.empty.pushNewline.size_pushText_le "swatch "
  have hlength : "swatch ".length = 7 := by decide
  have hline : RichText.empty.pushNewline.size = 1 := rfl
  exact Nat.le_trans hlabel (by omega)

theorem tipLines_le {s : Session} {lines : List TextLine} (h : lines ∈ s.tipLines?) :
    lines.length ≤ 1000 ∧ ∀ line ∈ lines, line.width ≤ 1000 := by
  have hsize : s.tip.pending.size ≤ 219 := by
    have hrole := size_roleTip_le s.editor
    have hswatch := size_swatchTip_le s.editor
    unfold tip
    split
    · simp only [Tooltip.add, Tooltip.set, RichText.size, RichText.bytes_append,
        List.length_append] at hrole hswatch ⊢
      omega
    · decide
  obtain ⟨calls, hcalls, rfl⟩ := Option.map_eq_some_iff.mp h
  unfold Tooltip.consume at hcalls
  split at hcalls
  · cases hcalls
  · cases hcalls
    obtain ⟨hlength, hwidth⟩ := Tooltip.overlay_le _ s.tip.pending s.config.textColor
      (Theme.popup s.editor.style) (if s.config.smallFont then some Theme.smallFont else none)
    exact ⟨Nat.le_trans hlength (by omega),
      fun line hline => Nat.le_trans (hwidth line hline) (by omega)⟩

theorem selected_start (config : Config) (palette : Palette) (filter : Filter) (log : Log)
    (tree : Tree) (files : List Path) :
    let e := (start config palette filter log tree files).editor
    e.selected.val = 0 ∧ e.swatch.val = 0 := by
  intro e
  have hopening : e = (opening config palette filter log (opened? config tree)).editor :=
    (background_start config palette filter log tree files).editor
  rw [hopening]
  cases opened? config tree <;> exact ⟨rfl, rfl⟩

/-- After any run the selected role and the active swatch are where the keys turned them to. In a frame of
any size, however the color panel is divided, no step of the layout fails and none of the popup's; the
panel shows the list with the selected role, answers that role's row, and the popup lies within the frame.
A session divides its panel in one of these ways, and its screen shows the list outside the popup. -/
theorem popup_lies_within_frame (config : Config) (palette : Palette) (filter : Filter) (log : Log)
    (tree : Tree) (files : List Path) (steps : List Step) (width height : UInt16) :
    let s := (start config palette filter log tree files).run steps
    let e := s.editor
    let keys := steps.filterMap Step.editorKey?
    let frame : Area := ⟨0, 0, width.toNat, height.toNat⟩
    ((e.selected.val : Int) = (keys.map KeyCode.roleSteps).sum % Role.count ∧
      e.selected.val < Role.count ∧
      (e.swatch.val : Int) = (keys.map KeyCode.swatchSteps).sum % Picker.count ∧
      e.swatch.val < 64) ∧
    (∀ panes : Panes frame,
      let l := panes.layout e.selected
      let anchor := l.anchor e.selected
      panes.checked e.selected = .ok (l, anchor) ∧ 0 < l.columns ∧
        (∀ g a, Shows e l (fun x y => ¬ l.picker.Has x y) (drawColorsIn e g a l).1 ∧
          (drawColorsIn e g a l).2 = anchor) ∧
        ∀ lines ∈ s.tipLines?,
          let popup := popupArea e.style width.toNat height.toNat anchor lines
          checkedPopup frame e.style anchor lines = .ok popup ∧ popup.Within frame) ∧
    let l := ColorLayout.ofInner (Layout.ofFrame width.toNat height.toNat).colors.inner e.selected
    let screen := (s.draw width.toNat height.toNat).1
    l = (Panes.ofFrame width.toNat height.toNat).layout e.selected ∧
      screen.area = frame ∧
      Shows e l
        (fun x y => ∀ lines ∈ s.tipLines?,
          ¬ (popupArea e.style width.toNat height.toNat (l.anchor e.selected) lines).Has x y)
        screen := by
  intro s e keys frame
  refine ⟨?_, fun panes => ?_, rfl, ?_, shows_draw s _ _⟩
  · have hrun : e = keys.foldl Editor.press (start config palette filter log tree files).editor :=
      editor_run _ steps
    obtain ⟨hrole, hswatch⟩ := selected_start config palette filter log tree files
    obtain ⟨hroles, hswatches⟩ :=
      (start config palette filter log tree files).editor.turns_foldl_press keys
    rw [← hrun, hrole, Int.natCast_zero, Int.zero_add] at hroles
    rw [← hrun, hswatch, Int.natCast_zero, Int.zero_add] at hswatches
    exact ⟨hroles, e.selected.isLt, hswatches, e.swatch.isLt⟩
  · intro l anchor
    have hbottom : frame.bottom < 2 ^ 16 := by
      simp only [frame, Area.bottom, Nat.zero_add]
      exact height.toNat_lt
    have hselected : e.selected.val < 2 ^ 16 := Nat.lt_trans e.selected.isLt (by decide)
    refine ⟨Panes.checked_eq hbottom hselected, Nat.le_max_left _ _,
      fun g a => ⟨shows_drawColorsIn rfl rfl g a, rfl⟩, fun lines hlines => ?_⟩
    obtain ⟨hcount, hwidth⟩ := tipLines_le hlines
    have hleft : anchor.x ≤ width.toNat := by
      have hright := (panes.list_within_frame e.selected).right
      simp only [frame, Area.right, Nat.zero_add] at hright
      exact Nat.le_trans (Nat.le_add_right _ _) hright
    refine ⟨checkedPopup_eq _ _ _ _ (by omega) fun line hline => ?_, popupArea_within _ hleft _⟩
    have hsmall := hwidth line hline
    omega
  · obtain ⟨hwidth, hheight⟩ := s.size_draw width.toNat height.toNat
    rw [Grid.area, hwidth, hheight]

theorem popup_lies_within_frame_tiny :
    let s := (start { settingsPath := none } .standard ⟨[]⟩ {} {} []).run [.press { code := .up }]
    let anchor := ((Panes.ofFrame 3 2).layout s.editor.selected).anchor s.editor.selected
    s.editor.selected.val = 16 ∧ ∃ lines ∈ s.tipLines?,
      (popupArea s.editor.style 3 2 anchor lines).Within ⟨0, 0, 3, 2⟩ := by
  intro s anchor
  obtain ⟨⟨hselected, -⟩, hpopup, -⟩ :=
    popup_lies_within_frame { settingsPath := none } .standard ⟨[]⟩ {} {} [] [.press { code := .up }] 3 2
  have hsome : s.tipLines?.isSome = true := by decide +kernel
  obtain ⟨lines, hlines⟩ := Option.isSome_iff_exists.mp hsome
  obtain ⟨-, hwithin⟩ := (hpopup (Panes.ofFrame 3 2)).2.2.2 lines hlines
  exact ⟨Int.ofNat.inj hselected, lines, hlines, hwithin⟩

end Session

end TraceView
