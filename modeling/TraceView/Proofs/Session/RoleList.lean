import TraceView.Proofs.Screen.Cells
import TraceView.Session.Draw

namespace TraceView

namespace Grid

theorem exists_get?_eq {g : Grid} {x y : Nat} (hx : x < g.width) (hy : y < g.height) :
    ∃ cell, g.get? x y = some cell := by
  have hplace : y * g.width + x < g.width * g.height := by
    have hrow : (y + 1) * g.width ≤ g.height * g.width := Nat.mul_le_mul_right _ hy
    rw [Nat.succ_mul, Nat.mul_comm g.height] at hrow
    omega
  exact ⟨_, (if_pos hx).trans (Vector.getElem?_eq_getElem hplace)⟩

end Grid

namespace Session

variable {e : Editor} {l : ColorLayout}

theorem getElem?_listLines_iff {i : Nat} {line : TextLine} :
    (listLines e l)[i]? = some line ↔ i < l.visible ∧
      ∃ h : l.first + i < Role.count, roleLine e (.ofIndex ⟨l.first + i, h⟩) = line := by
  rw [listLines, List.getElem?_map, Option.map_eq_some_iff]
  simp only [List.getElem?_take, Option.ite_none_right_eq_some, List.getElem?_drop]
  constructor
  · rintro ⟨role, ⟨hi, hrole⟩, rfl⟩
    obtain ⟨h, rfl⟩ := List.getElem?_eq_some_iff.mp hrole
    exact ⟨hi, h, rfl⟩
  · rintro ⟨hi, h, rfl⟩
    exact ⟨_, ⟨hi, List.getElem?_eq_getElem h⟩, rfl⟩

def rowText (e : Editor) (role : Role) : String :=
  (if role = e.role then Theme.selectionMarker else Theme.noMarker) ++ Theme.swatchGlyph ++
    Theme.swatchGlyph ++ " " ++ role.name ++ if e.colors.isChanged role then " *" else ""

theorem text_roleLine (e : Editor) (role : Role) : (roleLine e role).text = rowText e role := by
  simp [roleLine, rowText, TextLine.text, String.join, String.append_assoc]

theorem length_listLines (e : Editor) (l : ColorLayout) :
    (listLines e l).length = min l.visible (Role.count - l.first) := by
  rw [listLines, List.length_map, List.length_take, List.length_drop, Role.length_all]

/-- Where `seen` holds a grid shows the list: rows for the roles from `first` on, the selected one among
them, and each cluster of a row in its column, over whatever was there. -/
structure Shows (e : Editor) (l : ColorLayout) (seen : Nat → Nat → Prop) (g : Grid) : Prop where
  first_le : l.first ≤ e.selected
  selected_lt : e.selected < l.first + max l.list.height 1
  count : (listLines e l).length = min (max l.list.height 1) (Role.count - l.first)
  rows : ∀ i line, (listLines e l)[i]? = some line → ∃ h : l.first + i < Role.count,
    line = roleLine e (.ofIndex ⟨l.first + i, h⟩) ∧ line.text = rowText e (.ofIndex ⟨l.first + i, h⟩)
  anchor : 0 < l.list.height → (l.anchor e.selected).Within l.list ∧
    (listLines e l)[(l.anchor e.selected).y - l.list.y]? = some (roleLine e e.role)
  cells : ∀ i line, (listLines e l)[i]? = some line → ∀ c t,
    (c, t) ∈ Tile.columns l.list.x line.tiles → c + t.width ≤ min l.list.right g.width →
    l.list.y + i < min l.list.bottom g.height → seen c (l.list.y + i) →
    ∃ under : Cell, g.get? c (l.list.y + i) = some { under.paint t.look with symbol := t.symbol }

theorem Shows.congr {seen seen' : Nat → Nat → Prop} {g g' : Grid} (h : Shows e l seen g)
    (hagree : Grid.Agree (fun x y => l.list.Has x y ∧ seen' x y) g' g)
    (hseen : ∀ x y, l.list.Has x y → seen' x y → seen x y) : Shows e l seen' g' where
  first_le := h.first_le
  selected_lt := h.selected_lt
  count := h.count
  rows := h.rows
  anchor := h.anchor
  cells i line hline c t ht hfits hrow hc := by
    have hleft := (Tile.columns_bounds ht).1
    have hwidth := Tile.width_pos ht
    rw [hagree.width] at hfits
    rw [hagree.height] at hrow
    have hin : l.list.Has c (l.list.y + i) := ⟨⟨hleft, by omega⟩, Nat.le_add_right _ _, by omega⟩
    rw [hagree.cells c _ ⟨hin, hc⟩]
    exact h.cells i line hline c t ht hfits hrow (hseen c _ hin hc)

theorem shows_putLines (hvisible : l.visible = max 1 l.list.height)
    (hfirst : l.first = e.selected + 1 - l.visible) (g : Grid) :
    Shows e l (fun _ _ => True) (g.putLines l.list (listLines e l)) := by
  refine ⟨by omega, by omega, ?_, fun i line hline => ?_, fun hrow => ⟨?_, ?_⟩,
    fun i line hline c t ht hfits hrow _ => ?_⟩
  · rw [length_listLines, hvisible, Nat.max_comm]
  · obtain ⟨-, h, rfl⟩ := getElem?_listLines_iff.mp hline
    exact ⟨h, rfl, text_roleLine _ _⟩
  · constructor <;> simp only [ColorLayout.anchor, Area.right, Area.bottom] <;> omega
  · have hplace : l.first + (e.selected - l.first) = e.selected.val := by omega
    refine getElem?_listLines_iff.mpr ?_
    simp only [ColorLayout.anchor, Nat.add_sub_cancel_left, hplace]
    exact ⟨by omega, e.selected.isLt, rfl⟩
  · have hsize := Grid.Agree.of_putLines (p := fun _ _ => False) (a := l.list) (fun _ _ _ => id) g
      (listLines e l)
    have hleft := (Tile.columns_bounds ht).1
    have hwidth := Tile.width_pos ht
    rw [hsize.width] at hfits
    rw [hsize.height] at hrow
    obtain ⟨under, hunder⟩ := Grid.exists_get?_eq (g := g) (x := c) (y := l.list.y + i) (by omega) (by omega)
    have hlaid := (Grid.laid_putLines (by simp only [Area.bottom] at hrow; omega) hline g).first c t ht
    refine ⟨under, ?_⟩
    rw [hlaid, hunder]
    · rfl
    · simp only [Grid.lineEnd, Area.right] at hfits ⊢
      omega

theorem shows_drawColorsIn (hvisible : l.visible = max 1 l.list.height)
    (hfirst : l.first = e.selected + 1 - l.visible) (g : Grid) (a : Area) :
    Shows e l (fun x y => ¬ l.picker.Has x y) (drawColorsIn e g a l).1 := by
  have hlist := shows_putLines hvisible hfirst
    ((g.putBox a (colorsTitle e.colors.changedCount) (Theme.panel e.style)
      (Theme.border e.style)).paint l.list (Theme.panel e.style))
  refine hlist.congr ?_ fun _ _ _ _ => trivial
  have hpicker : ∀ x y, l.picker.Has x y → ¬ (l.list.Has x y ∧ ¬ l.picker.Has x y) :=
    fun x y hin h => h.2 hin
  exact .of_paint_putLines hpicker _ _ _

section Frame

variable {p : Nat → Nat → Prop} {a : Area} (hp : ∀ x y, a.Has x y → ¬ p x y)
include hp

theorem agree_drawLog (s : Session) (g : Grid) : Grid.Agree p (s.drawLog g a).1 g := by
  have hinner : ∀ x y, a.inner.Has x y → ¬ p x y := fun x y hin => hp x y (a.inner_within.has hin)
  have hbox := Grid.Agree.of_putBox hp g
    (logTitle (s.panel.sync s.config.textColor).log.size) (Theme.panel s.editor.style)
    (Theme.border s.editor.style)
  exact (Grid.Agree.of_paint_putLines hinner _ _ _).trans hbox

theorem agree_drawColors (e : Editor) (g : Grid) : Grid.Agree p (drawColors e g a).1 g := by
  let l := ColorLayout.ofInner a.inner e.selected
  have hlist : ∀ x y, l.list.Has x y → ¬ p x y := fun x y hin =>
    hp x y (a.inner_within.has ((Area.splitRows_within _ _).1.has hin))
  have hpicker : ∀ x y, l.picker.Has x y → ¬ p x y := fun x y hin =>
    hp x y (a.inner_within.has ((Area.splitRows_within _ _).2.has hin))
  have hbox := Grid.Agree.of_putBox hp g (colorsTitle e.colors.changedCount) (Theme.panel e.style)
    (Theme.border e.style)
  have hrows := (Grid.Agree.of_paint_putLines hlist _ (Theme.panel e.style) (listLines e l)).trans hbox
  exact (Grid.Agree.of_paint_putLines hpicker _ _ _).trans hrows

theorem agree_drawPopup (style : WidgetStyle) (g : Grid) (lines : List TextLine) :
    Grid.Agree p (drawPopup style g a lines) g := by
  have hclear : Grid.Agree p (g.clear a) g := .of_modifyArea hp g _
  have hfill : Grid.Agree p ((g.clear a).paint a (Theme.popup style)) g :=
    (Grid.Agree.of_modifyArea hp _ _).trans hclear
  have hbox := (Grid.Agree.of_putBox hp _ "" {} (Theme.border style)).trans hfill
  exact (Grid.Agree.of_putLines (fun x y hin => hp x y (a.inner_within.has hin)) _ lines).trans hbox

end Frame

theorem agree_draw (s : Session) (width height : Nat) :
    let layout := Layout.ofFrame width height
    let l := ColorLayout.ofInner layout.colors.inner s.editor.selected
    let popup := popupArea s.editor.style width height (l.anchor s.editor.selected)
    Grid.Agree (fun x y => l.list.Has x y ∧ ∀ lines ∈ s.tipLines?, ¬ (popup lines).Has x y)
      (s.draw width height).1
      (drawColors s.editor (s.drawLog (.blank width height) layout.log).1 layout.colors).1 := by
  intro layout l popup
  have hstatus : ∀ x y, layout.status.Has x y →
      ¬ (l.list.Has x y ∧ ∀ lines ∈ s.tipLines?, ¬ (popup lines).Has x y) := by
    rintro x y hin ⟨hlist, -⟩
    have hcolors : layout.colors.Has x y :=
      (Area.inner_within _).has ((Area.splitRows_within _ _).1.has hlist)
    exact Area.splitRows_disjoint ((Area.splitColumns_within _ _).2.has hcolors) hin
  have hpanels := Grid.Agree.of_putLines hstatus
    (drawColors s.editor (s.drawLog (.blank width height) layout.log).1 layout.colors).1
    [(s.drawLog (.blank width height) layout.log).2.statusLine]
  have htip : (s.drawLog (.blank width height) layout.log).2.tipLines? = s.tipLines? := rfl
  unfold draw
  dsimp only
  rw [htip]
  cases hlines : s.tipLines? with
  | none =>
    rw [hlines] at hpanels
    exact hpanels
  | some lines =>
    rw [hlines] at hpanels
    exact (agree_drawPopup (fun x y hin h => h.2 lines rfl hin) _ _ lines).trans hpanels

theorem shows_draw (s : Session) (width height : Nat) :
    let l := ColorLayout.ofInner (Layout.ofFrame width height).colors.inner s.editor.selected
    Shows s.editor l
      (fun x y => ∀ lines ∈ s.tipLines?,
        ¬ (popupArea s.editor.style width height (l.anchor s.editor.selected) lines).Has x y)
      (s.draw width height).1 := by
  intro l
  have hcolors : Shows s.editor l (fun x y => ¬ l.picker.Has x y) _ :=
    shows_drawColorsIn rfl rfl (s.drawLog (.blank width height) (Layout.ofFrame width height).log).1
      (Layout.ofFrame width height).colors
  exact hcolors.congr (agree_draw s width height) fun x y hlist _ => Area.splitRows_disjoint hlist

theorem size_draw (s : Session) (width height : Nat) :
    (s.draw width height).1.width = width ∧ (s.draw width height).1.height = height := by
  have hcolors := agree_drawColors (p := fun _ _ => False) (a := (Layout.ofFrame width height).colors)
    (fun _ _ _ => id) s.editor (s.drawLog (.blank width height) (Layout.ofFrame width height).log).1
  have hlog := agree_drawLog (p := fun _ _ => False) (a := (Layout.ofFrame width height).log)
    (fun _ _ _ => id) s (.blank width height)
  have hrest := agree_draw s width height
  exact ⟨hrest.width.trans (hcolors.width.trans hlog.width),
    hrest.height.trans (hcolors.height.trans hlog.height)⟩

end Session

end TraceView
