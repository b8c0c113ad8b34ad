import TraceView.Proofs.Screen.Rows

/-!
What stands in the cells of a line. A cluster has the column that the widths of those before it give,
wherever the spans of the line part; it is there if it ends before the room does.
-/

namespace TraceView

structure Tile where
  symbol : String
  width : Nat
  look : Look

namespace Tile

def total : List Tile → Nat
  | [] => 0
  | t :: ts => t.width + total ts

@[simp] theorem total_nil : total [] = 0 := rfl

@[simp] theorem total_cons (t : Tile) (ts : List Tile) : total (t :: ts) = t.width + total ts := rfl

@[simp] theorem total_append (ts us : List Tile) : total (ts ++ us) = total ts + total us := by
  induction ts with
  | nil => simp
  | cons t ts ih => simp [ih, Nat.add_assoc]

def columns (x : Nat) : List Tile → List (Nat × Tile)
  | [] => []
  | t :: ts => (x, t) :: columns (x + t.width) ts

theorem columns_append (x : Nat) (ts us : List Tile) :
    columns x (ts ++ us) = columns x ts ++ columns (x + total ts) us := by
  induction ts generalizing x with
  | nil => rfl
  | cons t ts ih => simp [columns, ih, Nat.add_assoc]

theorem columns_bounds {x c : Nat} {t : Tile} {ts : List Tile} (h : (c, t) ∈ columns x ts) :
    x ≤ c ∧ c + t.width ≤ x + total ts := by
  induction ts generalizing x with
  | nil => cases h
  | cons first ts ih =>
    rcases List.mem_cons.mp h with heq | hrest
    · cases heq
      exact ⟨Nat.le_refl _, by rw [total_cons]; omega⟩
    · have := ih hrest
      rw [total_cons]
      omega

/-- Behind a tile that does not fit none fits. -/
theorem lt_of_mem_columns {x limit c : Nat} {first t : Tile} {ts : List Tile}
    (hfirst : limit < x + first.width) (h : (c, t) ∈ columns x (first :: ts)) :
    limit < c + t.width := by
  rcases List.mem_cons.mp h with heq | hrest
  · cases heq
    exact hfirst
  · have := (columns_bounds hrest).1
    omega

theorem mem_of_mem_columns {x c : Nat} {t : Tile} {ts : List Tile} (h : (c, t) ∈ columns x ts) :
    t ∈ ts := by
  induction ts generalizing x with
  | nil => cases h
  | cons first ts ih =>
    rcases List.mem_cons.mp h with heq | hrest
    · cases heq
      exact List.mem_cons_self
    · exact List.mem_cons_of_mem _ (ih hrest)

def ofClusters (look : Look) (cs : List (String × Nat)) : List Tile :=
  cs.map fun c => ⟨c.1, c.2, look⟩

def ofSpans (look : Look) (spans : List Span) : List Tile :=
  spans.flatMap fun s => ofClusters (look.patch s.look) (visibleClusters s.text)

end Tile

def TextLine.tiles (line : TextLine) : List Tile := Tile.ofSpans line.look line.spans

theorem Tile.width_pos {x c : Nat} {t : Tile} {line : TextLine} (h : (c, t) ∈ columns x line.tiles) :
    0 < t.width := by
  have ht := mem_of_mem_columns h
  obtain ⟨s, -, hs⟩ := List.mem_flatMap.mp ht
  obtain ⟨cluster, hcluster, rfl⟩ := List.mem_map.mp hs
  exact Grid.pos_of_mem_visibleClusters _ hcluster

namespace Grid

/-- Of tiles from a column on, those that end before `limit` are in a row of the grid: each paints its
first cell, whatever was there, and blanks the others. Nothing else in the row is another than it was. -/
structure Laid (x y limit : Nat) (ts : List Tile) (g g' : Grid) : Prop where
  first : ∀ c t, (c, t) ∈ Tile.columns x ts → c + t.width ≤ limit →
    g'.get? c y = (g.get? c y).map fun cell => { cell.paint t.look with symbol := t.symbol }
  others : ∀ c t, (c, t) ∈ Tile.columns x ts → c + t.width ≤ limit →
    ∀ k, c < k → k < c + t.width → g'.get? k y = (g.get? k y).map fun _ => .blank
  beyond : ∀ k, k < x ∨ min limit (x + Tile.total ts) ≤ k → g'.get? k y = g.get? k y

namespace Laid

variable {x y next limit : Nat} {ts us : List Tile} {g g₁ g₂ : Grid}

theorem nil (x y limit : Nat) (g : Grid) : Laid x y limit [] g g := ⟨nofun, nofun, fun _ _ => rfl⟩

theorem congr (h : Laid x y limit ts g g₁) (hagree : Agree (fun _ y' => y' = y) g₂ g₁) :
    Laid x y limit ts g g₂ where
  first c t ht hfits := (hagree.cells c y rfl).trans (h.first c t ht hfits)
  others c t ht hfits k hk hk' := (hagree.cells k y rfl).trans (h.others c t ht hfits k hk hk')
  beyond k hk := (hagree.cells k y rfl).trans (h.beyond k hk)

/-- Tiles behind others. These end at `next` if they all fit, and else behind each that fits. -/
theorem append (h : Laid x y limit ts g g₁) (h' : Laid next y limit us g₁ g₂)
    (hnext : x ≤ next ∧ next ≤ x + Tile.total ts)
    (hall : x + Tile.total ts ≤ limit → next = x + Tile.total ts)
    (hfits : ∀ c t, (c, t) ∈ Tile.columns x ts → c + t.width ≤ limit →
      c < next ∧ c + t.width ≤ next) : Laid x y limit (ts ++ us) g g₂ := by
  have hbehind {c : Nat} {t : Tile} (ht : (c, t) ∈ Tile.columns (x + Tile.total ts) us)
      (hlimit : c + t.width ≤ limit) : (c, t) ∈ Tile.columns next us ∧ x + Tile.total ts ≤ c := by
    have hc := (Tile.columns_bounds ht).1
    rw [hall (by omega)]
    exact ⟨ht, hc⟩
  refine ⟨fun c t ht hlimit => ?_, fun c t ht hlimit k hk hk' => ?_, fun k hk => ?_⟩
  · rw [Tile.columns_append, List.mem_append] at ht
    rcases ht with ht | ht
    · rw [h'.beyond c (.inl (hfits c t ht hlimit).1), h.first c t ht hlimit]
    · obtain ⟨ht, hc⟩ := hbehind ht hlimit
      rw [h'.first c t ht hlimit, h.beyond c (by omega)]
  · rw [Tile.columns_append, List.mem_append] at ht
    rcases ht with ht | ht
    · have hend := (hfits c t ht hlimit).2
      rw [h'.beyond k (by omega), h.others c t ht hlimit k hk hk']
    · obtain ⟨ht, hc⟩ := hbehind ht hlimit
      rw [h'.others c t ht hlimit k hk hk', h.beyond k (by omega)]
  · rw [Tile.total_append] at hk
    rw [h'.beyond k (by omega), h.beyond k (by omega)]

end Laid

theorem get?_cover (g : Grid) (x y n x' : Nat) :
    (g.cover x y n).get? x' y =
      if x ≤ x' ∧ x' < x + n then (g.get? x' y).map fun _ => .blank else g.get? x' y := by
  induction n generalizing g x with
  | zero => rw [cover, if_neg (by omega)]
  | succ n ih =>
    rw [cover, ih, get?_modify]
    by_cases hx : x' = x
    case pos =>
      subst hx
      rw [if_neg (by omega), if_pos ⟨rfl, rfl⟩, if_pos (by omega)]
    case neg =>
      simp only [hx, false_and, if_false]
      exact if_congr (by omega) rfl rfl

theorem laid_put {w : Nat} (hw : 0 < w) {x limit : Nat} (hfits : x + w ≤ limit) (y : Nat)
    (symbol : String) (look : Look) (g : Grid) :
    Laid x y limit [⟨symbol, w, look⟩] g ((g.put x y symbol look).cover (x + 1) y (w - 1)) where
  first c t ht _ := by
    cases List.mem_singleton.mp ht
    rw [get?_cover, if_neg (by omega), put, get?_modify, if_pos ⟨rfl, rfl⟩]
  others c t ht _ k hk hk' := by
    cases List.mem_singleton.mp ht
    rw [get?_cover, if_pos (by simp only at hk'; omega), put, get?_modify, if_neg (by omega)]
  beyond k hk := by
    simp only [Tile.total_cons, Tile.total_nil] at hk
    rw [get?_cover, if_neg (by omega), put, get?_modify, if_neg (by omega)]

theorem laid_putClusters {cs : List (String × Nat)} (hcs : ∀ c ∈ cs, 0 < c.2) {x limit : Nat}
    (hx : x ≤ limit) (y : Nat) (look : Look) (g : Grid) :
    Laid x y limit (Tile.ofClusters look cs) g (g.putClusters x y (limit - x) look cs).1 := by
  induction cs generalizing g x with
  | nil => exact .nil x y limit g
  | cons c cs ih =>
    obtain ⟨hc, hcs⟩ := List.forall_mem_cons.mp hcs
    unfold putClusters
    split
    case isTrue hfits =>
      have hrest := ih hcs (x := x + c.2) (by omega)
        ((g.put x y c.1 look).cover (x + 1) y (c.2 - 1))
      rw [Nat.sub_add_eq] at hrest
      have hfirst := laid_put hc (x := x) (show x + c.2 ≤ limit by omega) y c.1 look g
      refine hfirst.append hrest ⟨by omega, by simp⟩ (fun _ => by simp) fun c' t ht _ => ?_
      cases List.mem_singleton.mp ht
      exact ⟨by omega, Nat.le_refl _⟩
    case isFalse hfits =>
      have hfirst : limit < x + c.2 := by omega
      refine ⟨fun c' t ht hlimit => ?_, fun c' t ht hlimit => ?_, fun _ _ => rfl⟩
      · exact absurd (Tile.lt_of_mem_columns hfirst ht) (Nat.not_lt.mpr hlimit)
      · exact absurd (Tile.lt_of_mem_columns hfirst ht) (Nat.not_lt.mpr hlimit)

theorem reach_spec {cs : List (String × Nat)} (hcs : ∀ c ∈ cs, 0 < c.2) {x limit : Nat}
    (hx : x ≤ limit) (look : Look) :
    reach x (limit - x) cs ≤ x + Tile.total (Tile.ofClusters look cs) ∧
      (x + Tile.total (Tile.ofClusters look cs) ≤ limit →
        reach x (limit - x) cs = x + Tile.total (Tile.ofClusters look cs)) ∧
      ∀ c t, (c, t) ∈ Tile.columns x (Tile.ofClusters look cs) → c + t.width ≤ limit →
        c < reach x (limit - x) cs ∧ c + t.width ≤ reach x (limit - x) cs := by
  induction cs generalizing x with
  | nil => exact ⟨Nat.le_refl _, fun _ => rfl, nofun⟩
  | cons c cs ih =>
    obtain ⟨hc, hcs⟩ := List.forall_mem_cons.mp hcs
    have htotal : Tile.total (Tile.ofClusters look (c :: cs)) =
        c.2 + Tile.total (Tile.ofClusters look cs) := Tile.total_cons ..
    unfold reach
    split
    case isTrue hfits =>
      have hrest := (reach_bounds (x + c.2) (limit - x - c.2) cs).1
      obtain ⟨hbound, hall, hbehind⟩ := ih hcs (x := x + c.2) (by omega)
      rw [Nat.sub_add_eq] at hbound hall hbehind
      refine ⟨by omega, fun hlimit => by rw [hall (by omega)]; omega, fun c' t ht hlimit => ?_⟩
      rcases List.mem_cons.mp ht with heq | ht
      · cases heq
        exact ⟨by omega, hrest⟩
      · exact hbehind c' t ht hlimit
    case isFalse hfits =>
      have hfirst : limit < x + c.2 := by omega
      refine ⟨Nat.le_add_right _ _, fun hlimit => by omega, fun c' t ht hlimit => ?_⟩
      exact absurd (Tile.lt_of_mem_columns hfirst ht) (Nat.not_lt.mpr hlimit)

def lineEnd (g : Grid) (x room : Nat) : Nat := x + min room (g.width - x)

theorem laid_putSpans (g : Grid) (x y room : Nat) (look : Look) (spans : List Span) :
    Laid x y (g.lineEnd x room) (Tile.ofSpans look spans) g (g.putSpans x y room look spans) := by
  induction spans generalizing g x room with
  | nil => exact .nil ..
  | cons s spans ih =>
    let look' := look.patch s.look
    let cs := visibleClusters s.text
    have hx : x ≤ g.lineEnd x room := Nat.le_add_right _ _
    have hroom : g.lineEnd x room - x = min room (g.width - x) := Nat.add_sub_cancel_left _ _
    have htext : Laid x y (g.lineEnd x room) (Tile.ofClusters look' cs) g
        (g.putText x y room s.text look').1 := by
      have hlaid := laid_putClusters (pos_of_mem_visibleClusters (s := s.text)) hx y look' g
      rwa [hroom] at hlaid
    have hnext : (g.putText x y room s.text look').2 = reach x (g.lineEnd x room - x) cs := by
      rw [putText_snd, hroom]
    have hwidth : (g.putText x y room s.text look').1.width = g.width :=
      (Agree.of_putText (p := fun _ _ => False) (fun _ _ h => h) g s.text look').width
    obtain ⟨hbound, hall, hfits⟩ :=
      reach_spec (pos_of_mem_visibleClusters (s := s.text)) hx look'
    have hreach := reach_bounds x (g.lineEnd x room - x) cs
    rw [← hnext] at hbound hall hfits hreach
    unfold putSpans
    generalize g.putText x y room s.text look' = put at htext hwidth hbound hall hfits hreach
    obtain ⟨g', next⟩ := put
    dsimp only at hwidth hbound hall hfits hreach ⊢
    have hrest := ih g' next (room - (next - x))
    -- The room that is left ends where it did, wherever the first span stopped.
    have hend : g'.lineEnd next (room - (next - x)) = g.lineEnd x room := by
      unfold lineEnd at hroom hreach ⊢
      omega
    rw [hend] at hrest
    exact htext.append hrest ⟨hreach.1, hbound⟩ hall hfits

theorem laid_putLine (g : Grid) (x y room : Nat) (line : TextLine) :
    Laid x y (g.lineEnd x room) line.tiles g (g.putLine x y room line) :=
  laid_putSpans ..

variable {a : Area}

theorem laid_putLines {lines : List TextLine} {j : Nat} {line : TextLine} (hj : j < a.height)
    (hline : lines[j]? = some line) (g : Grid) :
    Laid a.x (a.y + j) (g.lineEnd a.x a.width) line.tiles g (g.putLines a lines) := by
  have hrow := Agree.putRows (a := a) (k := 0) ((List.getElem?_take_of_lt hj).trans hline) g
  rw [Nat.zero_add] at hrow
  exact (laid_putLine g a.x (a.y + j) a.width line).congr hrow

/-- The lines stand on consecutive rows from the top of an area, each as if it were alone on the grid
`g`: the clusters of its spans one behind another, up to the end of the area. No other row of `g` is
changed. -/
structure Lists (a : Area) (lines : List TextLine) (g g' : Grid) : Prop where
  rows : ∀ (i : Nat) line, lines[i]? = some line →
    g'.row (a.y + i) = (g.putLine a.x (a.y + i) a.width line).row (a.y + i)
  cells : ∀ (i : Nat) line, lines[i]? = some line →
    Laid a.x (a.y + i) (g.lineEnd a.x a.width) line.tiles g g'
  others : ∀ y, (∀ i < lines.length, y ≠ a.y + i) → g'.row y = g.row y

theorem lists_putLines {lines : List TextLine} (h : lines.length ≤ a.height) (g : Grid) :
    Lists a lines g (g.putLines a lines) := by
  have hrow {i : Nat} {line : TextLine} (hline : lines[i]? = some line) : i < a.height :=
    Nat.lt_of_lt_of_le (List.getElem?_eq_some_iff.mp hline).1 h
  exact ⟨fun i line hline => row_putLines (hrow hline) hline g,
    fun i line hline => laid_putLines (hrow hline) hline g,
    fun y hy => row_putLines_of_empty (by rwa [Nat.min_eq_right h]) g⟩

end Grid

end TraceView
