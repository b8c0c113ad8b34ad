import TraceView.Proofs.Screen.Area
import TraceView.Screen.Box
import Mathlib.Data.List.Basic

namespace TraceView

namespace Grid

theorem place_inj {w x x' y y' : Nat} (hx : x < w) (hx' : x' < w) :
    y * w + x = y' * w + x' ↔ x' = x ∧ y' = y := by
  constructor
  · intro h
    have hmod := congrArg (· % w) h
    have hdiv := congrArg (· / w) h
    have hpos : 0 < w := by omega
    simp only [Nat.mul_comm _ w, Nat.mul_add_mod, Nat.mod_eq_of_lt hx, Nat.mod_eq_of_lt hx',
      Nat.mul_add_div hpos, Nat.div_eq_of_lt hx, Nat.div_eq_of_lt hx', Nat.add_zero] at hmod hdiv
    exact ⟨hmod.symm, hdiv.symm⟩
  · rintro ⟨rfl, rfl⟩
    rfl

theorem get?_modify (g : Grid) (x y x' y' : Nat) (f : Cell → Cell) :
    (g.modify x y f).get? x' y' =
      if x' = x ∧ y' = y then (g.get? x y).map f else g.get? x' y' := by
  unfold modify
  split
  case isTrue h =>
    simp only [get?]
    by_cases hx' : x' < g.width
    case pos =>
      rw [if_pos hx', if_pos hx', if_pos h.1, Vector.getElem?_set]
      simp only [place_inj h.1 hx']
      split
      · rw [Vector.getElem?_eq_getElem h.2]
        rfl
      · rfl
    case neg =>
      have hne : ¬ (x' = x ∧ y' = y) := fun heq => hx' (heq.1 ▸ h.1)
      rw [if_neg hx', if_neg hx', if_neg hne]
  case isFalse h =>
    split
    case isFalse => rfl
    case isTrue heq =>
      obtain ⟨rfl, rfl⟩ := heq
      have hnone : g.get? x' y' = none := by
        unfold get?
        split
        · exact Vector.getElem?_eq_none (Nat.not_lt.mp fun hlt => h ⟨‹_›, hlt⟩)
        · rfl
      rw [hnone, Option.map_none]

structure Agree (p : Nat → Nat → Prop) (g g' : Grid) : Prop where
  width : g.width = g'.width
  height : g.height = g'.height
  cells : ∀ x y, p x y → g.get? x y = g'.get? x y

namespace Agree

variable {g g' g'' : Grid} {p : Nat → Nat → Prop}

theorem refl (p : Nat → Nat → Prop) (g : Grid) : Agree p g g := ⟨rfl, rfl, fun _ _ _ => rfl⟩

theorem trans (h : Agree p g g') (h' : Agree p g' g'') : Agree p g g'' where
  width := h.width.trans h'.width
  height := h.height.trans h'.height
  cells x y hp := (h.cells x y hp).trans (h'.cells x y hp)

theorem modify (h : Agree p g g') (x y : Nat) (f : Cell → Cell) :
    Agree p (g.modify x y f) (g'.modify x y f) where
  width := by simp [h.width]
  height := by simp [h.height]
  cells x' y' hp := by
    rw [get?_modify, get?_modify]
    split
    case isTrue heq =>
      obtain ⟨rfl, rfl⟩ := heq
      rw [h.cells _ _ hp]
    case isFalse => exact h.cells _ _ hp

theorem row_eq {y : Nat} (h : Agree (fun _ y' => y' = y) g g') : g.row y = g'.row y := by
  unfold row
  rw [h.width]
  refine List.map_congr_left fun x _ => ?_
  rw [get, get, h.cells x y rfl]

theorem of_modify {x y : Nat} (hp : ¬ p x y) (g : Grid) (f : Cell → Cell) :
    Agree p (g.modify x y f) g where
  width := by simp
  height := by simp
  cells x' y' hp' := by
    rw [get?_modify, if_neg]
    rintro ⟨rfl, rfl⟩
    exact hp hp'

theorem cover (h : Agree p g g') (x y n : Nat) : Agree p (g.cover x y n) (g'.cover x y n) := by
  induction n generalizing g g' x with
  | zero => exact h
  | succ n ih => exact ih (h.modify x y _) (x + 1)

theorem of_cover {x y n : Nat} (hp : ∀ i < n, ¬ p (x + i) y) (g : Grid) :
    Agree p (g.cover x y n) g := by
  induction n generalizing g x with
  | zero => exact .refl p g
  | succ n ih =>
    have hrest : ∀ i < n, ¬ p (x + 1 + i) y := fun i hi => by
      have := hp (i + 1) (by omega)
      rwa [Nat.add_comm i 1, ← Nat.add_assoc] at this
    exact (ih hrest _).trans (.of_modify (hp 0 (by omega)) g _)

theorem putClusters (h : Agree p g g') (x y room : Nat) (look : Look) (cs : List (String × Nat)) :
    Agree p (g.putClusters x y room look cs).1 (g'.putClusters x y room look cs).1 := by
  induction cs generalizing g g' x room with
  | nil => exact h
  | cons c cs ih =>
    unfold Grid.putClusters
    split
    · exact ih ((h.modify x y _).cover (x + 1) y _) _ _
    · exact h

theorem of_putClusters {cs : List (String × Nat)} (hcs : ∀ c ∈ cs, 0 < c.2) {x y room : Nat}
    (hp : ∀ i < room, ¬ p (x + i) y) (g : Grid) (look : Look) :
    Agree p (g.putClusters x y room look cs).1 g := by
  induction cs generalizing g x room with
  | nil => exact .refl p g
  | cons c cs ih =>
    obtain ⟨hc, hcs⟩ := List.forall_mem_cons.mp hcs
    unfold Grid.putClusters
    split
    case isFalse => exact .refl p g
    case isTrue hfits =>
      have hput : Agree p (g.put x y c.1 look) g := .of_modify (hp 0 (by omega)) g _
      have hcover : ∀ i < c.2 - 1, ¬ p (x + 1 + i) y := fun i hi => by
        rw [Nat.add_assoc]
        exact hp (1 + i) (by omega)
      have hrest : ∀ i < room - c.2, ¬ p (x + c.2 + i) y := fun i hi => by
        rw [Nat.add_assoc]
        exact hp (c.2 + i) (by omega)
      exact ((ih hcs hrest _).trans (.of_cover hcover _)).trans hput

end Agree

def reach (x room : Nat) : List (String × Nat) → Nat
  | [] => x
  | (_, w) :: rest => if w ≤ room then reach (x + w) (room - w) rest else x

theorem putClusters_snd (g : Grid) (x y room : Nat) (look : Look) (cs : List (String × Nat)) :
    (g.putClusters x y room look cs).2 = reach x room cs := by
  induction cs generalizing g x room with
  | nil => rfl
  | cons c cs ih =>
    unfold putClusters reach
    split
    · exact ih ..
    · rfl

theorem reach_bounds (x room : Nat) (cs : List (String × Nat)) :
    x ≤ reach x room cs ∧ reach x room cs ≤ x + room := by
  induction cs generalizing x room with
  | nil => exact ⟨Nat.le_refl x, Nat.le_add_right x room⟩
  | cons c cs ih =>
    unfold reach
    split
    case isTrue hfits =>
      have := ih (x + c.2) (room - c.2)
      omega
    case isFalse => exact ⟨Nat.le_refl x, Nat.le_add_right x room⟩

theorem pos_of_mem_visibleClusters {s : String} : ∀ c ∈ visibleClusters s, 0 < c.2 := by
  intro c hc
  obtain ⟨cluster, -, hcluster⟩ := List.mem_filterMap.mp hc
  dsimp only at hcluster
  split at hcluster
  case isTrue => cases hcluster
  case isFalse hw =>
    cases hcluster
    exact Nat.pos_of_ne_zero hw

theorem putText_snd (g : Grid) (x y room : Nat) (s : String) (look : Look) :
    (g.putText x y room s look).2 = reach x (min room (g.width - x)) (visibleClusters s) :=
  putClusters_snd ..

namespace Agree

variable {g g' : Grid} {p : Nat → Nat → Prop} {x y room : Nat}

theorem putText (h : Agree p g g') (x y room : Nat) (s : String) (look : Look) :
    Agree p (g.putText x y room s look).1 (g'.putText x y room s look).1 := by
  unfold Grid.putText
  rw [h.width]
  exact h.putClusters ..

theorem of_putText (hp : ∀ i < room, ¬ p (x + i) y) (g : Grid) (s : String) (look : Look) :
    Agree p (g.putText x y room s look).1 g :=
  of_putClusters pos_of_mem_visibleClusters (fun i hi => hp i (by omega)) g look

theorem putSpans (h : Agree p g g') (x y room : Nat) (look : Look) (spans : List Span) :
    Agree p (g.putSpans x y room look spans) (g'.putSpans x y room look spans) := by
  induction spans generalizing g g' x room with
  | nil => exact h
  | cons s spans ih =>
    have hnext : (g.putText x y room s.text (look.patch s.look)).2 =
        (g'.putText x y room s.text (look.patch s.look)).2 := by
      rw [putText_snd, putText_snd, h.width]
    unfold Grid.putSpans
    dsimp only
    rw [hnext]
    exact ih (h.putText ..) _ _

theorem of_putSpans (hp : ∀ i < room, ¬ p (x + i) y) (g : Grid) (look : Look) (spans : List Span) :
    Agree p (g.putSpans x y room look spans) g := by
  induction spans generalizing g x room with
  | nil => exact .refl p g
  | cons s spans ih =>
    unfold Grid.putSpans
    dsimp only
    have htext := of_putText hp g s.text (look.patch s.look)
    have hnext := putText_snd g x y room s.text (look.patch s.look)
    have hbounds := reach_bounds x (min room (g.width - x)) (visibleClusters s.text)
    rw [← hnext] at hbounds
    generalize g.putText x y room s.text (look.patch s.look) = put at htext hbounds
    obtain ⟨g', next⟩ := put
    refine (ih (fun i hi => ?_) g').trans htext
    have := hp (next - x + i) (by simp only at hbounds hi; omega)
    rwa [← Nat.add_assoc, Nat.add_sub_cancel' hbounds.1] at this

theorem putLine (h : Agree p g g') (x y room : Nat) (line : TextLine) :
    Agree p (g.putLine x y room line) (g'.putLine x y room line) :=
  h.putSpans ..

theorem of_putLine (hp : ∀ i < room, ¬ p (x + i) y) (g : Grid) (line : TextLine) :
    Agree p (g.putLine x y room line) g :=
  of_putSpans hp g line.look line.spans

end Agree

def putRows (g : Grid) (a : Area) (k : Nat) (lines : List TextLine) : Grid :=
  (lines.zipIdx k).foldl (fun g (line, i) => g.putLine a.x (a.y + i) a.width line) g

theorem putLines_eq (g : Grid) (a : Area) (lines : List TextLine) :
    g.putLines a lines = g.putRows a 0 (lines.take a.height) := rfl

theorem putRows_cons (g : Grid) (a : Area) (k : Nat) (line : TextLine) (lines : List TextLine) :
    g.putRows a k (line :: lines) =
      (g.putLine a.x (a.y + k) a.width line).putRows a (k + 1) lines := rfl

namespace Agree

variable {p : Nat → Nat → Prop} {a : Area} {k : Nat} {lines : List TextLine}

theorem of_putRows
    (hp : ∀ j < lines.length, ∀ i < a.width, ¬ p (a.x + i) (a.y + (k + j))) (g : Grid) :
    Agree p (g.putRows a k lines) g := by
  induction lines generalizing g k with
  | nil => exact .refl p g
  | cons line lines ih =>
    have hrest : ∀ j < lines.length, ∀ i < a.width, ¬ p (a.x + i) (a.y + (k + 1 + j)) := by
      intro j hj i hi
      rw [Nat.add_assoc k, Nat.add_comm 1]
      exact hp (j + 1) (Nat.succ_lt_succ hj) i hi
    exact (ih hrest _).trans (.of_putLine (hp 0 (Nat.zero_lt_succ _)) g line)

theorem putRows {j : Nat} {line : TextLine} (hline : lines[j]? = some line) (g : Grid) :
    Agree (fun _ y => y = a.y + (k + j)) (g.putRows a k lines)
      (g.putLine a.x (a.y + (k + j)) a.width line) := by
  induction lines generalizing g k j with
  | nil => cases hline
  | cons first lines ih =>
    rw [putRows_cons]
    cases j with
    | zero =>
      cases hline
      -- The lines below it stay on their own rows.
      exact .of_putRows (fun _ _ _ _ => by omega) _
    | succ j =>
      have hbelow := ih (k := k + 1) hline (g.putLine a.x (a.y + k) a.width first)
      have hfirst : Agree (fun _ y => y = a.y + (k + 1 + j))
          (g.putLine a.x (a.y + k) a.width first) g :=
        .of_putLine (fun _ _ => by omega) g first
      rw [Nat.add_comm j 1, ← Nat.add_assoc k]
      exact hbelow.trans (hfirst.putLine ..)

end Agree

theorem row_putLines {a : Area} {lines : List TextLine} {j : Nat} {line : TextLine}
    (hj : j < a.height) (hline : lines[j]? = some line) (g : Grid) :
    (g.putLines a lines).row (a.y + j) =
      (g.putLine a.x (a.y + j) a.width line).row (a.y + j) := by
  have hrow := Agree.putRows (a := a) (k := 0) ((List.getElem?_take_of_lt hj).trans hline) g
  rw [Nat.zero_add] at hrow
  rw [putLines_eq]
  exact hrow.row_eq

theorem row_putLines_of_empty {a : Area} {lines : List TextLine} {y : Nat}
    (hy : ∀ j < min a.height lines.length, y ≠ a.y + j) (g : Grid) :
    (g.putLines a lines).row y = g.row y := by
  rw [putLines_eq]
  refine (Agree.of_putRows (fun j hj i _ heq => hy j ?_ ?_) g).row_eq
  · rwa [List.length_take] at hj
  · rw [← heq, Nat.zero_add]

namespace Agree

variable {p : Nat → Nat → Prop} {a : Area}

theorem of_foldl {α : Type} {as : List α} {f : Grid → α → Grid} (h : ∀ b ∈ as, ∀ g, Agree p (f g b) g)
    (g : Grid) : Agree p (as.foldl f g) g := by
  induction as generalizing g with
  | nil => exact .refl p g
  | cons b as ih =>
    obtain ⟨hb, has⟩ := List.forall_mem_cons.mp h
    exact (ih has _).trans (hb g)

theorem of_modifyArea (hp : ∀ x y, a.Has x y → ¬ p x y) (g : Grid) (f : Cell → Cell) :
    Agree p (g.modifyArea a f) g :=
  of_foldl (fun _ hc g => of_modify (hp _ _ (Area.has_of_mem_cells hc)) g f) g

theorem of_putLines (hp : ∀ x y, a.Has x y → ¬ p x y) (g : Grid) (lines : List TextLine) :
    Agree p (g.putLines a lines) g := by
  rw [putLines_eq]
  refine of_putRows (fun j hj i hi => hp _ _ ?_) g
  rw [List.length_take] at hj
  simp only [Area.Has, Area.right, Area.bottom]
  omega

theorem of_paint_putLines (hp : ∀ x y, a.Has x y → ¬ p x y) (g : Grid) (look : Look)
    (lines : List TextLine) : Agree p ((g.paint a look).putLines a lines) g :=
  (of_putLines hp _ lines).trans (of_modifyArea hp g _)

theorem of_putBorder (hempty : a.isEmpty = false) (hp : ∀ x y, a.Has x y → ¬ p x y) (g : Grid)
    (look : Look) : Agree p (g.putBorder a look) g := by
  have hsize : 0 < a.width ∧ 0 < a.height := by
    simpa [Area.isEmpty, Nat.pos_iff_ne_zero] using hempty
  have hput {x y : Nat} (symbol : String) (hx : a.x ≤ x ∧ x < a.right) (hy : a.y ≤ y ∧ y < a.bottom)
      (g : Grid) : Agree p (g.put x y symbol look) g :=
    of_modify (hp x y ⟨hx, hy⟩) g _
  have hrows {x : Nat} (hx : a.x ≤ x ∧ x < a.right) (g : Grid) :
      Agree p (((List.range a.height).map (a.y + ·)).foldl (fun g y => g.put x y "│" look) g) g := by
    refine of_foldl (fun y hy g => hput "│" hx ?_ g) g
    obtain ⟨i, hi, rfl⟩ := List.mem_map.mp hy
    exact ⟨Nat.le_add_right _ _, Nat.add_lt_add_left (List.mem_range.mp hi) _⟩
  have hcolumns {y : Nat} (hy : a.y ≤ y ∧ y < a.bottom) (g : Grid) :
      Agree p (((List.range a.width).map (a.x + ·)).foldl (fun g x => g.put x y "─" look) g) g := by
    refine of_foldl (fun x hx g => hput "─" ?_ hy g) g
    obtain ⟨i, hi, rfl⟩ := List.mem_map.mp hx
    exact ⟨Nat.le_add_right _ _, Nat.add_lt_add_left (List.mem_range.mp hi) _⟩
  have hleft : a.x ≤ a.x ∧ a.x < a.right := by simp only [Area.right]; omega
  have hright : a.x ≤ a.right - 1 ∧ a.right - 1 < a.right := by simp only [Area.right]; omega
  have htop : a.y ≤ a.y ∧ a.y < a.bottom := by simp only [Area.bottom]; omega
  have hbottom : a.y ≤ a.bottom - 1 ∧ a.bottom - 1 < a.bottom := by simp only [Area.bottom]; omega
  have hsides := (hcolumns hbottom _).trans
    ((hrows hright _).trans ((hcolumns htop _).trans (hrows hleft g)))
  exact (hput "┌" hleft htop _).trans ((hput "└" hleft hbottom _).trans
    ((hput "┐" hright htop _).trans ((hput "┘" hright hbottom _).trans hsides)))

theorem of_putBox (hp : ∀ x y, a.Has x y → ¬ p x y) (g : Grid) (title : String)
    (fill border : Look) : Agree p (g.putBox a title fill border) g := by
  unfold Grid.putBox
  split
  case isTrue => exact .refl p g
  case isFalse hempty =>
    have hborder := (of_putBorder (Bool.not_eq_true _ ▸ hempty) hp (g.paint a fill) border).trans
      (of_modifyArea hp g _)
    refine (of_putText (fun i hi => hp _ _ ?_) _ title {}).trans hborder
    simp only [Area.isEmpty, Bool.or_eq_true, beq_iff_eq] at hempty
    simp only [Area.Has, Area.right, Area.bottom]
    omega

end Agree

end Grid

end TraceView
