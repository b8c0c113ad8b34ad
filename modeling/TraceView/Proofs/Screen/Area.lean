import TraceView.Screen.Area

namespace TraceView.Area

/-- All of an area is in another one, its edges too if it has no cells. -/
structure Within (a b : Area) : Prop where
  left : b.x ≤ a.x
  top : b.y ≤ a.y
  right : a.right ≤ b.right
  bottom : a.bottom ≤ b.bottom

def Has (a : Area) (x y : Nat) : Prop := (a.x ≤ x ∧ x < a.right) ∧ a.y ≤ y ∧ y < a.bottom

theorem has_of_mem_cells {a : Area} {c : Nat × Nat} (h : c ∈ a.cells) : a.Has c.1 c.2 := by
  simp only [cells, List.mem_flatMap, List.mem_map, List.mem_range] at h
  obtain ⟨dy, hdy, dx, hdx, rfl⟩ := h
  simp only [Has, right, bottom]
  omega

variable {a b c : Area} {x y : Nat}

theorem Within.trans (h : a.Within b) (h' : b.Within c) : a.Within c :=
  ⟨Nat.le_trans h'.left h.left, Nat.le_trans h'.top h.top, Nat.le_trans h.right h'.right,
    Nat.le_trans h.bottom h'.bottom⟩

theorem Within.has (h : a.Within b) (hin : a.Has x y) : b.Has x y :=
  ⟨⟨Nat.le_trans h.left hin.1.1, Nat.lt_of_lt_of_le hin.1.2 h.right⟩,
    Nat.le_trans h.top hin.2.1, Nat.lt_of_lt_of_le hin.2.2 h.bottom⟩

theorem inner_within (a : Area) : a.inner.Within a := by
  constructor <;> simp only [inner, right, bottom] <;> omega

theorem splitRows_within (a : Area) (rows : Nat) :
    (a.splitRows rows).1.Within a ∧ (a.splitRows rows).2.Within a := by
  constructor <;> constructor <;> simp only [splitRows, right, bottom] <;> omega

theorem splitRows_disjoint {rows : Nat} (h : (a.splitRows rows).1.Has x y) :
    ¬ (a.splitRows rows).2.Has x y := by
  simp only [Has, splitRows, right, bottom] at h ⊢
  omega

theorem splitColumns_within (a : Area) (columns : Nat) :
    (a.splitColumns columns).1.Within a ∧ (a.splitColumns columns).2.Within a := by
  constructor <;> constructor <;> simp only [splitColumns, right, bottom] <;> omega

end TraceView.Area
