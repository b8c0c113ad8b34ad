import TraceView.Proofs.Screen.Cells
import TraceView.Screen.ScrollView
import Mathlib.Data.List.DropRight

namespace TraceView.ScrollView

inductive Step where
  | scroll (delta : Int)
  | toBottom
  | draw (lines : List TextLine) (height : Nat)

namespace Step

def isUp : Step → Bool
  | .scroll delta => delta < 0
  | _ => false

def Extends (lines : List TextLine) (height : Nat) : Step → Prop
  | .draw lines' height' => lines <+: lines' ∧ height' = height
  | _ => False

end Step

def step (v : ScrollView) : Step → ScrollView
  | .scroll delta => v.scroll delta
  | .toBottom => v.toBottom
  | .draw lines height => v.settle lines.length height

def run (v : ScrollView) (steps : List Step) : ScrollView := steps.foldl step v

theorem run_concat (v : ScrollView) (steps : List Step) (s : Step) :
    v.run (steps ++ [s]) = (v.run steps).step s := by
  simp [run]

variable {v : ScrollView} {count height : Nat}

structure Settled (count height : Nat) (v : ScrollView) : Prop where
  total : v.total = count
  offset_le : v.offset ≤ count - height
  follow_iff : v.follow = true ↔ v.offset = count - height

theorem settled_settle (v : ScrollView) (count height : Nat) :
    Settled count height (v.settle count height) where
  total := rfl
  offset_le := by
    simp only [settle]
    split
    · exact Nat.le_refl _
    · exact Nat.min_le_right ..
  follow_iff := by
    cases h : v.follow <;> simp [settle, h]

theorem settle_of_follow (h : v.follow = true) (count height : Nat) :
    v.settle count height = { offset := count - height, total := count, follow := true } := by
  simp [settle, h]

theorem settle_of_above (hfollow : v.follow = false) (habove : v.offset < count - height) :
    v.settle count height = { v with total := count } := by
  simp [settle, hfollow, Nat.min_eq_left (Nat.le_of_lt habove), Nat.ne_of_lt habove]

theorem Settled.above (h : Settled count height v) (hfollow : v.follow = false) :
    v.offset < count - height := by
  have hne : v.offset ≠ count - height := fun heq => by simp [h.follow_iff.mpr heq] at hfollow
  exact Nat.lt_of_le_of_ne h.offset_le hne

theorem follow_step (h : v.follow = true) {s : Step} (hs : s.isUp = false) :
    (v.step s).follow = true := by
  cases s with
  | scroll delta =>
    have hdelta : 0 ≤ delta := by simpa [Step.isUp] using hs
    simp [step, scroll, h, hdelta]
  | toBottom => rfl
  | draw lines height => simp [step, settle, h]

theorem follow_run (h : v.follow = true) {steps : List Step} (hs : ∀ s ∈ steps, s.isUp = false) :
    (v.run steps).follow = true := by
  induction steps generalizing v with
  | nil => exact h
  | cons s steps ih =>
    obtain ⟨hs, hsteps⟩ := List.forall_mem_cons.mp hs
    exact ih (follow_step h hs) hsteps

def Holds (offset : Nat) (lines : List TextLine) (height : Nat) (v : ScrollView) : Prop :=
  v.follow = false ∧ v.offset = offset ∧ offset < lines.length - height

theorem holds_step {offset : Nat} {lines : List TextLine} (h : Holds offset lines height v) {s : Step}
    (hs : s.Extends lines height) : Holds offset lines height (v.step s) := by
  obtain ⟨hfollow, rfl, habove⟩ := h
  cases s with
  | draw lines' height' =>
    obtain ⟨hlines, rfl⟩ := hs
    have hmore := hlines.length_le
    rw [step, settle_of_above hfollow (by omega)]
    exact ⟨hfollow, rfl, habove⟩
  | scroll delta | toBottom => exact hs.elim

theorem holds_run {offset : Nat} {lines : List TextLine} (h : Holds offset lines height v)
    {steps : List Step} (hs : ∀ s ∈ steps, s.Extends lines height) :
    Holds offset lines height (v.run steps) := by
  induction steps generalizing v with
  | nil => exact h
  | cons s steps ih =>
    obtain ⟨hs, hsteps⟩ := List.forall_mem_cons.mp hs
    exact ih (holds_step h hs) hsteps

theorem visible_append {lines : List TextLine} (h : v.offset + height ≤ lines.length)
    (more : List TextLine) : v.visible (lines ++ more) height = v.visible lines height := by
  rw [visible, visible, List.drop_append_of_le_length (by omega),
    List.take_append_of_le_length (by rw [List.length_drop]; omega)]

theorem visible_bottom {lines : List TextLine} (h : v.offset = lines.length - height) :
    v.visible lines height = lines.rtake height := by
  rw [visible, List.rtake, h]
  exact List.take_of_length_le (by rw [List.length_drop]; omega)

theorem length_visible (v : ScrollView) (lines : List TextLine) (height : Nat) :
    (v.visible lines height).length = min height (lines.length - v.offset) := by
  rw [visible, List.length_take, List.length_drop]

theorem getElem?_visible {lines : List TextLine} {i : Nat} (h : i < height) :
    (v.visible lines height)[i]? = lines[v.offset + i]? := by
  rw [visible, List.getElem?_take_of_lt h, List.getElem?_drop]

/-- A drawing settles the view and puts the lines of its window on consecutive rows, as many as the area
has where there are so many. While it does not follow, its window stays on the same lines, whatever
comes behind them. Where it follows, each drawing shows the last lines until the view is scrolled up. -/
theorem drawing_shows_window (start : ScrollView) (steps : List Step) (g : Grid) (a : Area)
    (lines : List TextLine) (look : Look) :
    let drawn := (start.run steps).draw g a lines look
    let v := drawn.2
    let shown := v.visible lines a.height
    Settled lines.length a.height v ∧
      (shown.length = min a.height (lines.length - v.offset) ∧
        (∀ i < a.height, shown[i]? = lines[v.offset + i]?) ∧
        (a.height ≤ lines.length → shown.length = a.height)) ∧
      Grid.Lists a shown (g.paint a look) drawn.1 ∧
      (∀ x y, ¬ a.Has x y → drawn.1.get? x y = g.get? x y) ∧
      (v.follow = false → ∀ later more, (∀ s ∈ later, s.Extends lines a.height) →
        let v' := v.run (later ++ [.draw (lines ++ more) a.height])
        v'.visible (lines ++ more) a.height = shown ∧ v'.follow = false) ∧
      (v.follow = true → ∀ later lines' height', (∀ s ∈ later, s.isUp = false) →
        let v' := v.run (later ++ [.draw lines' height'])
        v'.visible lines' height' = lines'.rtake height' ∧ v'.follow = true) := by
  intro drawn v shown
  have hsettled : Settled lines.length a.height v := settled_settle ..
  have hlength : shown.length = min a.height (lines.length - v.offset) := length_visible ..
  have hoffset := hsettled.offset_le
  refine ⟨hsettled, ⟨hlength, fun i hi => getElem?_visible hi, fun hfull => ?_⟩, ?_, ?_, ?_, ?_⟩
  · rw [hlength]
    omega
  · exact Grid.lists_putLines (by rw [hlength]; exact Nat.min_le_left ..) _
  · intro x y hout
    exact (Grid.Agree.of_paint_putLines (p := fun x y => ¬ a.Has x y) (fun _ _ => not_not_intro) g look
      shown).cells x y hout
  · intro hfollow later more hlater v'
    have hholds : Holds v.offset lines a.height v := ⟨hfollow, rfl, hsettled.above hfollow⟩
    obtain ⟨hstays, hsame, habove⟩ : Holds v.offset lines a.height v' :=
      holds_run hholds fun s hs => by
        rcases List.mem_append.mp hs with hs | hs
        · exact hlater s hs
        · rw [List.mem_singleton.mp hs]
          exact ⟨List.prefix_append lines more, rfl⟩
    refine ⟨?_, hstays⟩
    rw [visible_append (by omega), visible, hsame]
    rfl
  · intro hfollow later lines' height' hlater v'
    have hlast : v' = (v.run later).settle lines'.length height' := run_concat ..
    rw [settle_of_follow (follow_run hfollow hlater)] at hlast
    rw [hlast]
    exact ⟨visible_bottom rfl, rfl⟩

def numbered (count : Nat) : List TextLine := (List.range count).map fun i => .ofString (toString i)

theorem drawing_shows_window_scrolled :
    let up : ScrollView := run {} [.draw (numbered 5) 2, .scroll (-2)]
    let down := up.run [.scroll 10]
    let drawn (v : ScrollView) := (v.draw (.blank 6 2) ⟨0, 0, 6, 2⟩ (numbered 5) {}).2
    ((drawn up).follow = false ∧
      ((drawn up).run [.draw (numbered 5 ++ numbered 3) 2]).visible (numbered 5 ++ numbered 3) 2 =
        (drawn up).visible (numbered 5) 2) ∧
      (drawn down).follow = true ∧
        ((drawn down).run [.toBottom, .scroll 1, .draw (numbered 3) 2]).visible (numbered 3) 2 =
          (numbered 3).rtake 2 := by
  intro up down drawn
  have hup := (drawing_shows_window up [] (.blank 6 2) ⟨0, 0, 6, 2⟩ (numbered 5) {}).2.2.2.2.1
  have hdown := (drawing_shows_window down [] (.blank 6 2) ⟨0, 0, 6, 2⟩ (numbered 5) {}).2.2.2.2.2
  have hfalse : (drawn up).follow = false := by decide
  have htrue : (drawn down).follow = true := by decide
  exact ⟨⟨hfalse, (hup hfalse [] (numbered 3) (by simp)).1⟩, htrue,
    (hdown htrue [.toBottom, .scroll 1] (numbered 3) 2 (by decide)).1⟩

end TraceView.ScrollView
