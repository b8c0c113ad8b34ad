import Mathlib
import TraceView.Proofs.Session.EditorKeys

namespace TraceView

def KeyCode.roleSteps : KeyCode → Int
  | .down => 1
  | .up => -1
  | _ => 0

def KeyCode.swatchSteps : KeyCode → Int
  | .right => 1
  | .left => -1
  | _ => 0

namespace Editor

theorem turn_up {n : Nat} (i : Fin n) : ((turn i true).val : Int) = (i.val + 1) % n := by
  simp [turn]

theorem turn_down {n : Nat} (i : Fin n) : ((turn i false).val : Int) = (i.val - 1) % n := by
  have hpos : 1 ≤ n := i.pos
  have haround : ((i.val + (n - 1) : Nat) : Int) = i.val - 1 + n := by omega
  change (((i.val + (n - 1)) % n : Nat) : Int) = _
  rw [Int.natCast_emod, haround, Int.add_emod_right]

theorem turn_none {n : Nat} (i : Fin n) : (i.val : Int) = (i.val + 0) % n := by
  rw [Int.add_zero, Int.emod_eq_of_lt (Int.natCast_nonneg _) (Int.ofNat_lt.mpr i.isLt)]

theorem turned_recolor (e : Editor) (colors? : Option ColorTable) :
    let e' := (colors?.map fun colors => ({ e with colors } : Editor).publish).getD e
    e'.selected = e.selected ∧ e'.swatch = e.swatch := by
  cases colors? <;> exact ⟨rfl, rfl⟩

theorem turns_press (e : Editor) (key : KeyCode) :
    ((e.press key).selected.val : Int) = (e.selected.val + key.roleSteps) % Role.count ∧
      ((e.press key).swatch.val : Int) = (e.swatch.val + key.swatchSteps) % Picker.count := by
  have hnone {e' : Editor} (h : e'.selected = e.selected ∧ e'.swatch = e.swatch) :
      (e'.selected.val : Int) = (e.selected.val + 0) % Role.count ∧
        (e'.swatch.val : Int) = (e.swatch.val + 0) % Picker.count := by
    rw [h.1, h.2]
    exact ⟨turn_none e.selected, turn_none e.swatch⟩
  cases key with
  | up => exact ⟨turn_down e.selected, turn_none e.swatch⟩
  | down => exact ⟨turn_up e.selected, turn_none e.swatch⟩
  | left => exact ⟨turn_none e.selected, turn_down e.swatch⟩
  | right => exact ⟨turn_none e.selected, turn_up e.swatch⟩
  | enter => exact hnone (turned_recolor e _)
  | char c =>
    have hsame : (e.press (.char c)).selected = e.selected ∧
        (e.press (.char c)).swatch = e.swatch := by
      generalize hkey : KeyCode.char c = key
      unfold press
      split
      case h_1 | h_2 | h_3 | h_4 | h_5 => cases hkey
      case h_6 => exact turned_recolor e _
      all_goals exact ⟨rfl, rfl⟩
    exact hnone hsame
  | _ => exact hnone ⟨rfl, rfl⟩

theorem turns_foldl_press (e : Editor) (keys : List KeyCode) :
    ((keys.foldl press e).selected.val : Int) =
        (e.selected.val + (keys.map KeyCode.roleSteps).sum) % Role.count ∧
      ((keys.foldl press e).swatch.val : Int) =
        (e.swatch.val + (keys.map KeyCode.swatchSteps).sum) % Picker.count := by
  induction keys generalizing e with
  | nil => exact ⟨turn_none e.selected, turn_none e.swatch⟩
  | cons key keys ih =>
    obtain ⟨hselected, hswatch⟩ := e.turns_press key
    obtain ⟨hrole, hpicker⟩ := ih (e.press key)
    rw [hselected, Int.emod_add_emod, Int.add_assoc] at hrole
    rw [hswatch, Int.emod_add_emod, Int.add_assoc] at hpicker
    exact ⟨hrole, hpicker⟩

end Editor

end TraceView
