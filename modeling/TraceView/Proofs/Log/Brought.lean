import TraceView.Proofs.Log.Growth

namespace TraceView

variable {Entry : Type}

namespace Place

def unpushed (p : Place Entry) : List (Stamped Entry) :=
  if p.hasPushed then [] else p.record?.toList

end Place

namespace LogMachine

variable {m m' : LogMachine Entry} {v w : Writer} {p q : Place Entry} {r : Stamped Entry}

def pushedBy (m : LogMachine Entry) (w : Writer) : List (Stamped Entry) :=
  m.pushed.filter (·.writer = w)

def broughtBy (m : LogMachine Entry) (w : Writer) : List (Stamped Entry) :=
  m.pushedBy w ++ (m.place w).unpushed

theorem broughtBy_of_idle (h : m.place w = .idle) : m.broughtBy w = m.pushedBy w := by
  rw [broughtBy, h]
  exact List.append_nil _

theorem pushed_begin (m : LogMachine Entry) (c : LogCall Entry) : (m.begin c).pushed = m.pushed := by
  cases c <;> rfl

theorem pushed_call (m : LogMachine Entry) (v : Writer) (c : LogCall Entry) :
    (m.call v c).pushed = m.pushed := by
  unfold call
  split
  case h_1 => rfl
  case h_2 =>
    split
    case isTrue => exact pushed_begin m _
    case isFalse => rfl
  case h_3 => rfl

theorem broughtBy_send (h : m.place w = .idle) (entry : Entry) :
    (m.call w (.send entry)).broughtBy w = m.broughtBy w ++ [⟨m.calls, w, entry⟩] := by
  have hplace : (m.call w (.send entry)).place w = .sendCheck ⟨m.calls, w, entry⟩ := by
    simp only [call, h]
    exact place_goto_self ..
  rw [broughtBy_of_idle h, broughtBy, pushedBy, pushed_call, hplace]
  rfl

end LogMachine

end TraceView
