import TraceView.Palette.Role
import TraceView.Settings.Store

namespace TraceView

structure Palette where
  colors : Vector Rgba Role.count

namespace Palette

def get (p : Palette) (role : Role) : Rgba := p.colors[role.index]

def standard : Palette := ⟨Vector.ofFn fun i => (Role.ofIndex i).defaultColor⟩

@[simp] theorem get_standard (role : Role) : standard.get role = role.defaultColor := by
  simp [get, standard]

end Palette

structure ColorTable where
  palette : Palette := .standard
  changed : Vector Bool Role.count := Vector.replicate _ false

namespace ColorTable

def area : String := "$graph_colors$"

def key (role : Role) : SettingKey := ⟨area, role.name⟩

def get (t : ColorTable) (role : Role) : Rgba := t.palette.get role

def getWith (t : ColorTable) (role : Role) : Option UInt8 → Rgba
  | some a => (t.get role).withAlpha a
  | none => t.get role

def isChanged (t : ColorTable) (role : Role) : Bool := t.changed[role.index]

def changedCount (t : ColorTable) : Nat := Role.all.countP t.isChanged

def toList (t : ColorTable) : List (Role × Rgba) := Role.all.map fun r => (r, t.get r)

def overwrite (t : ColorTable) (role : Role) (c : Rgba) : ColorTable :=
  { t with palette := ⟨t.palette.colors.set role.index c⟩ }

def set? (t : ColorTable) (role : Role) (c : Rgba) : Option ColorTable :=
  if t.get role = c then none
  else some { t.overwrite role c with changed := t.changed.set role.index true }

def set (t : ColorTable) (role : Role) (c : Rgba) : ColorTable := (t.set? role c).getD t

def reset? (t : ColorTable) (role : Role) : Option ColorTable := t.set? role role.defaultColor

section Stored

variable {σ : Type} [SettingsStore σ]

/-- The low 32 bits of a stored natural. -/
def stored? (store : σ) (role : Role) : Option Rgba :=
  (SettingsStore.getNat store (key role)).map fun n => .ofPacked n.toUInt32

def load (t : ColorTable) (store : σ) : ColorTable :=
  Role.all.foldl (fun t role => match stored? store role with
    | some c => t.overwrite role c
    | none => t) t

def loadedCount (store : σ) : Nat := Role.all.countP fun role => (stored? store role).isSome

def save (t : ColorTable) (store : σ) : σ :=
  (Role.all.filter t.isChanged).foldl
    (fun store role => SettingsStore.putNat store (key role) (t.get role).packed.toUInt64) store

def saveRole (t : ColorTable) (saved : σ × Nat) (role : Role) : σ × Nat :=
  if t.isChanged role then
    (SettingsStore.putNat saved.1 (key role) (t.get role).packed.toUInt64, saved.2 + 1)
  else saved

def saveCounted (t : ColorTable) (store : σ) : σ × Nat := Role.all.foldl t.saveRole (store, 0)

end Stored

end ColorTable

end TraceView
