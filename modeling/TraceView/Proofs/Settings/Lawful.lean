import TraceView.Proofs.Settings.Backends

namespace TraceView

open Binary (Agree)

namespace SettingsStore

section Answers

variable {σ : Type} [SettingsStore σ]

def answers (store : σ) (key : SettingKey) : Option Float32 × Option UInt64 × Option Vec4 :=
  (getFloat store key, getNat store key, getVec4 store key)

/-- The getter for the kind of a setting answers with it, and with floats that agree. -/
def Returns (store : σ) (key : SettingKey) : Setting → Prop
  | .float x => ∃ y, getFloat store key = some y ∧ Agree y x
  | .nat n => getNat store key = some n
  | .vec4 v => ∃ u, getVec4 store key = some u ∧ u.Agree v

theorem getFloat_congr {s t : σ} {key : SettingKey} (h : answers s key = answers t key) :
    getFloat s key = getFloat t key := congrArg Prod.fst h

theorem getNat_congr {s t : σ} {key : SettingKey} (h : answers s key = answers t key) :
    getNat s key = getNat t key := congrArg (·.2.1) h

theorem getVec4_congr {s t : σ} {key : SettingKey} (h : answers s key = answers t key) :
    getVec4 s key = getVec4 t key := congrArg (·.2.2) h

theorem Returns.congr {s t : σ} {key : SettingKey} {value : Setting} (hs : Returns s key value)
    (h : answers t key = answers s key) : Returns t key value := by
  cases value with
  | float x =>
    obtain ⟨y, hget, hagree⟩ := hs
    exact ⟨y, (getFloat_congr h).trans hget, hagree⟩
  | nat n => exact (getNat_congr h).trans hs
  | vec4 v =>
    obtain ⟨u, hget, hagree⟩ := hs
    exact ⟨u, (getVec4_congr h).trans hget, hagree⟩

end Answers

end SettingsStore

open SettingsStore (answers Returns)

class LawfulStore (σ : Type) [SettingsStore σ] : Prop where
  returns_put (store : σ) (key : SettingKey) (value : Setting) :
    Returns (SettingsStore.put store key value) key value
  answers_put_of_ne (store : σ) {key other : SettingKey} (value : Setting) :
    other ≠ key → answers (SettingsStore.put store key value) other = answers store other

theorem MemorySettings.answers_congr {s t : MemorySettings} {key : SettingKey}
    (h : s.find? key = t.find? key) : answers s key = answers t key := by
  simp only [answers, SettingsStore.getFloat, SettingsStore.getNat, SettingsStore.getVec4, h]

theorem FileSettings.answers_congr {s t : FileSettings} {key : SettingKey}
    (h : s.find? key = t.find? key) : answers s key = answers t key := by
  simp only [answers, SettingsStore.getFloat, SettingsStore.getNat, SettingsStore.getVec4, h]

instance : LawfulStore MemorySettings where
  returns_put store key value := by
    have hfind := store.find?_put_self key value
    rw [MemorySettings.put_eq]
    cases value with
    | float x => exact ⟨x, by simp only [SettingsStore.getFloat, hfind], .refl x⟩
    | nat n => simp only [Returns, SettingsStore.getNat, hfind]
    | vec4 v => exact ⟨v, by simp only [SettingsStore.getVec4, hfind], .refl v⟩
  answers_put_of_ne store key other value h := by
    rw [MemorySettings.put_eq]
    exact MemorySettings.answers_congr (MemorySettings.find?_put_of_ne h store value)

instance : LawfulStore FileSettings where
  returns_put store key value := by
    cases value with
    | float x =>
      obtain ⟨y, hfind, hagree, -⟩ := store.find?_put_single key x
      exact ⟨y, (congrArg (·.bind FileSettings.single?) hfind).trans
        (FileSettings.single?_ofSingle y), hagree⟩
    | nat n =>
      exact (congrArg (·.bind FileSettings.nat?) (store.find?_put_nat key n)).trans
        (FileSettings.nat?_ofNat n)
    | vec4 v =>
      obtain ⟨u, hfind, hagree, -⟩ := store.find?_put_vec4 key v
      exact ⟨u, (congrArg (·.bind FileSettings.vec4?) hfind).trans (FileSettings.vec4?_ofVec4 u),
        hagree⟩
  answers_put_of_ne store key other value h := by
    refine FileSettings.answers_congr ?_
    cases value <;> exact FileSettings.find?_put_of_ne h

namespace SettingsStore

variable {σ : Type} [SettingsStore σ] [LawfulStore σ] {key : SettingKey}
  {ps : List (SettingKey × Setting)}

theorem answers_puts_of_not_mem (store : σ) (h : key ∉ ps.map Prod.fst) :
    answers (puts store ps) key = answers store key := by
  induction ps generalizing store with
  | nil => rfl
  | cons p ps ih =>
    rw [List.map_cons, List.mem_cons, not_or] at h
    exact (ih _ h.2).trans (LawfulStore.answers_put_of_ne store p.2 h.1)

theorem returns_puts (store : σ) (hkeys : (ps.map Prod.fst).Nodup) {value : Setting}
    (h : (key, value) ∈ ps) : Returns (puts store ps) key value := by
  induction ps generalizing store with
  | nil => cases h
  | cons p ps ih =>
    rw [List.map_cons, List.nodup_cons] at hkeys
    rcases List.mem_cons.mp h with rfl | h
    · exact (LawfulStore.returns_put store key value).congr (answers_puts_of_not_mem _ hkeys.1)
    · exact ih _ hkeys.2 h

end SettingsStore

end TraceView
