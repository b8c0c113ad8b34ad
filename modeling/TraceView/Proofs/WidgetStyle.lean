import TraceView.Proofs.Settings.Appearance
import TraceView.Proofs.Settings.Lawful

namespace TraceView

theorem Part.index_ofIndex (i : Fin Part.count) : (Part.ofIndex i).index = i := by
  revert i
  decide

namespace WidgetStyle

structure Agree (s t : WidgetStyle) : Prop where
  scale : Binary.Agree s.fontScale t.fontScale
  part : ∀ part, (s.get part).Agree (t.get part)

theorem ext_get {s t : WidgetStyle} (hscale : s.fontScale = t.fontScale)
    (hparts : ∀ part, s.get part = t.get part) : s = t := by
  have hcolors : s.colors = t.colors := by
    refine Vector.ext fun i hi => ?_
    have hpart := hparts (Part.ofIndex ⟨i, hi⟩)
    simp only [get, Part.index_ofIndex] at hpart
    exact hpart
  cases s
  cases t
  cases hscale
  cases hcolors
  rfl

section Stored

variable {σ : Type} [SettingsStore σ] (s : WidgetStyle) (store : σ)

theorem get_load_of_missing {part : Part} (h : SettingsStore.getVec4 store (key part) = none) :
    (s.load store).get part =
      if part = .windowBg then { s.get part with w := 1 } else s.get part := by
  obtain ⟨t, hread, hload⟩ := foldl_at (fun s _ _ hne => get_loadPart_of_ne s store hne) (by decide)
    (Part.mem_all part) { s with fontScale := (SettingsStore.getFloat store scaleKey).getD 1 }
  have hpart : t.get part = s.get part := hread
  refine hload.trans ?_
  rw [← hpart]
  simp only [loadPart, h]
  split
  · exact t.get_set_self part _
  · rfl

theorem load_load : (s.load store).load store = s.load store := by
  refine ext_get ?_ fun part => ?_
  · rw [fontScale_load, fontScale_load]
  · cases h : SettingsStore.getVec4 store (key part) with
    | some v => rw [get_load_of_stored _ _ h, get_load_of_stored _ _ h]
    | none =>
      rw [get_load_of_missing _ _ h, get_load_of_missing _ _ h]
      split <;> rfl

def settings (s : WidgetStyle) : List (SettingKey × Setting) :=
  (scaleKey, .float s.fontScale) :: Part.all.map fun part => (key part, .vec4 (s.get part))

theorem save_eq_puts : s.save store = SettingsStore.puts store s.settings := by
  rw [settings, SettingsStore.puts, List.foldl_cons, List.foldl_map]
  rfl

theorem nodup_settings : (s.settings.map Prod.fst).Nodup := by
  have hkeys : s.settings.map Prod.fst = scaleKey :: Part.all.map key := by
    rw [settings, List.map_cons, List.map_map]
    rfl
  rw [hkeys]
  decide

theorem agree_load_save [LawfulStore σ] (target : WidgetStyle) :
    (target.load (s.save store)).Agree s := by
  have hreturns {key : SettingKey} {value : Setting} (h : (key, value) ∈ s.settings) :
      SettingsStore.Returns (s.save store) key value := by
    rw [save_eq_puts]
    exact SettingsStore.returns_puts store s.nodup_settings h
  constructor
  · obtain ⟨x, hget, hagree⟩ := hreturns (.head _)
    rw [fontScale_load, hget, Option.getD_some]
    exact hagree
  · intro part
    have hmem : (key part, Setting.vec4 (s.get part)) ∈ s.settings :=
      .tail _ (List.mem_map.mpr ⟨part, Part.mem_all part, rfl⟩)
    obtain ⟨v, hget, hagree⟩ := hreturns hmem
    rw [get_load_of_stored _ _ hget]
    exact hagree

end Stored

/-- A style that was saved is the one that is loaded, whatever the settings held before and whatever
style they are loaded into. Loading again changes nothing. It takes each value that is there; a scale
that is missing becomes one, a window background that is missing becomes opaque, and any other color
that is missing stays as it was. -/
theorem saved_style_is_loaded (style target : WidgetStyle) :
    (∀ store : MemorySettings, (target.load (style.save store)).Agree style) ∧
      (∀ store : FileSettings, (target.load (style.save store)).Agree style) ∧
      ∀ (σ : Type) [SettingsStore σ] (store : σ),
        let loaded := target.load store
        loaded.load store = loaded ∧
          (∀ x, SettingsStore.getFloat store scaleKey = some x → loaded.fontScale = x) ∧
          (SettingsStore.getFloat store scaleKey = none → loaded.fontScale = 1) ∧
          (∀ part v, SettingsStore.getVec4 store (key part) = some v → loaded.get part = v) ∧
          (SettingsStore.getVec4 store (key .windowBg) = none →
            loaded.get .windowBg = { target.get .windowBg with w := 1 }) ∧
          ∀ part, part ≠ .windowBg → SettingsStore.getVec4 store (key part) = none →
            loaded.get part = target.get part := by
  refine ⟨fun store => style.agree_load_save store target,
    fun store => style.agree_load_save store target, fun σ _ store => ?_⟩
  have hscale := target.fontScale_load store
  refine ⟨target.load_load store, fun x h => ?_, fun h => ?_,
    fun part v h => target.get_load_of_stored store h, fun h => ?_, fun part hpart h => ?_⟩
  · rw [hscale, h, Option.getD_some]
  · rw [hscale, h, Option.getD_none]
  · exact (target.get_load_of_missing store h).trans (if_pos rfl)
  · exact (target.get_load_of_missing store h).trans (if_neg hpart)

end WidgetStyle

end TraceView
