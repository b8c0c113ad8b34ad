import TraceView.Palette.Table
import TraceView.Proofs.Settings.Stored
import TraceView.WidgetStyle
import Mathlib.Data.List.Nodup

namespace TraceView

/-- Where an operation at one place leaves the others alone, many of them at distinct places do at
each what one does. -/
theorem foldl_at {σ ι α : Type} {f : σ → ι → σ} {read : σ → ι → α}
    (hother : ∀ s i j, j ≠ i → read (f s i) j = read s j) {l : List ι} (hl : l.Nodup) {j : ι}
    (hj : j ∈ l) (s : σ) : ∃ t, read t j = read s j ∧ read (l.foldl f s) j = read (f t j) j := by
  have hmiss : ∀ (l : List ι) (s : σ), j ∉ l → read (l.foldl f s) j = read s j := by
    intro l
    induction l with
    | nil => intro s _; rfl
    | cons i l ih =>
      intro s h
      rw [List.mem_cons, not_or] at h
      exact (ih (f s i) h.2).trans (hother s i j h.1)
  induction l generalizing s with
  | nil => cases hj
  | cons i l ih =>
    rw [List.nodup_cons] at hl
    rcases List.mem_cons.mp hj with rfl | hj
    · exact ⟨s, rfl, hmiss l (f s j) hl.1⟩
    · obtain ⟨t, hread, hstep⟩ := ih hl.2 hj (f s i)
      have hne : j ≠ i := fun h => hl.1 (h ▸ hj)
      exact ⟨t, hread.trans (hother s i j hne), hstep⟩

theorem Role.mem_all (role : Role) : role ∈ Role.all := by cases role <;> decide

theorem Part.mem_all (part : Part) : part ∈ Part.all := by cases part <;> decide

theorem Role.index_inj {r r' : Role} (h : r.index = r'.index) : r = r' := by
  rw [← Role.ofIndex_index r, h, Role.ofIndex_index]

theorem Role.name_inj {r r' : Role} (h : r.name = r'.name) : r = r' := by
  have hnodup : (Role.all.map Role.name).Nodup := by decide
  exact List.inj_on_of_nodup_map hnodup (Role.mem_all r) (Role.mem_all r') h

theorem Part.index_inj {p p' : Part} (h : p.index = p'.index) : p = p' := by
  rw [← Part.ofIndex_index p, h, Part.ofIndex_index]

namespace ColorTable

variable {σ : Type} [SettingsStore σ] (t : ColorTable) (store : σ)

theorem get_overwrite_self (role : Role) (c : Rgba) : (t.overwrite role c).get role = c := by
  simp [overwrite, get, Palette.get]

theorem get_overwrite_of_ne {role other : Role} (h : other ≠ role) (c : Rgba) :
    (t.overwrite role c).get other = t.get other := by
  have hindex : role.index.val ≠ other.index.val := fun heq => h (Role.index_inj (Fin.ext heq.symm))
  simp [overwrite, get, Palette.get, hindex]

def loadRole (t : ColorTable) (role : Role) : ColorTable :=
  (stored? store role).elim t (t.overwrite role)

theorem load_eq : t.load store = Role.all.foldl (loadRole store) t := by
  refine congrArg (Role.all.foldl · t) (funext fun t => funext fun role => ?_)
  rw [loadRole]
  cases stored? store role <;> rfl

theorem get_load (role : Role) :
    (t.load store).get role = (stored? store role).getD (t.get role) := by
  have hother : ∀ (t : ColorTable) (r r' : Role), r' ≠ r →
      (loadRole store t r).get r' = t.get r' := by
    intro t r r' hne
    rw [loadRole]
    cases stored? store r with
    | none => rfl
    | some c => exact t.get_overwrite_of_ne hne c
  obtain ⟨t', hread, hload⟩ := foldl_at hother (by decide) (Role.mem_all role) t
  rw [load_eq, hload, loadRole]
  cases stored? store role with
  | none => exact hread
  | some c => exact t'.get_overwrite_self role c

theorem changed_load : (t.load store).changed = t.changed := by
  rw [load_eq]
  generalize Role.all = roles
  induction roles generalizing t with
  | nil => rfl
  | cons role roles ih =>
    rw [List.foldl_cons, ih, loadRole]
    cases stored? store role <;> rfl

theorem isChanged_load_new (role : Role) : (load {} store).isChanged role = false := by
  rw [isChanged, changed_load]
  exact Vector.getElem_replicate _

theorem get_of_set? {t t' : ColorTable} {role other : Role} {c : Rgba}
    (h : t.set? role c = some t') (hother : t'.isChanged other = false) :
    t.isChanged other = false ∧ t'.get other = t.get other := by
  rw [set?] at h
  split at h
  · cases h
  · cases h
    have hne : other ≠ role := by
      rintro rfl
      simp [isChanged] at hother
    have hindex : role.index.val ≠ other.index.val :=
      fun heq => hne (Role.index_inj (Fin.ext heq.symm))
    constructor
    · simpa [isChanged, hindex] using hother
    · exact t.get_overwrite_of_ne hne c

theorem changedCount_eq_zero_iff {t : ColorTable} :
    t.changedCount = 0 ↔ ∀ role, t.isChanged role = false := by
  rw [changedCount, List.countP_eq_zero]
  constructor
  · intro h role
    exact Bool.eq_false_iff.mpr (h role (Role.mem_all role))
  · intro h role _
    rw [h role]
    exact Bool.false_ne_true

end ColorTable

namespace WidgetStyle

variable {σ : Type} [SettingsStore σ] (s : WidgetStyle) (store : σ)

theorem get_set_self (part : Part) (v : Vec4) : (s.set part v).get part = v := by
  simp [set, get]

theorem get_set_of_ne {part other : Part} (h : other ≠ part) (v : Vec4) :
    (s.set part v).get other = s.get other := by
  have hindex : part.index.val ≠ other.index.val := fun heq => h (Part.index_inj (Fin.ext heq.symm))
  simp [set, get, hindex]

theorem fontScale_loadPart (part : Part) : (loadPart store s part).fontScale = s.fontScale := by
  unfold loadPart
  split
  · rfl
  · split <;> rfl

theorem fontScale_load :
    (s.load store).fontScale = (SettingsStore.getFloat store scaleKey).getD 1 := by
  have hparts : ∀ (parts : List Part) (s : WidgetStyle),
      (parts.foldl (loadPart store) s).fontScale = s.fontScale := by
    intro parts
    induction parts with
    | nil => intro s; rfl
    | cons part parts ih => intro s; exact (ih _).trans (fontScale_loadPart s store part)
  exact hparts Part.all _

theorem get_loadPart_of_ne {part other : Part} (h : other ≠ part) :
    (loadPart store s part).get other = s.get other := by
  unfold loadPart
  split
  · exact s.get_set_of_ne h _
  · split
    · exact s.get_set_of_ne h _
    · rfl

theorem get_load_of_stored {part : Part} {v : Vec4}
    (h : SettingsStore.getVec4 store (key part) = some v) : (s.load store).get part = v := by
  obtain ⟨t, -, hload⟩ := foldl_at (fun s _ _ hne => get_loadPart_of_ne s store hne) (by decide)
    (Part.mem_all part) { s with fontScale := (SettingsStore.getFloat store scaleKey).getD 1 }
  refine hload.trans ?_
  rw [loadPart, h]
  exact t.get_set_self part v

end WidgetStyle

section Saved

open FileSettings

variable (t : ColorTable) (w : WidgetStyle) (o : FileSettings)

def ColorTable.puts : List (SettingKey × Toml.Value) :=
  (Role.all.filter t.isChanged).map fun role =>
    (ColorTable.key role, ofNat (t.get role).packed.toUInt64)

theorem ColorTable.save_eq : t.save o = o.puts t.puts := by
  rw [ColorTable.puts, FileSettings.puts, List.foldl_map]
  rfl

def WidgetStyle.puts : List (SettingKey × Toml.Value) :=
  (WidgetStyle.scaleKey, ofSingle w.fontScale) ::
    Part.all.map fun part => (WidgetStyle.key part, ofVec4 (w.get part))

theorem WidgetStyle.save_eq : w.save o = o.puts w.puts := by
  rw [WidgetStyle.puts, FileSettings.puts, List.foldl_cons, List.foldl_map]
  rfl

theorem map_fst_colorPuts :
    t.puts.map Prod.fst = (Role.all.filter t.isChanged).map ColorTable.key := by
  rw [ColorTable.puts, List.map_map]
  rfl

theorem map_fst_stylePuts :
    w.puts.map Prod.fst = WidgetStyle.scaleKey :: Part.all.map WidgetStyle.key := by
  rw [WidgetStyle.puts, List.map_cons, List.map_map]
  rfl

def saved : FileSettings := o.puts (t.puts ++ w.puts)

theorem area_stylePut {p : SettingKey × Toml.Value} (h : p ∈ w.puts) :
    p.1.area = WidgetStyle.area := by
  rcases List.mem_cons.mp h with rfl | h
  · rfl
  · obtain ⟨part, -, rfl⟩ := List.mem_map.mp h
    rfl

theorem area_colorPut {p : SettingKey × Toml.Value} (h : p ∈ t.puts) :
    p.1.area = ColorTable.area := by
  obtain ⟨role, -, rfl⟩ := List.mem_map.mp h
  rfl

theorem nodup_keys : ((t.puts ++ w.puts).map Prod.fst).Nodup := by
  rw [List.map_append, List.nodup_append]
  refine ⟨?_, ?_, ?_⟩
  · have hall : (Role.all.map ColorTable.key).Nodup := by decide
    rw [map_fst_colorPuts]
    exact hall.sublist (List.filter_sublist.map _)
  · rw [map_fst_stylePuts]
    decide
  · intro color hcolor style hstyle heq
    obtain ⟨p, hp, rfl⟩ := List.mem_map.mp hcolor
    obtain ⟨q, hq, rfl⟩ := List.mem_map.mp hstyle
    have harea := congrArg SettingKey.area heq
    rw [area_colorPut t hp, area_stylePut w hq] at harea
    exact absurd harea (by decide)

theorem mem_colorPuts {role : Role} (h : t.isChanged role = true) :
    (ColorTable.key role, ofNat (t.get role).packed.toUInt64) ∈ t.puts ++ w.puts := by
  refine List.mem_append_left _ (List.mem_map.mpr ⟨role, ?_, rfl⟩)
  exact List.mem_filter.mpr ⟨Role.mem_all role, h⟩

theorem mem_scalePut : (WidgetStyle.scaleKey, ofSingle w.fontScale) ∈ t.puts ++ w.puts :=
  List.mem_append_right _ (.head _)

theorem mem_partPut (part : Part) :
    (WidgetStyle.key part, ofVec4 (w.get part)) ∈ t.puts ++ w.puts :=
  List.mem_append_right _ (.tail _ (List.mem_map.mpr ⟨part, Part.mem_all part, rfl⟩))

structure Untouched (t : ColorTable) (key : SettingKey) : Prop where
  color : ∀ role, t.isChanged role = true → key ≠ ColorTable.key role
  scale : key ≠ WidgetStyle.scaleKey
  part : ∀ part, key ≠ WidgetStyle.key part

theorem find?_saved {key : SettingKey} (h : Untouched t key) :
    (saved t w o).find? key = o.find? key := by
  refine find?_puts_of_not_mem ?_
  rw [List.map_append, map_fst_colorPuts, map_fst_stylePuts]
  intro hmem
  rcases List.mem_append.mp hmem with hmem | hmem
  · obtain ⟨role, hrole, rfl⟩ := List.mem_map.mp hmem
    exact h.color role (List.mem_filter.mp hrole).2 rfl
  · rcases List.mem_cons.mp hmem with rfl | hmem
    · exact h.scale rfl
    · obtain ⟨part, -, rfl⟩ := List.mem_map.mp hmem
      exact h.part part rfl

theorem untouched_of_unchanged {role : Role} (h : t.isChanged role = false) :
    Untouched t (ColorTable.key role) := by
  have harea : ColorTable.area ≠ WidgetStyle.area := by decide
  refine ⟨fun other hother heq => ?_, fun heq => harea (congrArg SettingKey.area heq),
    fun part heq => harea (congrArg SettingKey.area heq)⟩
  have hsame : role = other := Role.name_inj (congrArg SettingKey.name heq)
  rw [← hsame, h] at hother
  cases hother

theorem stored?_saved_of_changed {role : Role} (h : t.isChanged role = true) :
    ColorTable.stored? (saved t w o) role = some (t.get role) := by
  obtain ⟨s, hfind, -⟩ := puts_of_mem (nodup_keys t w) (mem_colorPuts t w h) (s := o)
  have hnat : SettingsStore.getNat (saved t w o) (ColorTable.key role) =
      some (t.get role).packed.toUInt64 := by
    change ((saved t w o).find? (ColorTable.key role)).bind nat? = _
    rw [saved, hfind, find?_put_nat, Option.bind_some, nat?_ofNat]
  rw [ColorTable.stored?, hnat, Option.map_some, UInt32.toUInt32_toUInt64, Rgba.ofPacked_packed]

theorem stored?_saved_of_unchanged {role : Role} (h : t.isChanged role = false) :
    ColorTable.stored? (saved t w o) role = ColorTable.stored? o role := by
  have hfind := find?_saved t w o (untouched_of_unchanged t h)
  have hnat : SettingsStore.getNat (saved t w o) (ColorTable.key role) =
      SettingsStore.getNat o (ColorTable.key role) := congrArg (·.bind nat?) hfind
  rw [ColorTable.stored?, hnat, ColorTable.stored?]

theorem scale_saved : ∃ x, (saved t w o).find? WidgetStyle.scaleKey = some (ofSingle x) ∧
    Binary.Agree x w.fontScale ∧ (saved t w o).Settled WidgetStyle.scaleKey (ofSingle x) := by
  obtain ⟨s, hfind, hsettled⟩ := puts_of_mem (nodup_keys t w) (mem_scalePut t w) (s := o)
  obtain ⟨x, hx, hagree, hx'⟩ := find?_put_single s WidgetStyle.scaleKey w.fontScale
  exact ⟨x, hfind.trans hx, hagree, hsettled _ hx'⟩

theorem part_saved (part : Part) :
    ∃ v, (saved t w o).find? (WidgetStyle.key part) = some (ofVec4 v) ∧ v.Agree (w.get part) ∧
      (saved t w o).Settled (WidgetStyle.key part) (ofVec4 v) := by
  obtain ⟨s, hfind, hsettled⟩ := puts_of_mem (nodup_keys t w) (mem_partPut t w part) (s := o)
  obtain ⟨v, hv, hagree, hv'⟩ := find?_put_vec4 s (WidgetStyle.key part) (w.get part)
  exact ⟨v, hfind.trans hv, hagree, hsettled _ hv'⟩

theorem doc_saved_ne_nil : (saved t w o).doc ≠ [] := by
  intro hnil
  obtain ⟨x, hfind, -⟩ := scale_saved t w o
  rw [find?, section?, hnil] at hfind
  cases hfind

/-- What saving keeps: every key but those that were put, and the sections as sections. -/
structure Preserved (o s : FileSettings) : Prop where
  key : ∀ key, Untouched t key → s.find? key = o.find? key
  areas : ∀ area, (o.section? area).isSome → (s.section? area).isSome
  entry : ∀ area, area ≠ ColorTable.area → area ≠ WidgetStyle.area →
    Toml.Entries.find? s.doc area = Toml.Entries.find? o.doc area
  colors : t.changedCount = 0 →
    Toml.Entries.find? s.doc ColorTable.area = Toml.Entries.find? o.doc ColorTable.area

theorem puts_of_unchanged {t : ColorTable} (h : ∀ role, t.isChanged role = false) : t.puts = [] := by
  have hnone : Role.all.filter t.isChanged = [] := List.filter_eq_nil_iff.mpr fun role _ => by
    rw [h role]
    exact Bool.false_ne_true
  rw [ColorTable.puts, hnone, List.map_nil]

theorem preserved_saved : Preserved t o (saved t w o) where
  key := fun _ h => find?_saved t w o h
  areas := fun _ h => isSome_section?_puts h
  entry := fun area hcolors hstyle => by
    refine entry_puts_of_ne fun p hp harea => ?_
    rcases List.mem_append.mp hp with hp | hp
    · exact hcolors (harea ▸ area_colorPut t hp)
    · exact hstyle (harea ▸ area_stylePut w hp)
  colors := fun hcount => by
    have hne : ColorTable.area ≠ WidgetStyle.area := by decide
    refine entry_puts_of_ne fun p hp harea => ?_
    rw [puts_of_unchanged (ColorTable.changedCount_eq_zero_iff.mp hcount), List.nil_append] at hp
    exact hne (harea ▸ area_stylePut w hp)

theorem doc_saved_again {t' : ColorTable} {s : FileSettings}
    (hunchanged : ∀ role, t'.isChanged role = false)
    (hscale : s.Settled WidgetStyle.scaleKey (ofSingle w.fontScale))
    (hparts : ∀ part, s.Settled (WidgetStyle.key part) (ofVec4 (w.get part))) :
    (saved t' w s).doc = s.doc := by
  rw [saved, puts_of_unchanged hunchanged, List.nil_append]
  refine doc_puts_of_settled fun p hp => ?_
  rcases List.mem_cons.mp hp with rfl | hp
  · exact hscale
  · obtain ⟨part, -, rfl⟩ := List.mem_map.mp hp
    exact hparts part

end Saved

end TraceView
