import TraceView.Proofs.Settings.Appearance
import TraceView.Proofs.Settings.Lawful
import Mathlib.Data.Set.Card

namespace TraceView

inductive TableStep where
  | set (role : Role) (c : Rgba)
  | reset (role : Role)
  | get (role : Role) (alpha : Option UInt8)
  | load

namespace ColorTable

def Recolors (t : ColorTable) (role : Role) : TableStep → Prop
  | .set r c => r = role ∧ c ≠ t.get role
  | .reset r => r = role ∧ role.defaultColor ≠ t.get role
  | .get .. | .load => False

section Steps

variable {σ : Type} [SettingsStore σ]

def step (store : σ) (t : ColorTable) : TableStep → ColorTable
  | .set role c => t.set role c
  | .reset role => (t.reset? role).getD t
  | .get .. => t
  | .load => t.load store

def edited (store : σ) (steps : List TableStep) : ColorTable :=
  steps.foldl (step store) (load {} store)

def written? (store : σ) (role : Role) : TableStep → Option Rgba
  | .set r c => if r = role then some c else none
  | .reset r => if r = role then some role.defaultColor else none
  | .get .. => none
  | .load => stored? store role

def WasRecolored (store : σ) (steps : List TableStep) (role : Role) : Prop :=
  ∃ before s, before ++ [s] <+: steps ∧ (edited store before).Recolors role s

variable (store : σ) (t : ColorTable)

theorem edited_concat (steps : List TableStep) (s : TableStep) :
    edited store (steps ++ [s]) = (edited store steps).step store s := List.foldl_append

theorem wasRecolored_concat {steps : List TableStep} {s : TableStep} {role : Role} :
    WasRecolored store (steps ++ [s]) role ↔
      WasRecolored store steps role ∨ (edited store steps).Recolors role s := by
  constructor
  · rintro ⟨before, s', hprefix, hrecolors⟩
    rcases List.prefix_concat_iff.mp hprefix with heq | hprefix
    · obtain ⟨rfl, rfl⟩ := List.append_singleton_inj.mp heq
      exact .inr hrecolors
    · exact .inl ⟨before, s', hprefix, hrecolors⟩
  · rintro (⟨before, s', hprefix, hrecolors⟩ | hrecolors)
    · exact ⟨before, s', hprefix.trans (List.prefix_append steps [s]), hrecolors⟩
    · exact ⟨steps, s, List.prefix_rfl, hrecolors⟩

theorem isChanged_set (r role : Role) (c : Rgba) :
    (t.set r c).isChanged role = true ↔ t.isChanged role = true ∨ r = role ∧ c ≠ t.get role := by
  rw [set, set?]
  split
  case isTrue hsame =>
    simp only [Option.getD_none, iff_self_or, and_imp]
    rintro rfl hne
    exact (hne hsame.symm).elim
  case isFalse hne =>
    by_cases hrole : r = role
    · subst hrole
      simp [isChanged, Ne.symm hne]
    · have hindex : r.index.val ≠ role.index.val :=
        fun heq => hrole (Role.index_inj (Fin.ext heq))
      simp [isChanged, hindex, hrole]

theorem get_set (r role : Role) (c : Rgba) :
    (t.set r c).get role = if r = role then c else t.get role := by
  rw [set, set?]
  split
  case isTrue hsame =>
    split
    case isTrue hrole => exact hrole ▸ hsame
    case isFalse => rfl
  case isFalse =>
    split
    case isTrue hrole => exact hrole ▸ t.get_overwrite_self r c
    case isFalse hrole => exact t.get_overwrite_of_ne (Ne.symm hrole) c

theorem get_step (s : TableStep) (role : Role) :
    (t.step store s).get role = (written? store role s).getD (t.get role) := by
  cases s with
  | set r c =>
    rw [step, get_set, written?]
    split <;> rfl
  | reset r =>
    have hreset : (t.step store (.reset r)).get role = (t.set r r.defaultColor).get role := rfl
    rw [hreset, get_set, written?]
    split
    case isTrue hrole => exact hrole ▸ rfl
    case isFalse => rfl
  | get => rfl
  | load => exact t.get_load store role

theorem isChanged_step (s : TableStep) (role : Role) :
    (t.step store s).isChanged role = true ↔ t.isChanged role = true ∨ t.Recolors role s := by
  cases s with
  | set r c => exact t.isChanged_set r role c
  | reset r =>
    refine (t.isChanged_set r role _).trans (or_congr_right (and_congr_right ?_))
    rintro rfl
    rfl
  | get => exact (or_iff_left id).symm
  | load =>
    rw [step, isChanged, changed_load]
    exact (or_iff_left id).symm

theorem isChanged_edited_iff (steps : List TableStep) (role : Role) :
    (edited store steps).isChanged role = true ↔ WasRecolored store steps role := by
  induction steps using List.reverseRecOn with
  | nil =>
    rw [edited, List.foldl_nil, isChanged_load_new]
    simp only [Bool.false_eq_true, false_iff]
    rintro ⟨before, s, hprefix, -⟩
    exact List.append_ne_nil_of_right_ne_nil before (List.cons_ne_nil s []) (List.prefix_nil.mp hprefix)
  | append_singleton steps s ih =>
    rw [edited_concat, isChanged_step, ih, wasRecolored_concat]

theorem get_set_of_unchanged {r role : Role} {c : Rgba} (h : (t.set r c).isChanged role = false) :
    (t.set r c).get role = t.get role := by
  rw [set] at h ⊢
  cases hset : t.set? r c with
  | none => rfl
  | some t' =>
    rw [hset] at h
    exact (get_of_set? hset h).2

theorem unchanged_of_step {s : TableStep} {role : Role}
    (h : (t.step store s).isChanged role = false) : t.isChanged role = false := by
  rw [← Bool.not_eq_true] at h ⊢
  exact fun hchanged => h ((t.isChanged_step store s role).mpr (.inl hchanged))

theorem get_edited_of_unchanged {steps : List TableStep} {role : Role}
    (h : (edited store steps).isChanged role = false) :
    (edited store steps).get role = (load {} store).get role := by
  induction steps using List.reverseRecOn with
  | nil => rfl
  | append_singleton steps s ih =>
    rw [edited_concat] at h ⊢
    have hget := ih (unchanged_of_step store _ h)
    cases s with
    | set r c => exact (get_set_of_unchanged _ h).trans hget
    | reset r => exact (get_set_of_unchanged _ h).trans hget
    | get => exact hget
    | load =>
      -- What is stored is what it was, and what is not stored stays.
      rw [step, get_load, hget, get_load]
      cases stored? store role <;> rfl

end Steps

section Saving

variable {σ : Type} [SettingsStore σ] (t : ColorTable) (store : σ)

theorem saveCounted_eq : t.saveCounted store = (t.save store, t.changedCount) := by
  have hroles : ∀ (roles : List Role) (store : σ) (n : Nat),
      roles.foldl t.saveRole (store, n) =
        ((roles.filter t.isChanged).foldl (fun store role =>
          SettingsStore.putNat store (key role) (t.get role).packed.toUInt64) store,
          n + roles.countP t.isChanged) := by
    intro roles
    induction roles with
    | nil => intro store n; rfl
    | cons role roles ih =>
      intro store n
      rw [List.foldl_cons, saveRole]
      by_cases hchanged : t.isChanged role = true
      · rw [if_pos hchanged, ih, List.filter_cons_of_pos hchanged, List.countP_cons_of_pos hchanged,
          List.foldl_cons, Nat.add_right_comm, Nat.add_assoc]
      · rw [if_neg hchanged, ih, List.filter_cons_of_neg hchanged, List.countP_cons_of_neg hchanged]
  rw [saveCounted, hroles, Nat.zero_add]
  rfl

theorem saveCounted_fst : (t.saveCounted store).1 = t.save store :=
  congrArg Prod.fst (t.saveCounted_eq store)

def changes : List (SettingKey × Setting) :=
  (Role.all.filter t.isChanged).map fun role => (key role, .nat (t.get role).packed.toUInt64)

theorem save_eq_puts : t.save store = SettingsStore.puts store t.changes := by
  rw [changes, SettingsStore.puts, List.foldl_map]
  rfl

theorem map_fst_changes : t.changes.map Prod.fst = (Role.all.filter t.isChanged).map key := by
  rw [changes, List.map_map]
  rfl

theorem length_changes : t.changes.length = t.changedCount := by
  rw [changes, List.length_map, changedCount, List.countP_eq_length_filter]

theorem not_mem_changes {k : SettingKey} (h : ∀ role, t.isChanged role = true → k ≠ key role) :
    k ∉ t.changes.map Prod.fst := by
  rw [map_fst_changes]
  intro hmem
  obtain ⟨role, hrole, rfl⟩ := List.mem_map.mp hmem
  exact h role (List.mem_filter.mp hrole).2 rfl

theorem saveCounted_of_unchanged (h : ∀ role, t.isChanged role = false) :
    t.saveCounted store = (store, 0) := by
  have hnone : t.changes = [] := by
    rw [← List.length_eq_zero_iff, length_changes]
    exact changedCount_eq_zero_iff.mpr h
  rw [saveCounted_eq, save_eq_puts, hnone, changedCount_eq_zero_iff.mpr h]
  rfl

theorem ncard_changed : {role | t.isChanged role = true}.ncard = t.changedCount := by
  have hset : {role | t.isChanged role = true} = ((Role.all.filter t.isChanged).toFinset : Set Role) := by
    ext role
    simp [Role.mem_all role]
  have hnodup : Role.all.Nodup := by decide
  rw [hset, Set.ncard_coe_finset, List.toFinset_card_of_nodup (hnodup.filter _), changedCount,
    List.countP_eq_length_filter]

theorem changedCount_edited (steps : List TableStep) :
    (edited store steps).changedCount = {role | WasRecolored store steps role}.ncard := by
  rw [← ncard_changed]
  simp only [isChanged_edited_iff]

theorem not_mem_changes_edited {steps : List TableStep} {k : SettingKey}
    (h : ∀ role, WasRecolored store steps role → k ≠ key role) :
    k ∉ (edited store steps).changes.map Prod.fst :=
  not_mem_changes _ fun role hchanged => h role ((isChanged_edited_iff store steps role).mp hchanged)

variable [LawfulStore σ]

theorem stored?_save_of_changed {role : Role} (h : t.isChanged role = true) :
    stored? (t.save store) role = some (t.get role) := by
  have hkeys : (t.changes.map Prod.fst).Nodup := by
    have hall : (Role.all.map key).Nodup := by decide
    rw [map_fst_changes]
    exact hall.sublist (List.filter_sublist.map _)
  have hmem : (key role, Setting.nat (t.get role).packed.toUInt64) ∈ t.changes :=
    List.mem_map.mpr ⟨role, List.mem_filter.mpr ⟨Role.mem_all role, h⟩, rfl⟩
  have hnat : SettingsStore.getNat (t.save store) (key role) =
      some (t.get role).packed.toUInt64 := by
    rw [save_eq_puts]
    exact SettingsStore.returns_puts store hkeys hmem
  rw [stored?, hnat, Option.map_some, UInt32.toUInt32_toUInt64, Rgba.ofPacked_packed]

theorem stored?_save_of_unchanged {role : Role} (h : t.isChanged role = false) :
    stored? (t.save store) role = stored? store role := by
  have hmiss : key role ∉ t.changes.map Prod.fst := t.not_mem_changes fun other hother heq => by
    have hsame : role = other := Role.name_inj (congrArg SettingKey.name heq)
    rw [← hsame, h] at hother
    cases hother
  rw [stored?, save_eq_puts,
    SettingsStore.getNat_congr (SettingsStore.answers_puts_of_not_mem store hmiss), stored?]

/-- The settings load as the colors that were saved: the marked ones were put, and the others are what
the settings, or the defaults, had already given. -/
theorem get_load_save_edited (steps : List TableStep) (role : Role) :
    (load {} ((edited store steps).save store)).get role = (edited store steps).get role := by
  rw [get_load]
  cases h : (edited store steps).isChanged role with
  | true => rw [stored?_save_of_changed _ _ h, Option.getD_some]
  | false => rw [stored?_save_of_unchanged _ _ h, get_edited_of_unchanged store h, get_load]

structure Tracked (store : σ) (steps : List TableStep) : Prop where
  loaded : ∀ role, (edited store []).get role = (stored? store role).getD role.defaultColor
  shown : ∀ before s, before ++ [s] <+: steps → ∀ role,
    (edited store (before ++ [s])).get role = (written? store role s).getD ((edited store before).get role)
  changed : ∀ role, (edited store steps).isChanged role = true ↔ WasRecolored store steps role
  count : (edited store steps).changedCount = {role | WasRecolored store steps role}.ncard
  written : ((edited store steps).saveCounted store).2 = {role | WasRecolored store steps role}.ncard
  reload : ∀ role,
    (load {} ((edited store steps).saveCounted store).1).get role = (edited store steps).get role
  clean : ∀ role, (load {} ((edited store steps).saveCounted store).1).isChanged role = false
  again : (load {} ((edited store steps).saveCounted store).1).saveCounted
      ((edited store steps).saveCounted store).1 = (((edited store steps).saveCounted store).1, 0)
  idle : (∀ role, ¬ WasRecolored store steps role) →
    (edited store steps).saveCounted store = (store, 0)

theorem tracked (steps : List TableStep) : Tracked store steps where
  loaded role := (get_load ..).trans (congrArg (Option.getD _) (Palette.get_standard role))
  shown before s _ role := by rw [edited_concat, get_step]
  changed := isChanged_edited_iff store steps
  count := changedCount_edited store steps
  written := by rw [saveCounted_eq, changedCount_edited]
  reload role := by rw [saveCounted_eq, get_load_save_edited]
  clean := isChanged_load_new _
  again := saveCounted_of_unchanged _ _ (isChanged_load_new _)
  idle h := saveCounted_of_unchanged _ _ fun role =>
    Bool.eq_false_iff.mpr fun hchanged => h role ((isChanged_edited_iff store steps role).mp hchanged)

end Saving

/-- A role has the color that a step wrote for it from then on. It is marked exactly if some step gave it
one that it did not have at that moment, and the marked ones are counted and saved. The settings then load as the colors that were saved, without marks,
and there is nothing to save again. Saving changes the keys of marked roles, nothing else in their
section and no other section; without marks it puts nothing. -/
theorem edits_are_tracked (steps : List TableStep) :
    (∀ store : MemorySettings,
      let saved := ((edited store steps).saveCounted store).1
      Tracked store steps ∧
        saved.writes = store.writes + {role | WasRecolored store steps role}.ncard ∧
        ∀ k, (∀ role, WasRecolored store steps role → k ≠ key role) →
          saved.find? k = store.find? k) ∧
      ∀ store : FileSettings,
        let saved := ((edited store steps).saveCounted store).1
        Tracked store steps ∧
          saved.path = store.path ∧
          (∀ other, other ≠ area →
            Toml.Entries.find? saved.doc other = Toml.Entries.find? store.doc other) ∧
          ((store.section? area).isSome → (saved.section? area).isSome) ∧
          ∀ k, (∀ role, WasRecolored store steps role → k ≠ key role) →
            saved.find? k = store.find? k := by
  refine ⟨fun store => ?_, fun store => ?_⟩
  · rw [saveCounted_fst, save_eq_puts]
    refine ⟨tracked store steps, ?_, fun k h => ?_⟩
    · rw [MemorySettings.writes_puts, length_changes, changedCount_edited]
    · exact store.find?_puts_of_not_mem (not_mem_changes_edited store h)
  · rw [saveCounted_fst, save_eq]
    refine ⟨tracked store steps, store.path_puts _, fun other hother => ?_,
      FileSettings.isSome_section?_puts, fun k h => FileSettings.find?_puts_of_not_mem ?_⟩
    · exact FileSettings.entry_puts_of_ne fun p hp harea => hother (harea ▸ area_colorPut _ hp)
    · rw [map_fst_colorPuts, ← map_fst_changes]
      exact not_mem_changes_edited store h

example : let t := edited ({} : MemorySettings) [.set .vBlank ⟨1, 2, 3, 4⟩, .load, .reset .vBlank]
    t.get .vBlank = Role.vBlank.defaultColor ∧ t.isChanged .vBlank = true := by decide

end ColorTable

end TraceView
