import TraceView.Proofs.Settings.Lawful

namespace TraceView.FileSettings

open Binary (Agree narrow ofInteger)
open Toml (Entries Value)

inductive CountsAsSingle : Value → Float32 → Prop
  | float (x : Float) : CountsAsSingle (.float x) (narrow x)
  | integer (i : Int64) : CountsAsSingle (.integer i) (ofInteger i)

inductive CountsAsNat : Value → UInt64 → Prop
  | integer {i : Int64} {n : UInt64} : i.toInt = n.toNat → CountsAsNat (.integer i) n
  | text {s : String} {n : UInt64} : Natural.IsDecimal s n.toNat → CountsAsNat (.string s) n

inductive CountsAsVec4 : Value → Vec4 → Prop
  | floats {xs : List Value} {v : Vec4} :
    List.Forall₂ CountsAsSingle xs v.toList → CountsAsVec4 (.array xs) v

theorem single?_eq_some_iff {v : Value} {x : Float32} : single? v = some x ↔ CountsAsSingle v x := by
  constructor
  · intro h
    cases v <;> cases h
    · exact .integer _
    · exact .float _
  · rintro (_ | _) <;> rfl

theorem toInt_eq_toNat_iff {i : Int64} {n : UInt64} :
    i.toInt = n.toNat ↔ 0 ≤ i ∧ i.toUInt64 = n := by
  constructor
  · intro h
    have hi : 0 ≤ i := by
      rw [Int64.le_iff_toInt_le, h]
      exact Int.natCast_nonneg _
    refine ⟨hi, UInt64.toNat_inj.mp ?_⟩
    rw [Int64.toNat_toUInt64_of_le hi, ← Int64.toNat_toInt, h, Int.toNat_natCast]
  · rintro ⟨hi, rfl⟩
    rw [Int64.toNat_toUInt64_of_le hi, ← Int64.toNat_toInt]
    exact (Int.toNat_of_nonneg (Int64.le_iff_toInt_le.mp hi)).symm

theorem nat?_eq_some_iff {v : Value} {n : UInt64} : nat? v = some n ↔ CountsAsNat v n := by
  cases v with
  | integer i =>
    rw [nat?, Option.ite_none_right_eq_some, Option.some.injEq, ← toInt_eq_toNat_iff]
    constructor
    · exact .integer
    · rintro ⟨h⟩
      exact h
  | string s =>
    rw [nat?, Option.map_eq_some_iff]
    constructor
    · rintro ⟨m, hm, rfl⟩
      obtain ⟨hdecimal, hlt⟩ := Natural.read?_eq_some_iff.mp hm
      refine .text ?_
      rwa [UInt64.toNat_ofNat_of_lt' hlt]
    · rintro (_ | h)
      exact ⟨n.toNat, Natural.read?_eq_some_iff.mpr ⟨h, n.toNat_lt_size⟩, UInt64.ofNat_toNat⟩
  | _ => constructor <;> intro h <;> cases h

theorem mapM_single?_eq_some_iff {xs : List Value} {ys : List Float32} :
    xs.mapM single? = some ys ↔ List.Forall₂ CountsAsSingle xs ys := by
  induction xs generalizing ys with
  | nil => cases ys <;> simp
  | cons x xs ih =>
    simp only [List.mapM_cons, Option.bind_eq_bind, Option.bind_eq_some_iff, single?_eq_some_iff, ih]
    constructor
    · rintro ⟨y, hy, ys, hys, h⟩
      cases h
      exact .cons hy hys
    · rintro (_ | ⟨hy, hys⟩)
      exact ⟨_, hy, _, hys, rfl⟩

theorem ofList?_eq_some_iff {xs : List Float32} {v : Vec4} :
    Vec4.ofList? xs = some v ↔ xs = v.toList := by
  constructor
  · intro h
    unfold Vec4.ofList? at h
    split at h <;> cases h
    rfl
  · rintro rfl
    rfl

theorem vec4?_eq_some_iff {v : Value} {u : Vec4} : vec4? v = some u ↔ CountsAsVec4 v u := by
  simp only [vec4?, Option.bind_eq_bind, Option.bind_eq_some_iff, mapM_single?_eq_some_iff,
    ofList?_eq_some_iff]
  constructor
  · rintro ⟨xs, hxs, ys, hys, rfl⟩
    cases v <;> cases hxs
    exact .floats hys
  · rintro ⟨h⟩
    exact ⟨_, rfl, _, h, rfl⟩

/-- What a put under a key does to the sections, whatever they hold. -/
structure PutsUnder (key : SettingKey) (s s' : FileSettings) : Prop where
  elsewhere : ∀ area, area ≠ key.area → Entries.find? s'.doc area = Entries.find? s.doc area
  beside : ∀ es, s.section? key.area = some es → ∃ es', s'.section? key.area = some es' ∧
    ∀ name, name ≠ key.name → Entries.find? es' name = Entries.find? es name
  begun : s.section? key.area = none → ∃ v, s'.section? key.area = some [(key.name, v)]

theorem putsUnder_put (s : FileSettings) (key : SettingKey) (v : Value) :
    PutsUnder key s (s.put key v) := by
  rcases put_cases s key v with ⟨old, hfind, -, hput⟩ | hput <;> rw [hput]
  · obtain ⟨es, hes, -⟩ := Option.bind_eq_some_iff.mp hfind
    refine ⟨fun _ _ => rfl, fun es h => ⟨es, h, fun _ _ => rfl⟩, fun hnone => ?_⟩
    rw [hes] at hnone
    cases hnone
  · refine ⟨fun area h => Entries.find?_insert_of_ne h _ _, fun es hes => ?_, fun hnone => ?_⟩
    · refine ⟨_, section?_write_self, fun name hname => ?_⟩
      rw [hes]
      exact Entries.find?_insert_of_ne hname _ _
    · refine ⟨v, section?_write_self.trans ?_⟩
      rw [hnone]
      rfl

/-- What is put is read back, a natural exactly and floats as ones that agree, and the put touches
nothing beside it. In any document each getter answers with what the value counts as, and with nothing
where there is none: so for a negative integer, and for a text that is no natural below 2^64. -/
theorem put_reads_back (s : FileSettings) (key : SettingKey) :
    (∀ n : UInt64,
      let s' := SettingsStore.putNat s key n
      SettingsStore.getNat s' key = some n ∧
        s'.find? key = some (if n.toNat < Natural.signBit then .integer n.toInt64
          else .string (Decimal.digits n.toNat)) ∧
        PutsUnder key s s') ∧
      (∀ x : Float32,
        let s' := SettingsStore.putFloat s key x
        (∃ y, SettingsStore.getFloat s' key = some y ∧ Agree y x) ∧ PutsUnder key s s') ∧
      (∀ v : Vec4,
        let s' := SettingsStore.putVec4 s key v
        (∃ u, SettingsStore.getVec4 s' key = some u ∧ u.Agree v) ∧ PutsUnder key s s') ∧
      (∀ n, SettingsStore.getNat s key = some n ↔ ∃ v, s.find? key = some v ∧ CountsAsNat v n) ∧
      (∀ x, SettingsStore.getFloat s key = some x ↔
        ∃ v, s.find? key = some v ∧ CountsAsSingle v x) ∧
      (∀ u, SettingsStore.getVec4 s key = some u ↔
        ∃ v, s.find? key = some v ∧ CountsAsVec4 v u) ∧
      (∀ i, s.find? key = some (.integer i) → i < 0 → SettingsStore.getNat s key = none) ∧
      ∀ text, s.find? key = some (.string text) →
        (∀ n < UInt64.size, ¬ Natural.IsDecimal text n) → SettingsStore.getNat s key = none := by
  have hnat (n : UInt64) :
      SettingsStore.getNat s key = some n ↔ ∃ v, s.find? key = some v ∧ CountsAsNat v n := by
    simp only [SettingsStore.getNat, Option.bind_eq_some_iff, nat?_eq_some_iff]
  have hreturns := LawfulStore.returns_put s key
  refine ⟨fun n => ⟨hreturns (.nat n), find?_put_nat s key n, putsUnder_put s key _⟩,
    fun x => ⟨hreturns (.float x), putsUnder_put s key _⟩,
    fun v => ⟨hreturns (.vec4 v), putsUnder_put s key _⟩, hnat, fun x => ?_, fun u => ?_,
    fun i hfind hneg => ?_, fun text hfind hno => ?_⟩
  · simp only [SettingsStore.getFloat, Option.bind_eq_some_iff, single?_eq_some_iff]
  · simp only [SettingsStore.getVec4, Option.bind_eq_some_iff, vec4?_eq_some_iff]
  · refine Option.eq_none_iff_forall_ne_some.mpr fun n h => ?_
    obtain ⟨v, hv, hcounts⟩ := (hnat n).mp h
    cases hfind.symm.trans hv
    obtain ⟨hn⟩ := hcounts
    exact Int64.not_le.mpr hneg (toInt_eq_toNat_iff.mp hn).1
  · refine Option.eq_none_iff_forall_ne_some.mpr fun n h => ?_
    obtain ⟨v, hv, hcounts⟩ := (hnat n).mp h
    cases hfind.symm.trans hv
    cases hcounts with
    | text hdecimal => exact hno n.toNat n.toNat_lt_size hdecimal

end TraceView.FileSettings
