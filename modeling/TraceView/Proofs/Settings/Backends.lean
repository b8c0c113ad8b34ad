import TraceView.Proofs.Settings.Stored
import TraceView.Settings.Memory
import Mathlib.Data.List.Induction

namespace TraceView

open Binary (Agree)
open Toml (Value)

theorem Binary.ofInteger_toInt64 {n : UInt64} (h : n.toNat < Natural.signBit) :
    ofInteger n.toInt64 = n.toFloat32 := by
  have hmodel : Float32.Model.ofInt64 n.toInt64 = Float32.Model.ofUInt64 n := by
    simp only [Float32.Model.ofInt64, Float.Model.UnpackedFloat.ofInt64, Natural.toInt_toInt64 h]
    rfl
  exact congrArg Float32.ofModel hmodel

namespace SettingsStore

variable {σ : Type} [SettingsStore σ]

def put (store : σ) (key : SettingKey) : Setting → σ
  | .float x => putFloat store key x
  | .nat n => putNat store key n
  | .vec4 v => putVec4 store key v

def puts (store : σ) (ps : List (SettingKey × Setting)) : σ :=
  ps.foldl (fun store p => put store p.1 p.2) store

theorem puts_concat (store : σ) (ps : List (SettingKey × Setting)) (p : SettingKey × Setting) :
    puts store (ps ++ [p]) = put (puts store ps) p.1 p.2 := List.foldl_append

end SettingsStore

namespace MemorySettings

variable {key other : SettingKey} {value : Setting}

theorem lookup_filter_of_ne (h : other ≠ key) (es : List (SettingKey × Setting)) :
    (es.filter (·.1 != key)).lookup other = es.lookup other := by
  induction es with
  | nil => rfl
  | cons e es ih =>
    obtain ⟨k, x⟩ := e
    by_cases hk : k = key
    · subst hk
      rw [List.filter_cons_of_neg (by simp), ih, List.lookup_cons, beq_false_of_ne h]
    · rw [List.filter_cons_of_pos (by simpa using hk), List.lookup_cons, List.lookup_cons, ih]

theorem put_eq (s : MemorySettings) (key : SettingKey) (value : Setting) :
    SettingsStore.put s key value = s.put key value := by
  cases value <;> rfl

theorem find?_put_self (s : MemorySettings) (key : SettingKey) (value : Setting) :
    (s.put key value).find? key = some value := by
  rw [find?, put, List.lookup_cons, beq_self_eq_true]

theorem find?_put_of_ne (h : other ≠ key) (s : MemorySettings) (value : Setting) :
    (s.put key value).find? other = s.find? other := by
  rw [find?, put, List.lookup_cons, beq_false_of_ne h]
  exact lookup_filter_of_ne h s.entries

theorem find?_puts (ps : List (SettingKey × Setting)) (key : SettingKey) :
    (SettingsStore.puts ({} : MemorySettings) ps).find? key = ps.reverse.lookup key := by
  induction ps using List.reverseRecOn with
  | nil => rfl
  | append_singleton ps p ih =>
    obtain ⟨k, x⟩ := p
    rw [SettingsStore.puts_concat, put_eq, List.reverse_append, List.reverse_singleton,
      List.singleton_append, List.lookup_cons]
    by_cases hk : key = k
    · rw [hk, find?_put_self, beq_self_eq_true]
    · rw [find?_put_of_ne hk, beq_false_of_ne hk, ih]

theorem find?_puts_of_not_mem {ps : List (SettingKey × Setting)} (s : MemorySettings)
    (h : key ∉ ps.map Prod.fst) : (SettingsStore.puts s ps).find? key = s.find? key := by
  induction ps generalizing s with
  | nil => rfl
  | cons p ps ih =>
    rw [List.map_cons, List.mem_cons, not_or] at h
    have hput : (SettingsStore.put s p.1 p.2).find? key = s.find? key := by
      rw [put_eq]
      exact find?_put_of_ne h.1 s p.2
    exact (ih _ h.2).trans hput

theorem writes_puts (s : MemorySettings) (ps : List (SettingKey × Setting)) :
    (SettingsStore.puts s ps).writes = s.writes + ps.length := by
  induction ps generalizing s with
  | nil => rfl
  | cons p ps ih =>
    have hput : (SettingsStore.put s p.1 p.2).writes = s.writes + 1 := by
      rw [put_eq]
      rfl
    refine (ih _).trans ?_
    rw [hput, List.length_cons, Nat.add_right_comm]
    rfl

end MemorySettings

namespace FileSettings

theorem single?_ofNat (n : UInt64) :
    single? (ofNat n) = if n.toNat < Natural.signBit then some n.toFloat32 else none := by
  unfold ofNat
  split
  case isTrue h => rw [single?, Binary.ofInteger_toInt64 h]
  case isFalse => rfl

theorem vec4?_ofNat (n : UInt64) : vec4? (ofNat n) = none := by
  unfold ofNat
  split <;> rfl

end FileSettings

/-- A setting in both forms. An equal put is skipped, so a float in a document may be one put before. -/
inductive Alike : Option Setting → Option Value → Prop
  | missing : Alike none none
  | float : Agree y x → Alike (some (.float x)) (some (FileSettings.ofSingle y))
  | nat (n : UInt64) : Alike (some (.nat n)) (some (FileSettings.ofNat n))
  | vec4 : Vec4.Agree v u → Alike (some (.vec4 u)) (some (FileSettings.ofVec4 v))

def Simulates (m : MemorySettings) (f : FileSettings) : Prop :=
  ∀ key, Alike (m.find? key) (f.find? key)

theorem alike_put (f : FileSettings) (key : SettingKey) (value : Setting) :
    Alike (some value) ((SettingsStore.put f key value).find? key) := by
  cases value with
  | float x =>
    obtain ⟨y, hfind, hagree, -⟩ := f.find?_put_single key x
    exact hfind ▸ .float hagree
  | nat n => exact f.find?_put_nat key n ▸ .nat n
  | vec4 u =>
    obtain ⟨v, hfind, hagree, -⟩ := f.find?_put_vec4 key u
    exact hfind ▸ .vec4 hagree

namespace Simulates

variable {m : MemorySettings} {f : FileSettings} {key : SettingKey}

theorem put (h : Simulates m f) (key : SettingKey) (value : Setting) :
    Simulates (SettingsStore.put m key value) (SettingsStore.put f key value) := by
  intro other
  rw [MemorySettings.put_eq]
  by_cases hkey : other = key
  · rw [hkey, MemorySettings.find?_put_self]
    exact alike_put f key value
  · have hfile : (SettingsStore.put f key value).find? other = f.find? other := by
      cases value <;> exact FileSettings.find?_put_of_ne hkey
    rw [MemorySettings.find?_put_of_ne hkey, hfile]
    exact h other

theorem puts (h : Simulates m f) (ps : List (SettingKey × Setting)) :
    Simulates (SettingsStore.puts m ps) (SettingsStore.puts f ps) := by
  induction ps generalizing m f with
  | nil => exact h
  | cons p ps ih => exact ih (h.put p.1 p.2)

theorem getNat (h : Simulates m f) :
    SettingsStore.getNat m key = SettingsStore.getNat f key := by
  have hkey := h key
  simp only [SettingsStore.getNat]
  generalize m.find? key = a, f.find? key = b at hkey ⊢
  cases hkey with
  | missing | float => rfl
  | nat n => exact (FileSettings.nat?_ofNat n).symm
  | vec4 => rfl

theorem getVec4 (h : Simulates m f) :
    Option.Rel Vec4.Agree (SettingsStore.getVec4 f key) (SettingsStore.getVec4 m key) := by
  have hkey := h key
  simp only [SettingsStore.getVec4]
  generalize m.find? key = a, f.find? key = b at hkey ⊢
  cases hkey with
  | missing | float => exact .none
  | nat n =>
    rw [Option.bind_some, FileSettings.vec4?_ofNat]
    exact .none
  | vec4 hagree =>
    rw [Option.bind_some, FileSettings.vec4?_ofVec4]
    exact .some hagree

end Simulates

/-- After the same puts both kinds of settings answer alike under every key, but for one thing: a
natural that was put last under a key is no float in memory, and a document has it as one if it fits a
signed integer. -/
theorem backends_answer_alike (path : Path) (ps : List (SettingKey × Setting)) (key : SettingKey) :
    let memory := SettingsStore.puts ({} : MemorySettings) ps
    let file := SettingsStore.puts (FileSettings.empty path) ps
    memory.find? key = ps.reverse.lookup key ∧
      SettingsStore.getNat memory key = SettingsStore.getNat file key ∧
      Option.Rel Vec4.Agree (SettingsStore.getVec4 file key) (SettingsStore.getVec4 memory key) ∧
      match ps.reverse.lookup key with
      | some (.nat n) =>
        SettingsStore.getFloat memory key = none ∧
          SettingsStore.getFloat file key =
            if n.toNat < Natural.signBit then some n.toFloat32 else none
      | _ => Option.Rel Agree (SettingsStore.getFloat file key) (SettingsStore.getFloat memory key) := by
  intro memory file
  have hstart : Simulates {} (FileSettings.empty path) := fun _ => .missing
  have h : Simulates memory file := hstart.puts ps
  have hlast : memory.find? key = ps.reverse.lookup key := MemorySettings.find?_puts ps key
  refine ⟨hlast, h.getNat, h.getVec4, ?_⟩
  rw [← hlast]
  have hkey := h key
  simp only [SettingsStore.getFloat]
  generalize memory.find? key = a, file.find? key = b at hkey ⊢
  cases hkey with
  | missing => exact .none
  | float hagree =>
    rw [Option.bind_some, FileSettings.single?_ofSingle]
    exact .some hagree
  | nat n => exact ⟨rfl, FileSettings.single?_ofNat n⟩
  | vec4 => exact .none

end TraceView
