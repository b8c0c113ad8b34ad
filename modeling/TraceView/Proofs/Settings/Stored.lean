import TraceView.Proofs.Number.Digits
import TraceView.Proofs.Settings.Puts

namespace TraceView

open Binary (Agree widen narrow)

theorem Natural.toInt_toInt64 {n : UInt64} (h : n.toNat < signBit) :
    n.toInt64.toInt = n.toNat := by
  have hsmall : 2 * n.toBitVec.toNat < 2 ^ 64 := by
    change n.toNat < 0x8000000000000000 at h
    change 2 * n.toNat < 2 ^ 64
    omega
  exact BitVec.toInt_eq_toNat_of_lt hsmall

structure Vec4.Agree (u v : Vec4) : Prop where
  x : Binary.Agree u.x v.x
  y : Binary.Agree u.y v.y
  z : Binary.Agree u.z v.z
  w : Binary.Agree u.w v.w

theorem Vec4.Agree.refl (v : Vec4) : v.Agree v := ⟨.refl _, .refl _, .refl _, .refl _⟩

namespace FileSettings

open Toml (Value)

variable {s : FileSettings} {key : SettingKey}

theorem single?_ofSingle (x : Float32) : single? (ofSingle x) = some x :=
  congrArg some (Binary.narrow_widen x)

theorem vec4?_ofVec4 (v : Vec4) : vec4? (ofVec4 v) = some v := by
  simp [vec4?, ofVec4, Value.elements?, Vec4.toList, Vec4.ofList?, single?_ofSingle]

theorem nat?_ofNat (n : UInt64) : nat? (ofNat n) = some n := by
  unfold ofNat
  split
  case isTrue h =>
    have hnonneg : 0 ≤ n.toInt64 := by
      rw [Int64.le_iff_toInt_le, Natural.toInt_toInt64 h]
      exact Int.natCast_nonneg n.toNat
    rw [nat?, if_pos hnonneg, UInt64.toUInt64_toInt64]
  case isFalse =>
    rw [nat?, Natural.read?_digits n.toNat_lt_size, Option.map_some, UInt64.ofNat_toNat]

theorem exists_single_of_same {old : Value} {x : Float32} (h : old.same (ofSingle x) = true) :
    ∃ y, old = ofSingle y ∧ Agree y x ∧ old.same old = true := by
  cases old with
  | float f =>
    obtain ⟨hback, hagree⟩ := Binary.widen_narrow_of_beq h
    exact ⟨narrow f, congrArg Value.float hback.symm, .inl hagree, Binary.beq_self_of_beq h⟩
  | _ => cases h

theorem exists_vec4_of_same {old : Value} {u : Vec4} (h : old.same (ofVec4 u) = true) :
    ∃ v : Vec4, old = ofVec4 v ∧ v.Agree u ∧ old.same old = true := by
  cases old with
  | array xs =>
    match xs with
    | [a, b, c, d] =>
      simp only [ofVec4, Vec4.toList, List.map_cons, List.map_nil, Value.same, Value.sameList,
        Bool.and_eq_true, Bool.and_true] at h
      obtain ⟨ha, hb, hc, hd⟩ := h
      obtain ⟨x, rfl, hx, ha⟩ := exists_single_of_same ha
      obtain ⟨y, rfl, hy, hb⟩ := exists_single_of_same hb
      obtain ⟨z, rfl, hz, hc⟩ := exists_single_of_same hc
      obtain ⟨w, rfl, hw, hd⟩ := exists_single_of_same hd
      refine ⟨⟨x, y, z, w⟩, rfl, ⟨hx, hy, hz, hw⟩, ?_⟩
      simp only [Value.same, Value.sameList, ha, hb, hc, hd, Bool.and_self]
    | [] | [_] | [_, _] | [_, _, _] | _ :: _ :: _ :: _ :: _ :: _ =>
      simp [ofVec4, Vec4.toList, Value.same, Value.sameList] at h
  | _ => cases h

theorem eq_of_same_nat {old : Value} {n : UInt64} (h : old.same (ofNat n) = true) :
    old = ofNat n := by
  unfold ofNat at h ⊢
  split at h <;> cases old <;> simp_all [Value.same]

theorem find?_put_single (s : FileSettings) (key : SettingKey) (x : Float32) :
    ∃ y, (s.put key (ofSingle x)).find? key = some (ofSingle y) ∧ Agree y x ∧
      (s.put key (ofSingle x)).Settled key (ofSingle y) := by
  rcases put_cases s key (ofSingle x) with ⟨old, hfind, hsame, hput⟩ | hput
  · obtain ⟨y, rfl, hagree, hself⟩ := exists_single_of_same hsame
    rw [hput]
    exact ⟨y, hfind, hagree, settled_of_same hfind hself⟩
  · rw [hput]
    exact ⟨x, find?_write_self, .refl x, settled_write⟩

theorem find?_put_vec4 (s : FileSettings) (key : SettingKey) (u : Vec4) :
    ∃ v : Vec4, (s.put key (ofVec4 u)).find? key = some (ofVec4 v) ∧ v.Agree u ∧
      (s.put key (ofVec4 u)).Settled key (ofVec4 v) := by
  rcases put_cases s key (ofVec4 u) with ⟨old, hfind, hsame, hput⟩ | hput
  · obtain ⟨v, rfl, hagree, hself⟩ := exists_vec4_of_same hsame
    rw [hput]
    exact ⟨v, hfind, hagree, settled_of_same hfind hself⟩
  · rw [hput]
    exact ⟨u, find?_write_self, .refl u, settled_write⟩

theorem find?_put_nat (s : FileSettings) (key : SettingKey) (n : UInt64) :
    (s.put key (ofNat n)).find? key = some (ofNat n) := by
  rcases put_cases s key (ofNat n) with ⟨old, hfind, hsame, hput⟩ | hput
  · rw [hput, hfind, eq_of_same_nat hsame]
  · rw [hput, find?_write_self]

end FileSettings

end TraceView
