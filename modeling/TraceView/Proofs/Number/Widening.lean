import TraceView.Number.Binary
import Mathlib

/-!
Passing between the two widths. Floats unpack to canonical values, and a canonical value is rounded
to itself, so what was widened narrows to where it came from.
-/

namespace TraceView.Binary

open Float.Model (Format UnpackedFloat totalExponent)
open Float.Model.UnpackedFloat

variable {spec : Format}

/-- The values that floats of a format unpack to. -/
inductive Canonical (spec : Format) : UnpackedFloat → Prop
  | notANumber : Canonical spec .notANumber
  | infinity (s : Sign) : Canonical spec (.infinity s)
  | zero (s : Sign) : Canonical spec (.zero s)
  | subnormal (s : Sign) (m : Nat) (h : 0 < m) : m < 2 ^ spec.mantissaBitsWithoutImplicit →
      Canonical spec (.finite s m spec.minExponent h)
  | normal (s : Sign) (m : Nat) (e : Int) (h : 0 < m) :
      m.log2 = spec.mantissaBitsWithoutImplicit → spec.minExponent ≤ e →
      e + spec.exponentBias + spec.mantissaBitsWithoutImplicit + 1 < (2 ^ spec.exponentBits : Nat) →
      Canonical spec (.finite s m e h)

theorem minExponent_eq (spec : Format) :
    spec.minExponent = 1 - ((spec.exponentBias : Int) + spec.mantissaBitsWithoutImplicit) := by
  have hpos := Nat.one_le_two_pow (n := spec.exponentBits - 1)
  simp only [Format.minExponent, Format.exponentBias, Format.mantissaBits]
  push_cast [hpos]
  omega

theorem toNat_one_append {w : Nat} (v : BitVec w) : (1#1 ++ v).toNat = 2 ^ w + v.toNat := by
  have hor := Nat.two_pow_add_eq_or_of_lt v.isLt 1
  rw [Nat.mul_one] at hor
  rw [hor, BitVec.toNat_append, BitVec.toNat_one Nat.one_pos, Nat.one_shiftLeft]

theorem log2_one_append {w : Nat} (v : BitVec w) : (1#1 ++ v).toNat.log2 = w := by
  rw [toNat_one_append, Nat.log2_eq_iff (by have := Nat.two_pow_pos w; omega)]
  have := v.isLt
  rw [Nat.pow_succ]
  omega

theorem exponent_zero {b : BitVec spec.numBits} (h : unpackExponent b = 0#_) :
    ((unpackExponent b).toNat : Int) - (spec.exponentBias + spec.mantissaBitsWithoutImplicit) + 1 =
      spec.minExponent := by
  rw [h, minExponent_eq, BitVec.toNat_ofNat, Nat.zero_mod]
  omega

theorem exponent_pos {b : BitVec spec.numBits} (h : unpackExponent b ≠ 0#_) :
    0 < (unpackExponent b).toNat := by
  rw [BitVec.toNat_pos, BitVec.pos_iff_ne_zero]
  exact h

theorem exponent_lt {b : BitVec spec.numBits} (h : unpackExponent b ≠ -1#_) :
    (unpackExponent b).toNat + 1 < 2 ^ spec.exponentBits := by
  have hne : (unpackExponent b).toNat ≠ 2 ^ spec.exponentBits - 1 := by
    intro heq
    apply h
    apply BitVec.eq_of_toNat_eq
    rw [heq, BitVec.neg_one_eq_allOnes, BitVec.toNat_allOnes]
  have := (unpackExponent b).isLt
  omega

theorem canonical_unpack (b : BitVec spec.numBits) : Canonical spec (unpack spec b) := by
  rw [unpack]
  split
  · split
    · exact .infinity _
    · exact .notANumber
  case isFalse hinf =>
    split
    case isTrue hexp =>
      split
      · exact .zero _
      · simp only [exponent_zero hexp]
        exact .subnormal _ _ _ (unpackMantissa b).isLt
    case isFalse hexp =>
      have hpos := exponent_pos hexp
      have hlt := exponent_lt hinf
      refine .normal _ _ _ _ (log2_one_append _) ?_ ?_
      · rw [minExponent_eq]
        omega
      · omega

theorem pack_subnormal (hk : 1 < spec.exponentBits) (s : Sign) {m : Nat} (h : 0 < m)
    (hm : m < 2 ^ spec.mantissaBitsWithoutImplicit) :
    pack spec (.finite s m spec.minExponent h) = packComponents spec s 0#_ (.ofNat _ m) := by
  have hbiased :
      (spec.minExponent + spec.exponentBias + spec.mantissaBitsWithoutImplicit).toNat = 1 := by
    rw [minExponent_eq]
    omega
  have hfour : 2 ^ 2 ≤ 2 ^ spec.exponentBits := Nat.pow_le_pow_right (by decide) hk
  have hlog : m.log2 < spec.mantissaBitsWithoutImplicit := (Nat.log2_lt (by omega)).mpr hm
  simp only [pack, hbiased]
  rw [if_neg (by omega), if_neg (by rw [Format.mantissaBits]; omega)]

theorem pack_normal (s : Sign) {m : Nat} {e : Int} (h : 0 < m)
    (hm : m.log2 = spec.mantissaBitsWithoutImplicit)
    (he : e + spec.exponentBias + spec.mantissaBitsWithoutImplicit + 1 <
      (2 ^ spec.exponentBits : Nat)) :
    pack spec (.finite s m e h) = packComponents spec s
      (.ofNat _ (e + spec.exponentBias + spec.mantissaBitsWithoutImplicit).toNat) (.ofNat _ m) := by
  have htwo : 2 ^ 1 ≤ 2 ^ spec.exponentBits := Nat.pow_le_pow_right (by decide) spec.he
  simp only [pack]
  rw [if_neg (by omega), if_pos (by rw [hm, Format.mantissaBits]; omega)]

theorem unpack_packComponents (s : Sign) (e : BitVec spec.exponentBits)
    (m : BitVec spec.mantissaBitsWithoutImplicit) :
    unpack spec (packComponents spec s e m) =
      if e = -1#_ then if m = 0#_ then .infinity s else .notANumber
      else if e = 0#_ then
        if h : m = 0#_ then .zero s
        else .finite s m.toNat
          (e.toNat - (spec.exponentBias + spec.mantissaBitsWithoutImplicit) + 1)
          (by rwa [BitVec.toNat_pos, BitVec.pos_iff_ne_zero])
      else .finite s (1#1 ++ m).toNat
        (e.toNat - (spec.exponentBias + spec.mantissaBitsWithoutImplicit)) (by simp) := by
  simp only [unpack, unpackMantissa_packComponents, unpackExponent_packComponents,
    unpackSign_packComponents, Sign.ofBitVec_toBitVec]

theorem toNat_ofNat_mantissa {m : Nat} (h : m ≠ 0)
    (hm : m.log2 = spec.mantissaBitsWithoutImplicit) :
    (1#1 ++ BitVec.ofNat spec.mantissaBitsWithoutImplicit m).toNat = m := by
  obtain ⟨hlow, hhigh⟩ := (Nat.log2_eq_iff h).mp hm
  rw [Nat.pow_succ] at hhigh
  rw [toNat_one_append, BitVec.toNat_ofNat, Nat.mod_eq_sub_mod hlow, Nat.mod_eq_of_lt (by omega)]
  omega

theorem unpack_pack (hk : 1 < spec.exponentBits) {x : UnpackedFloat} (h : Canonical spec x) :
    unpack spec (pack spec x) = x := by
  have hfour : 2 ^ 2 ≤ 2 ^ spec.exponentBits := Nat.pow_le_pow_right (by decide) hk
  have hones : (-1#(spec.exponentBits)).toNat = 2 ^ spec.exponentBits - 1 := by
    rw [BitVec.neg_one_eq_allOnes, BitVec.toNat_allOnes]
  have hzero : 0#(spec.exponentBits) ≠ -1#_ := by
    intro heq
    have := congrArg BitVec.toNat heq
    rw [hones, BitVec.toNat_zero] at this
    omega
  cases h with
  | notANumber => exact unpack_packedNaN
  | infinity s =>
    rw [pack, packedInfinity, unpack_packComponents, if_pos rfl]
    exact if_pos rfl
  | zero s => exact unpack_packedZero
  | subnormal s m h hm =>
    have htoNat : (BitVec.ofNat spec.mantissaBitsWithoutImplicit m).toNat = m := by
      rw [BitVec.toNat_ofNat, Nat.mod_eq_of_lt hm]
    have hne : BitVec.ofNat spec.mantissaBitsWithoutImplicit m ≠ 0#_ := by
      rw [← BitVec.pos_iff_ne_zero, ← BitVec.toNat_pos, htoNat]
      exact h
    rw [pack_subnormal hk s h hm, unpack_packComponents, if_neg hzero, if_pos rfl, dif_neg hne]
    simp only [htoNat, minExponent_eq, BitVec.toNat_zero]
    congr 1
    omega
  | normal s m e h hm hlow hhigh =>
    rw [minExponent_eq] at hlow
    let biased := (e + spec.exponentBias + spec.mantissaBitsWithoutImplicit).toNat
    have htoNat : (BitVec.ofNat spec.exponentBits biased).toNat = biased := by
      rw [BitVec.toNat_ofNat, Nat.mod_eq_of_lt (by omega)]
    have hfinite : BitVec.ofNat spec.exponentBits biased ≠ -1#_ := by
      intro heq
      have := congrArg BitVec.toNat heq
      rw [hones, htoNat] at this
      omega
    have hnormal : BitVec.ofNat spec.exponentBits biased ≠ 0#_ := by
      intro heq
      have := congrArg BitVec.toNat heq
      rw [htoNat, BitVec.toNat_zero] at this
      omega
    rw [pack_normal s h hm hhigh, unpack_packComponents, if_neg hfinite, if_neg hnormal]
    simp only [toNat_ofNat_mantissa (Nat.pos_iff_ne_zero.mp h) hm, biased] at htoNat ⊢
    rw [htoNat]
    congr 1
    omega

theorem log2_shift {m : Nat} (h : m ≠ 0) (k : Nat) : (m * 2 ^ k).log2 = m.log2 + k := by
  induction k with
  | zero => simp
  | succ k ih =>
    have hne : m * 2 ^ k ≠ 0 := Nat.mul_ne_zero h (Nat.ne_of_gt (Nat.two_pow_pos k))
    rw [Nat.pow_succ, ← Nat.mul_assoc, Nat.mul_comm _ 2, Nat.log2_two_mul hne, ih, Nat.add_assoc]

theorem totalExponent_shift {m : Nat} (h : m ≠ 0) (e : Int) (k : Nat) :
    totalExponent (m * 2 ^ k) (e - k) = totalExponent m e := by
  simp only [totalExponent, log2_shift h]
  omega

theorem shiftRight_shift (m k : Nat) :
    (⟨m * 2 ^ k, false, false⟩ : ExtendedMantissa) >>> k = ⟨m, false, false⟩ := by
  change k.repeat ExtendedMantissa.shiftRightOne _ = _
  induction k generalizing m with
  | zero => simp [Nat.repeat]
  | succ k ih =>
    rw [Nat.repeat, Nat.pow_succ, Nat.mul_comm _ 2, ← Nat.mul_assoc, ih]
    simp [ExtendedMantissa.shiftRightOne]

theorem shiftToTargetExponent_shift {m : Nat} {e : Int} (h : m ≠ 0)
    (he : spec.targetExponent (totalExponent m e) = e) (k : Nat) :
    shiftToTargetExponent spec (m * 2 ^ k) (e - k) .exact = (⟨m, false, false⟩, e) := by
  have hamount : (e - (e - k)).toNat = k := by omega
  rw [shiftToTargetExponent, totalExponent_shift h, he, shiftToExponent]
  simp only [hamount, ExtendedMantissa.ofMantissaAndAccuracy, shiftRight_shift]
  rw [Int.sub_add_cancel]

/-- A value that the format has is rounded to itself, whichever way it was written. -/
theorem roundWithAccuracy_shift (s : Sign) {m : Nat} {e : Int} (h : 0 < m)
    (he : spec.targetExponent (totalExponent m e) = e) (k : Nat) :
    roundWithAccuracy spec s (m * 2 ^ k) (e - k) .exact = .finite s m e h := by
  have hne := Nat.pos_iff_ne_zero.mp h
  have hagain := shiftToTargetExponent_shift hne he 0
  rw [Nat.pow_zero, Nat.mul_one, Int.natCast_zero, Int.sub_zero] at hagain
  have hrounded : ExtendedMantissa.roundedMantissa ⟨m, false, false⟩ = m := rfl
  simp only [roundWithAccuracy, shiftToTargetExponent_shift hne he, hrounded, hagain]
  exact dif_neg hne

theorem round_up (s : Sign) {m : Nat} {e : Int} (h : 0 < m)
    (he : spec.targetExponent (totalExponent m e) = e) (k : Nat) :
    round spec s (m * 2 ^ k) (e - k) = .finite s m e h := by
  have hamount : (e - k - e).toNat = 0 := by omega
  rw [UnpackedFloat.round, totalExponent_shift (Nat.pos_iff_ne_zero.mp h), he, decreaseExponent]
  simp only [hamount, Nat.shiftLeft_zero, Int.natCast_zero, Int.sub_zero]
  exact roundWithAccuracy_shift s h he k

theorem round_down (s : Sign) {m : Nat} {e : Int} (h : 0 < m) {k : Nat}
    (he : spec.targetExponent (totalExponent m e) = e - k) :
    round spec s m e = .finite s (m * 2 ^ k) (e - k) (Nat.mul_pos h (Nat.two_pow_pos k)) := by
  have hamount : (e - (e - k)).toNat = k := by omega
  rw [UnpackedFloat.round, he, decreaseExponent]
  simp only [hamount, Nat.shiftLeft_eq]
  have hcanonical : spec.targetExponent (totalExponent (m * 2 ^ k) (e - k)) = e - k := by
    rw [totalExponent_shift (Nat.pos_iff_ne_zero.mp h), he]
  simpa using roundWithAccuracy_shift s (Nat.mul_pos h (Nat.two_pow_pos k)) hcanonical 0

theorem Canonical.target {s : Sign} {m : Nat} {e : Int} {h : 0 < m}
    (hx : Canonical spec (.finite s m e h)) : spec.targetExponent (totalExponent m e) = e := by
  cases hx with
  | subnormal _ _ _ hm =>
    have hlog := (Nat.log2_lt (Nat.pos_iff_ne_zero.mp h)).mpr hm
    simp only [Format.targetExponent, totalExponent, Format.mantissaBits]
    omega
  | normal _ _ _ _ hm hlow =>
    simp only [Format.targetExponent, totalExponent, Format.mantissaBits, hm]
    omega

theorem Canonical.bounds {s : Sign} {m : Nat} {e : Int} {h : 0 < m}
    (hx : Canonical .binary32 (.finite s m e h)) : m.log2 ≤ 23 ∧ -149 ≤ e ∧ e ≤ 104 := by
  cases hx with
  | subnormal _ _ _ hm =>
    have hlog := (Nat.log2_lt (Nat.pos_iff_ne_zero.mp h)).mpr hm
    exact ⟨Nat.le_of_lt hlog, by decide, by decide⟩
  | normal _ _ _ _ hm hlow hhigh =>
    have hmin : Format.minExponent .binary32 = -149 := by decide
    have hbias : Format.exponentBias .binary32 = 127 := by decide
    simp only [hmin, hbias] at hlow hhigh
    exact ⟨Nat.le_of_eq hm, hlow, by omega⟩

/-- Widening shifts the mantissa until it fills the wide format, and narrowing shifts it back. -/
theorem recast_finite {s : Sign} {m : Nat} {e : Int} {h : 0 < m}
    (hx : Canonical .binary32 (.finite s m e h)) :
    Canonical .binary64 (recast .binary64 (.finite s m e h)) ∧
      recast .binary32 (recast .binary64 (.finite s m e h)) = .finite s m e h := by
  obtain ⟨hlog, hlow, hhigh⟩ := hx.bounds
  obtain ⟨k, hk⟩ := Nat.exists_eq_add_of_le hlog
  have hmin : Format.minExponent .binary64 = -1074 := by decide
  have hbias : Format.exponentBias .binary64 = 1023 := by decide
  have hbits : Format.mantissaBits .binary64 = 53 := by decide
  have htarget : Format.targetExponent .binary64 (totalExponent m e) = e - (29 + k : Nat) := by
    simp only [Format.targetExponent, totalExponent, hbits, hmin]
    omega
  rw [recast, round_down s h htarget]
  refine ⟨.normal _ _ _ _ ?_ ?_ ?_, round_up s h hx.target (29 + k)⟩
  · rw [log2_shift (Nat.pos_iff_ne_zero.mp h)]
    change m.log2 + (29 + k) = 52
    omega
  · omega
  · change e - (29 + k : Nat) + (Format.exponentBias .binary64 : Nat) + (52 : Nat) + 1 <
      (2 ^ 11 : Nat)
    omega

theorem recast_zero (format : Format) (s : Sign) : recast format (.zero s) = .zero s := rfl

theorem canonical_recast {x : UnpackedFloat} (hx : Canonical .binary32 x) :
    Canonical .binary64 (recast .binary64 x) := by
  cases x with
  | finite s m e h => exact (recast_finite hx).1
  | infinity s => exact .infinity s
  | notANumber => exact .notANumber
  | zero s => exact .zero s

theorem recast_recast {x : UnpackedFloat} (hx : Canonical .binary32 x) :
    recast .binary32 (recast .binary64 x) = x := by
  cases x with
  | finite s m e h => exact (recast_finite hx).2
  | infinity s => rfl
  | notANumber => rfl
  | zero s => rfl

theorem ofModel_pack (x : Float) : .ofModel (.pack x.toModel.unpack) = x := by
  obtain ⟨⟨bits, hvalid⟩⟩ := x
  congr 1
  apply Float.Model.mk.injEq _ _ _ _ |>.mpr
  exact congrArg UInt64.ofBitVec (pack_unpack_of_valid hvalid)

theorem ofModel_pack_single (x : Float32) : .ofModel (.pack x.toModel.unpack) = x := by
  obtain ⟨⟨bits, hvalid⟩⟩ := x
  congr 1
  apply Float32.Model.mk.injEq _ _ _ _ |>.mpr
  exact congrArg UInt32.ofBitVec (pack_unpack_of_valid hvalid)

theorem canonical_single (x : Float32) : Canonical .binary32 x.toModel.unpack :=
  canonical_unpack _

theorem unpack_widen (x : Float32) :
    (widen x).toModel.unpack = recast .binary64 x.toModel.unpack :=
  unpack_pack (by decide) (canonical_recast (canonical_single x))

theorem narrow_widen (x : Float32) : narrow (widen x) = x := by
  rw [narrow, unpack_widen, recast_recast (canonical_single x), ofModel_pack_single]

theorem eq_or_zero_of_beq {x y : UnpackedFloat} (h : x.beq y = true) :
    x = y ∨ ∃ s t, x = .zero s ∧ y = .zero t := by
  obtain ⟨-, -, heq | hzero | hzero⟩ := (beq_iff_ne_notANumber_and_eq x y).mp h
  · exact .inl heq
  · exact .inr ⟨_, _, hzero⟩
  · exact .inr ⟨_, _, hzero⟩

theorem beq_self {x : UnpackedFloat} (h : x ≠ .notANumber) : x.beq x = true :=
  (beq_iff_ne_notANumber_and_eq x x).mpr ⟨h, h, .inl rfl⟩

theorem beq_self_of_beq {x y : Float} (h : (x == y) = true) : (x == x) = true :=
  Float.beq_self_iff.mpr (Float.beq_iff_ne_nan_and_eq.mp h).1

theorem unpack_zero (s : Sign) :
    (Float32.ofModel (.pack (.zero s))).toModel.unpack = .zero s :=
  unpack_pack (by decide) (.zero s)

theorem widen_narrow_of_beq {f : Float} {x : Float32} (h : (f == widen x) = true) :
    widen (narrow f) = f ∧ (narrow f == x) = true := by
  have hback : recast .binary32 (widen x).toModel.unpack = x.toModel.unpack := by
    rw [unpack_widen, recast_recast (canonical_single x)]
  rcases eq_or_zero_of_beq h with heq | ⟨s, t, hf, hx⟩
  · have hfx : f = widen x := by rw [← ofModel_pack f, heq, ofModel_pack]
    have hnumber : x.toModel.unpack ≠ .notANumber := by
      intro hnan
      change f.toModel.unpack.beq (widen x).toModel.unpack = true at h
      rw [heq, unpack_widen, hnan] at h
      cases h
    rw [hfx, narrow_widen]
    exact ⟨rfl, beq_self hnumber⟩
  · have hxzero : x.toModel.unpack = .zero t := by rw [← hback, hx, recast_zero]
    have hnarrow : (narrow f).toModel.unpack = .zero s := by
      rw [narrow, hf]
      exact unpack_zero s
    constructor
    · rw [← ofModel_pack (widen (narrow f)), unpack_widen, hnarrow, recast_zero, ← hf, ofModel_pack]
    · change (narrow f).toModel.unpack.beq x.toModel.unpack = true
      rw [hnarrow, hxzero]
      rfl

def Agree (x y : Float32) : Prop := (x == y) = true ∨ x.isNaN = true ∧ y.isNaN = true

theorem Agree.refl (x : Float32) : Agree x x := by
  by_cases h : x.toModel.unpack = .notANumber
  · have hnan : x.isNaN = true := congrArg UnpackedFloat.isNaN h
    exact .inr ⟨hnan, hnan⟩
  · exact .inl (beq_self h)

end TraceView.Binary
