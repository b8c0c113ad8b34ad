import TraceView.Color.Blend
import TraceView.Proofs.Number.Word

namespace TraceView

def IsNearest (x : ℚ) (n : ℤ) : Prop := ∀ k : ℤ, k ≠ n → |x - n| < |x - k|

theorem isNearest_of_lt {x : ℚ} {n : ℤ} (h : |x - n| < 1 / 2) : IsNearest x n := by
  intro k hk
  have hapart : (1 : ℚ) ≤ |(k : ℚ) - n| := by exact_mod_cast Int.one_le_abs (sub_ne_zero.mpr hk)
  have hsum : |(k : ℚ) - n| ≤ |x - n| + |x - k| := by
    calc |(k : ℚ) - n| = |(x - n) - (x - k)| := by rw [sub_sub_sub_cancel_left]
      _ ≤ |x - n| + |x - k| := abs_sub _ _
  linarith

/-- A remainder is at most 127 or at least 128, so neither side is half of 255 away. -/
theorem isNearest_div {n q : ℕ} (hlow : 255 * q ≤ n + 127) (hhigh : n ≤ 255 * q + 127) :
    IsNearest ((n : ℚ) / 255) q := by
  have hlow' : (255 : ℚ) * (q : ℤ) ≤ n + 127 := by exact_mod_cast hlow
  have hhigh' : (n : ℚ) ≤ 255 * (q : ℤ) + 127 := by exact_mod_cast hhigh
  refine isNearest_of_lt (abs_lt.mpr ⟨?_, ?_⟩) <;> linarith

namespace Rgba

variable {a f f' b b' c : UInt8}

def weighted (a f b : UInt8) : Nat := f.toNat * a.toNat + b.toNat * (255 - a.toNat)

theorem byte_le (c : UInt8) : c.toNat ≤ 255 := Nat.le_of_lt_succ c.toNat_lt

theorem cast_weighted (a f b : UInt8) : (weighted a f b : ℚ) =
    (f.toNat : ℚ) * a.toNat + (b.toNat : ℚ) * (255 - a.toNat) := by
  rw [weighted]
  push_cast [Nat.cast_sub (byte_le a)]
  rfl

theorem weighted_mono (hf : f ≤ f') (hb : b ≤ b') : weighted a f b ≤ weighted a f' b' :=
  Nat.add_le_add (Nat.mul_le_mul_right _ hf) (Nat.mul_le_mul_right _ hb)

theorem weighted_self (a c : UInt8) : weighted a c c = c.toNat * 255 := by
  rw [weighted, ← Nat.mul_add, Nat.add_sub_cancel' (byte_le a)]

theorem weighted_le (a f b : UInt8) : weighted a f b ≤ 255 * 255 :=
  calc weighted a f b
    _ ≤ weighted a 255 255 := weighted_mono (byte_le f) (byte_le b)
    _ = 255 * 255 := weighted_self a 255

theorem toNat_mix (a f b : UInt8) : (mix a f b).toNat = (weighted a f b + 127) / 255 := by
  have hle := weighted_le a f b
  change (UInt8.ofNat ((weighted a f b + 127) / 255)).toNat = _
  rw [UInt8.toNat_ofNat', Nat.mod_eq_of_lt (by omega)]

theorem mix_nearest (a f b : UInt8) : IsNearest
    (((f.toNat : ℚ) * a.toNat + (b.toNat : ℚ) * (255 - a.toNat)) / 255) (mix a f b).toNat := by
  rw [← cast_weighted, toNat_mix]
  exact isNearest_div (by omega) (by omega)

theorem mix_of_weighted (h : weighted a f b = c.toNat * 255) : mix a f b = c := by
  apply UInt8.toNat_inj.mp
  rw [toNat_mix, h]
  omega

@[simp] theorem mix_self (a c : UInt8) : mix a c c = c := mix_of_weighted (weighted_self a c)

@[simp] theorem mix_full (f b : UInt8) : mix 255 f b = f :=
  mix_of_weighted (by simp [weighted])

@[simp] theorem mix_zero (f b : UInt8) : mix 0 f b = b :=
  mix_of_weighted (by simp [weighted])

theorem mix_mono (hf : f ≤ f') (hb : b ≤ b') : mix a f b ≤ mix a f' b' := by
  rw [UInt8.le_iff_toNat_le, toNat_mix, toNat_mix]
  exact Nat.div_le_div_right (Nat.add_le_add_right (weighted_mono hf hb) 127)

theorem mix_le (hf : f ≤ c) (hb : b ≤ c) : mix a f b ≤ c := by
  simpa only [mix_self] using mix_mono (a := a) hf hb

theorem le_mix (hf : c ≤ f) (hb : c ≤ b) : c ≤ mix a f b := by
  simpa only [mix_self] using mix_mono (a := a) hf hb

theorem mix_between (a f b : UInt8) : min f.toNat b.toNat ≤ (mix a f b).toNat ∧
    (mix a f b).toNat ≤ max f.toNat b.toNat := by
  rcases Nat.le_total f.toNat b.toNat with h | h
  · rw [Nat.min_eq_left h, Nat.max_eq_right h]
    exact ⟨le_mix (Nat.le_refl _) h, mix_le h (Nat.le_refl _)⟩
  · rw [Nat.min_eq_right h, Nat.max_eq_left h]
    exact ⟨le_mix h (Nat.le_refl _), mix_le (Nat.le_refl _) h⟩

def checkedMix (a f b : UInt8) : Except Word.Fault UInt8 := do
  let front ← Word.mul 16 f.toNat a.toNat
  let rest ← Word.sub 255 a.toNat
  let back ← Word.mul 16 b.toNat rest
  let sum ← Word.add 16 front back
  let raised ← Word.add 16 sum 127
  return UInt8.ofNat (Word.low 8 (raised / 255))

theorem checkedMix_eq (a f b : UInt8) : checkedMix a f b = .ok (mix a f b) := by
  have hle := weighted_le a f b
  rw [weighted] at hle
  rw [checkedMix, Word.mul_of_lt (by omega), Word.ok_bind, Word.sub_of_le (byte_le a), Word.ok_bind,
    Word.mul_of_lt (by omega), Word.ok_bind, Word.add_of_lt (by omega), Word.ok_bind,
    Word.add_of_lt (by omega), Word.ok_bind, Word.low_of_lt (by omega)]
  rfl

def checkedComposite (fg bg : Rgba) : Except Word.Fault Rgba := do
  let r ← checkedMix fg.a fg.r bg.r
  let g ← checkedMix fg.a fg.g bg.g
  let b ← checkedMix fg.a fg.b bg.b
  return ⟨r, g, b, 255⟩

theorem checkedComposite_eq (fg bg : Rgba) : checkedComposite fg bg = .ok (fg.composite bg) := by
  simp only [checkedComposite, checkedMix_eq, Word.ok_bind]
  rfl

inductive Primary where
  | red
  | green
  | blue
  deriving DecidableEq, Repr

def channel (c : Rgba) : Primary → UInt8
  | .red => c.r
  | .green => c.g
  | .blue => c.b

theorem channel_composite (fg bg : Rgba) (p : Primary) :
    (fg.composite bg).channel p = mix fg.a (fg.channel p) (bg.channel p) := by
  cases p <;> rfl

/-- In words of 16 bits no step of compositing fails. The result is opaque, and each of its channels is the
integer nearest to the exact value, so it lies between the channels that are mixed. At the ends of alpha it
is one of them, a color over itself keeps its channels, and each grows with what is mixed. -/
theorem composite_is_nearest :
    (∀ fg bg : Rgba, checkedComposite fg bg = .ok (fg.composite bg) ∧ (fg.composite bg).a = 255) ∧
    (∀ (fg bg : Rgba) (p : Primary),
      let f := (fg.channel p).toNat
      let b := (bg.channel p).toNat
      let mixed := ((fg.composite bg).channel p).toNat
      IsNearest (((f : ℚ) * fg.a.toNat + (b : ℚ) * (255 - fg.a.toNat)) / 255) mixed ∧
        min f b ≤ mixed ∧ mixed ≤ max f b) ∧
    (∀ fg bg : Rgba, (fg.a = 255 → fg.composite bg = fg) ∧
      (fg.a = 0 → fg.composite bg = bg.withAlpha 255)) ∧
    (∀ c : Rgba, c.composite c = c.withAlpha 255 ∧ (c.a = 255 → c.composite c = c)) ∧
    ∀ (fg fg' bg bg' : Rgba) (p : Primary), fg.a = fg'.a → fg.channel p ≤ fg'.channel p →
      bg.channel p ≤ bg'.channel p → (fg.composite bg).channel p ≤ (fg'.composite bg').channel p := by
  refine ⟨fun fg bg => ⟨checkedComposite_eq fg bg, rfl⟩, fun fg bg p => ?_,
    fun fg bg => ⟨fun ha => ?_, fun ha => ?_⟩, fun c => ⟨?_, fun ha => ?_⟩,
    fun fg fg' bg bg' p ha hf hb => ?_⟩
  · rw [channel_composite]
    exact ⟨mix_nearest _ _ _, mix_between _ _ _⟩
  · simp [composite, ha, Rgba.ext_iff]
  · simp [composite, withAlpha, ha]
  · simp [composite, withAlpha]
  · simp [composite, ha, Rgba.ext_iff]
  · rw [channel_composite, channel_composite, ha]
    exact mix_mono hf hb

theorem composite_is_nearest_red :
    composite ⟨255, 0, 0, 255⟩ black = ⟨255, 0, 0, 255⟩ ∧
      composite ⟨255, 0, 0, 0⟩ black = black ∧
      (composite ⟨100, 0, 0, 128⟩ black).channel .red ≤
        (composite ⟨200, 0, 0, 128⟩ black).channel .red := by
  obtain ⟨-, -, hends, -, hmono⟩ := composite_is_nearest
  exact ⟨(hends _ _).1 rfl, (hends _ _).2 rfl,
    hmono _ _ _ _ .red rfl (by decide) (UInt8.le_refl _)⟩

end Rgba

end TraceView
