import Mathlib.Data.List.Infix
import TraceView.Ring

namespace TraceView

namespace Ring

variable {v w : Ring} {c : Char} {s : List Char} {n : Nat}

theorem digit?_digit (h : n ≤ 9) : digit? (digit n) = some n := by
  have hall : ∀ n ≤ 9, digit? (digit n) = some n := by decide
  exact hall n h

theorem eq_digit_of_digit? (h : digit? c = some n) : c = digit n := by
  rw [digit?] at h
  split at h
  case isFalse => cases h
  case isTrue hdigit =>
    cases h
    have hlow : '0'.toNat ≤ c.toNat := (Char.isDigit_iff_toNat.mp hdigit).1
    rw [digit, Nat.add_sub_cancel' hlow, Char.ofNat_toNat]

theorem ofFields?_eq_some_iff {major minor patch : Nat} :
    ofFields? major minor patch = some v ↔ v.major = major ∧ v.minor = minor ∧ v.patch = patch := by
  rw [ofFields?]
  split
  case isTrue hfields =>
    rw [Option.some_inj, eq_comm, Ring.ext_iff]
  case isFalse hfields =>
    simp only [reduceCtorEq, false_iff]
    rintro ⟨rfl, rfl, rfl⟩
    exact hfields ⟨v.major_pos, v.major_le, v.minor_le, v.patch_le⟩

theorem parse_chars_append (v : Ring) (rest : List Char) : parse (v.chars ++ rest) = some v := by
  have hstrip : Text.stripPrefix? label (v.chars ++ rest) =
      some (digit v.major :: '.' :: digit v.minor :: '.' :: digit v.patch :: rest) :=
    Text.stripPrefix?_eq_some_iff.mpr (by simp [chars])
  have hmajor : v.major ≤ 9 := Nat.le_trans v.major_le (by decide)
  have hminor : v.minor ≤ 9 := Nat.le_trans v.minor_le (by decide)
  have hpatch : v.patch ≤ 9 := Nat.le_trans v.patch_le (by decide)
  simp only [parse, hstrip, digit?_digit hmajor, digit?_digit hminor, digit?_digit hpatch]
  exact ofFields?_eq_some_iff.mpr ⟨rfl, rfl, rfl⟩

theorem parse_eq_some_iff : parse s = some v ↔ v.chars <+: s := by
  constructor
  · intro h
    rw [parse] at h
    split at h
    case h_2 => cases h
    case h_1 major minor patch rest hstrip =>
      simp only [Option.bind_eq_bind, Option.bind_eq_some_iff, ofFields?_eq_some_iff] at h
      obtain ⟨_, hmajor, _, hminor, _, hpatch, rfl, rfl, rfl⟩ := h
      refine ⟨rest, ?_⟩
      rw [Text.stripPrefix?_eq_some_iff.mp hstrip, chars, ← eq_digit_of_digit? hmajor,
        ← eq_digit_of_digit? hminor, ← eq_digit_of_digit? hpatch]
      rfl
  · rintro ⟨rest, rfl⟩
    exact parse_chars_append v rest

theorem ascii_chars (v : Ring) : ∀ c ∈ v.chars, c.toNat < 0x80 := by
  have hdigit : ∀ n ≤ 9, (digit n).toNat < 0x80 := by decide
  have hmajor := hdigit v.major (Nat.le_trans v.major_le (by decide))
  have hminor := hdigit v.minor (Nat.le_trans v.minor_le (by decide))
  have hpatch := hdigit v.patch (Nat.le_trans v.patch_le (by decide))
  simp [chars, label, hmajor, hminor, hpatch]

@[simp] theorem index_ofIndex (i : Fin count) : (ofIndex i).index = i := by
  ext
  simp only [index, ofIndex]
  omega

theorem index_inj (h : v.index = w.index) : v = w := by
  rw [← ofIndex_index v, h, ofIndex_index]

end Ring

end TraceView
