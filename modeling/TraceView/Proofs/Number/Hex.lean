import TraceView.Number.Hex
import TraceView.Proofs.Text.Ascii

namespace TraceView.Hex

def lowerDigits : List Char := "0123456789abcdef".toList
def upperDigits : List Char := "0123456789ABCDEF".toList

def IsDigit (c : Char) (n : Nat) : Prop := lowerDigits[n]? = some c ∨ upperDigits[n]? = some c

/-- Two digits for each byte, the high one first. -/
inductive Spells : List Char → Bytes → Prop
  | nil : Spells [] []
  | cons {high low : Char} {h l : Nat} {b : UInt8} {ds : List Char} {bs : Bytes} :
      IsDigit high h → IsDigit low l → b.toNat = 16 * h + l → Spells ds bs →
        Spells (high :: low :: ds) (b :: bs)

variable {c d high low : Char} {n : Nat} {b : UInt8} {ds : List Char} {bs : Bytes}

theorem IsDigit.lt (hd : IsDigit d n) : n < 16 := by
  rcases hd with hd | hd <;> exact (List.getElem?_eq_some_iff.mp hd).1

theorem exists_isDigit_iff : (∃ n, IsDigit d n) ↔ d ∈ lowerDigits ∨ d ∈ upperDigits := by
  simp only [IsDigit, exists_or, List.mem_iff_getElem?]

theorem value?_eq_some_iff : value? c = some n ↔ IsDigit c n := by
  constructor
  · intro hvalue
    have hnumber : ∀ n ≤ 9, lowerDigits[n]? = some (Char.ofNat (n + 48)) := by decide
    have hupper : ∀ n ≤ 15, 10 ≤ n → upperDigits[n]? = some (Char.ofNat (n + 55)) := by decide
    have hlower : ∀ n ≤ 15, 10 ≤ n → lowerDigits[n]? = some (Char.ofNat (n + 87)) := by decide
    simp only [value?, Bool.and_eq_true, decide_eq_true_eq] at hvalue
    split at hvalue
    case isTrue hrange =>
      cases hvalue
      left
      rw [hnumber _ (by omega), Nat.sub_add_cancel hrange.1, Char.ofNat_toNat]
    split at hvalue
    case isTrue hrange =>
      cases hvalue
      right
      rw [hupper _ (by omega) (by omega), Nat.sub_add_cancel (by omega), Char.ofNat_toNat]
    split at hvalue
    case isTrue hrange =>
      cases hvalue
      left
      rw [hlower _ (by omega) (by omega), Nat.sub_add_cancel (by omega), Char.ofNat_toNat]
    case isFalse => cases hvalue
  · intro hd
    have hlower : ∀ n < 16, lowerDigits[n]?.bind value? = some n := by decide
    have hupper : ∀ n < 16, upperDigits[n]?.bind value? = some n := by decide
    have hn := hd.lt
    rcases hd with hd | hd
    · simpa only [hd, Option.bind_some] using hlower n hn
    · simpa only [hd, Option.bind_some] using hupper n hn

theorem pair?_eq_some_iff :
    pair? high low = some b ↔ ∃ h l, IsDigit high h ∧ IsDigit low l ∧ b.toNat = 16 * h + l := by
  have hbyte {h l : Nat} (hh : IsDigit high h) (hl : IsDigit low l) :
      UInt8.ofNat (16 * h + l) = b ↔ b.toNat = 16 * h + l := by
    have hhigh := hh.lt
    have hlow := hl.lt
    rw [← UInt8.toNat_inj, UInt8.toNat_ofNat', Nat.mod_eq_of_lt (by omega), eq_comm]
  simp only [pair?, bind, Option.bind_eq_some_iff, pure, Option.some.injEq, value?_eq_some_iff]
  constructor
  · rintro ⟨h, hh, l, hl, heq⟩
    exact ⟨h, l, hh, hl, (hbyte hh hl).mp heq⟩
  · rintro ⟨h, l, hh, hl, heq⟩
    exact ⟨h, hh, l, hl, (hbyte hh hl).mpr heq⟩

theorem spells_nil_iff : Spells ds [] ↔ ds = [] := by
  constructor
  · rintro ⟨⟩
    rfl
  · rintro rfl
    exact .nil

theorem nil_spells_iff : Spells [] bs ↔ bs = [] := by
  constructor
  · rintro ⟨⟩
    rfl
  · rintro rfl
    exact .nil

theorem spells_cons_iff :
    Spells (high :: low :: ds) (b :: bs) ↔ pair? high low = some b ∧ Spells ds bs := by
  rw [pair?_eq_some_iff]
  constructor
  · rintro ⟨⟩
    case cons h l hh hl hb hrest => exact ⟨⟨h, l, hh, hl, hb⟩, hrest⟩
  · rintro ⟨⟨h, l, hh, hl, hb⟩, hrest⟩
    exact .cons hh hl hb hrest

namespace Spells

theorem length (hs : Spells ds bs) : ds.length = 2 * bs.length := by
  induction hs with
  | nil => rfl
  | cons _ _ _ _ ih =>
    simp only [List.length_cons, ih]
    omega

theorem isDigit (hs : Spells ds bs) : ∀ d ∈ ds, ∃ n, IsDigit d n := by
  induction hs with
  | nil => simp
  | cons hhigh hlow _ _ ih =>
    exact List.forall_mem_cons.mpr ⟨⟨_, hhigh⟩, List.forall_mem_cons.mpr ⟨⟨_, hlow⟩, ih⟩⟩

end Spells

theorem exists_spells (hdigits : ∀ d ∈ ds, ∃ n, IsDigit d n) {count : Nat}
    (hlength : ds.length = 2 * count) : ∃ bs, bs.length = count ∧ Spells ds bs := by
  induction count generalizing ds with
  | zero => exact ⟨[], rfl, spells_nil_iff.mpr (List.length_eq_zero_iff.mp hlength)⟩
  | succ count ih =>
    match ds, hlength with
    | high :: low :: rest, hlength =>
      obtain ⟨⟨h, hh⟩, ⟨l, hl⟩, hrest⟩ := by simpa only [List.forall_mem_cons] using hdigits
      obtain ⟨bs, hbs, hspells⟩ := ih hrest (by simp only [List.length_cons] at hlength; omega)
      have hhigh := hh.lt
      have hlow := hl.lt
      obtain ⟨b, -, hb⟩ := Utf8.toNat_ofNat_of_lt (show 16 * h + l < 256 by omega)
      exact ⟨b :: bs, congrArg (· + 1) hbs, .cons hh hl hb hspells⟩

theorem isDigit_digit (hn : n < 16) : IsDigit (digit n) n := by
  have hall : ∀ n < 16, lowerDigits[n]? = some (digit n) := by decide
  exact .inl (hall n hn)

theorem spells_flatMap_byte (bs : Bytes) : Spells (bs.flatMap byte) bs := by
  induction bs with
  | nil => exact .nil
  | cons b bs ih =>
    have hb : b.toNat < 256 := b.toNat_lt
    exact .cons (isDigit_digit (by omega)) (isDigit_digit (by omega)) (by omega) ih

def isDigitByte (b : UInt8) : Bool :=
  0x30 ≤ b && b ≤ 0x39 || 0x41 ≤ b && b ≤ 0x46 || 0x61 ≤ b && b ≤ 0x66

def character (b : UInt8) : Char := Char.ofNat b.toNat

def push (n : Nat) (b : UInt8) : Option Nat := do
  let d ← value? (character b)
  if 16 * n + d < 256 then some (16 * n + d) else none

def readByte? (bs : Bytes) : Option UInt8 :=
  match bs with
  | [] => none
  | [0x2B] => none
  | 0x2B :: ds => (ds.foldlM push 0).map UInt8.ofNat
  | ds => (ds.foldlM push 0).map UInt8.ofNat

theorem isDigitByte_iff : isDigitByte b = true ↔ ∃ n, IsDigit (character b) n := by
  have hb : b.toNat < 256 := b.toNat_lt
  have hvalue : (∃ n, IsDigit (character b) n) ↔ (value? (character b)).isSome = true := by
    simp only [Option.isSome_iff_exists, value?_eq_some_iff]
  rw [hvalue, value?, character, Utf8.toNat_ofNat_of_valid (by omega)]
  simp only [isDigitByte, Bool.or_eq_true, Bool.and_eq_true, decide_eq_true_eq,
    UInt8.le_iff_toNat_le, UInt8.reduceToNat]
  grind

theorem ascii_of_isDigitByte (h : isDigitByte b = true) : b.toNat < 0x80 := by
  simp only [isDigitByte, Bool.or_eq_true, Bool.and_eq_true, decide_eq_true_eq,
    UInt8.le_iff_toNat_le, UInt8.reduceToNat] at h
  omega

theorem ascii_of_isDigit (h : IsDigit c n) : c.toNat < 0x80 := by
  rw [← value?_eq_some_iff] at h
  simp only [value?, Bool.and_eq_true, decide_eq_true_eq] at h
  grind

theorem character_ofNat (hc : c.toNat < 0x80) : character (UInt8.ofNat c.toNat) = c := by
  rw [character, UInt8.toNat_ofNat', Nat.mod_eq_of_lt (by omega), Char.ofNat_toNat]

/-- Two digits have no sign and stay below the bound. -/
theorem readByte?_pair {high low : UInt8} (hhigh : isDigitByte high = true) (hlow : isDigitByte low = true) :
    readByte? [high, low] = pair? (character high) (character low) := by
  have hplus : high ≠ 0x2B := by
    rintro rfl
    cases hhigh
  obtain ⟨h, hh⟩ := isDigitByte_iff.mp hhigh
  obtain ⟨l, hl⟩ := isDigitByte_iff.mp hlow
  have hboundh := hh.lt
  have hboundl := hl.lt
  rw [← value?_eq_some_iff] at hh hl
  have hfirst : push 0 high = some h := by
    rw [push, hh]
    simp (disch := omega) only [bind, Option.bind_some, Nat.mul_zero, Nat.zero_add, if_pos]
  have hsecond : push h low = some (16 * h + l) := by
    rw [push, hl]
    simp (disch := omega) only [bind, Option.bind_some, if_pos]
  simp [readByte?, pair?, hplus, hfirst, hsecond, hh, hl]

theorem ascii_of_digits (h : bs.all isDigitByte = true) : ∀ b ∈ bs, b.toNat < 0x80 := fun b hb =>
  ascii_of_isDigitByte (List.all_eq_true.mp h b hb)

theorem decode_of_digits (h : bs.all isDigitByte = true) : Utf8.decode bs = bs.map character :=
  Utf8.decode_ascii (ascii_of_digits h)

theorem all_isDigitByte_iff :
    (ds.flatMap String.utf8EncodeChar).all isDigitByte = true ↔ ∀ d ∈ ds, ∃ n, IsDigit d n := by
  constructor
  · intro hall
    have hchars := decode_of_digits hall
    rw [Utf8.decode_flatMap] at hchars
    rw [hchars, List.forall_mem_map]
    exact fun b hb => isDigitByte_iff.mp (List.all_eq_true.mp hall b hb)
  · intro hdigits
    rw [List.all_eq_true]
    intro b hb
    obtain ⟨d, hd, hbd⟩ := List.mem_flatMap.mp hb
    obtain ⟨n, hn⟩ := hdigits d hd
    have hascii := ascii_of_isDigit hn
    rw [Utf8.utf8EncodeChar_ascii hascii, List.mem_singleton] at hbd
    rw [hbd, isDigitByte_iff, character_ofNat hascii]
    exact ⟨n, hn⟩

end TraceView.Hex
