import TraceView.Proofs.Ring
import TraceView.Proofs.Text.Ascii
import Mathlib.Data.Set.Subsingleton

namespace TraceView.Ring

inductive Fault where
  | outOfBounds
  | underflow
  deriving DecidableEq, Repr

def byteAt (bs : Bytes) (place : Nat) : Except Fault UInt8 :=
  match bs[place]? with
  | some b => .ok b
  | none => .error .outOfBounds

def point : UInt8 := 0x2E

def isMajorByte (b : UInt8) : Bool := b == 0x31 || b == 0x32

def isDigitByte (b : UInt8) : Bool := 0x30 ≤ b && b ≤ 0x39

def digitByte (n : Nat) : UInt8 := UInt8.ofNat (0x30 + n)

def digitValue (b : UInt8) : Except Fault Nat :=
  if b < 0x30 then .error .underflow else .ok (b.toNat - 0x30)

def readFields (bs : Bytes) : Except Fault (Option Ring) := do
  if bs.length < 5 then return none
  if (← byteAt bs 1) != point then return none
  if (← byteAt bs 3) != point then return none
  let major ← byteAt bs 0
  if !isMajorByte major then return none
  let minor ← byteAt bs 2
  if !isDigitByte minor then return none
  let patch ← byteAt bs 4
  if !isDigitByte patch then return none
  return ofFields? (← digitValue major) (← digitValue minor) (← digitValue patch)

def readBytes (bs : Bytes) : Except Fault (Option Ring) :=
  match Text.stripPrefix? (label.flatMap String.utf8EncodeChar) bs with
  | some fields => readFields fields
  | none => .ok none

theorem digitValue_of_isDigitByte {b : UInt8} (h : isDigitByte b = true) :
    digitValue b = .ok (b.toNat - 0x30) := by
  rw [isDigitByte, Bool.and_eq_true, decide_eq_true_eq] at h
  exact if_neg (UInt8.not_lt.mpr h.1)

theorem isDigitByte_of_isMajorByte {b : UInt8} (h : isMajorByte b = true) : isDigitByte b = true := by
  simp only [isMajorByte, Bool.or_eq_true, beq_iff_eq] at h
  rcases h with rfl | rfl <;> rfl

theorem eq_digitByte {b : UInt8} (h : isDigitByte b = true) : b = digitByte (b.toNat - 0x30) := by
  simp only [isDigitByte, Bool.and_eq_true, decide_eq_true_eq, UInt8.le_iff_toNat_le] at h
  have hlow : 0x30 ≤ b.toNat := h.1
  rw [digitByte, Nat.add_sub_cancel' hlow, UInt8.ofNat_toNat]

theorem isDigitByte_digitByte {n : Nat} (h : n ≤ 9) :
    isDigitByte (digitByte n) = true ∧ (digitByte n).toNat - 0x30 = n := by
  have hall : ∀ n ≤ 9, isDigitByte (digitByte n) = true ∧ (digitByte n).toNat - 0x30 = n := by decide
  exact hall n h

theorem isMajorByte_digitByte {n : Nat} (hpos : 1 ≤ n) (hle : n ≤ 2) :
    isMajorByte (digitByte n) = true := by
  have hall : ∀ n ≤ 2, 1 ≤ n → isMajorByte (digitByte n) = true := by decide
  exact hall n hle hpos

def areFields (major a minor b patch : UInt8) : Bool :=
  a == point && b == point && isMajorByte major && isDigitByte minor && isDigitByte patch

theorem readFields_cons (major a minor b patch : UInt8) (rest : Bytes) :
    readFields (major :: a :: minor :: b :: patch :: rest) = .ok (
      if areFields major a minor b patch then
        ofFields? (major.toNat - 0x30) (minor.toNat - 0x30) (patch.toNat - 0x30)
      else none) := by
  have hlength : ¬ (major :: a :: minor :: b :: patch :: rest).length < 5 := by simp
  simp only [readFields, if_neg hlength, byteAt, List.getElem?_cons_zero, List.getElem?_cons_succ,
    bind, Except.bind, pure, Except.pure, areFields]
  -- Each test that fails ends the reading. Behind the last one all three bytes are digits.
  split
  case isTrue ha => simp_all
  split
  case isTrue hb => simp_all
  split
  case isTrue hmajor => simp_all
  split
  case isTrue hminor => simp_all
  split
  case isTrue hpatch => simp_all
  case isFalse ha hb hmajor hminor hpatch =>
    simp only [bne_iff_ne, ne_eq, Decidable.not_not, Bool.not_eq_true', Bool.not_eq_false] at *
    rw [digitValue_of_isDigitByte (isDigitByte_of_isMajorByte hmajor),
      digitValue_of_isDigitByte hminor, digitValue_of_isDigitByte hpatch]
    simp [ha, hb, hmajor, hminor, hpatch]

theorem readFields_eq (bs : Bytes) : readFields bs = .ok (match bs with
    | major :: a :: minor :: b :: patch :: _ => if areFields major a minor b patch then
        ofFields? (major.toNat - 0x30) (minor.toNat - 0x30) (patch.toNat - 0x30)
      else none
    | _ => none) := by
  split
  case h_1 => exact readFields_cons ..
  case h_2 hfew =>
    have hshort : bs.length < 5 := Nat.not_le.mp fun hlong => by
      match bs, hlong with
      | major :: a :: minor :: b :: patch :: rest, _ => exact hfew _ _ _ _ _ _ rfl
    rw [readFields, if_pos hshort]
    rfl

variable {v : Ring} {bs : Bytes}

def fieldBytes (v : Ring) : Bytes :=
  [digitByte v.major, point, digitByte v.minor, point, digitByte v.patch]

theorem readFields_eq_some_iff : readFields bs = .ok (some v) ↔ v.fieldBytes <+: bs := by
  rw [readFields_eq, Except.ok.injEq]
  constructor
  · intro h
    split at h
    case h_2 => cases h
    case h_1 major a minor b patch rest =>
      split at h
      case isFalse => cases h
      case isTrue hfields =>
        simp only [areFields, Bool.and_eq_true, beq_iff_eq] at hfields
        obtain ⟨⟨⟨⟨rfl, rfl⟩, hmajor⟩, hminor⟩, hpatch⟩ := hfields
        obtain ⟨hv, hv', hv''⟩ := ofFields?_eq_some_iff.mp h
        refine ⟨rest, ?_⟩
        rw [fieldBytes, hv, hv', hv'', ← eq_digitByte (isDigitByte_of_isMajorByte hmajor),
          ← eq_digitByte hminor, ← eq_digitByte hpatch]
        rfl
  · rintro ⟨rest, rfl⟩
    have hmajor := isDigitByte_digitByte (Nat.le_trans v.major_le (by decide : 2 ≤ 9))
    have hminor := isDigitByte_digitByte (Nat.le_trans v.minor_le (by decide : 3 ≤ 9))
    have hpatch := isDigitByte_digitByte (Nat.le_trans v.patch_le (by decide : 8 ≤ 9))
    have hfields : areFields (digitByte v.major) point (digitByte v.minor) point
        (digitByte v.patch) = true := by
      simp [areFields, isMajorByte_digitByte v.major_pos v.major_le, hminor.1, hpatch.1]
    simp only [fieldBytes, List.cons_append, List.nil_append, hfields, if_true]
    exact ofFields?_eq_some_iff.mpr ⟨hmajor.2.symm, hminor.2.symm, hpatch.2.symm⟩

theorem utf8EncodeChar_digit {n : Nat} (h : n ≤ 9) :
    String.utf8EncodeChar (digit n) = [digitByte n] := by
  have hall : ∀ n ≤ 9, String.utf8EncodeChar (digit n) = [digitByte n] := by decide
  exact hall n h

theorem encode_chars (v : Ring) : v.chars.flatMap String.utf8EncodeChar =
    label.flatMap String.utf8EncodeChar ++ v.fieldBytes := by
  have hmajor : v.major ≤ 9 := Nat.le_trans v.major_le (by decide)
  have hminor : v.minor ≤ 9 := Nat.le_trans v.minor_le (by decide)
  have hpatch : v.patch ≤ 9 := Nat.le_trans v.patch_le (by decide)
  simp only [chars, List.flatMap_append, List.flatMap_cons, utf8EncodeChar_digit hmajor,
    utf8EncodeChar_digit hminor, utf8EncodeChar_digit hpatch]
  rfl

theorem readBytes_eq_some_iff :
    readBytes bs = .ok (some v) ↔ v.chars.flatMap String.utf8EncodeChar <+: bs := by
  rw [readBytes, encode_chars]
  cases hstrip : Text.stripPrefix? (label.flatMap String.utf8EncodeChar) bs with
  | some fields =>
    rw [Text.stripPrefix?_eq_some_iff.mp hstrip, List.prefix_append_right_inj]
    exact readFields_eq_some_iff
  | none =>
    simp only [Except.ok.injEq, reduceCtorEq, false_iff]
    rintro ⟨rest, rfl⟩
    rw [List.append_assoc, Text.stripPrefix?_eq_some_iff.mpr rfl] at hstrip
    cases hstrip

theorem exists_readBytes_eq (bs : Bytes) : ∃ found, readBytes bs = .ok found := by
  rw [readBytes]
  split
  case h_1 fields _ => exact ⟨_, readFields_eq fields⟩
  case h_2 => exact ⟨none, rfl⟩

theorem readBytes_encode (s : String) : readBytes (Utf8.encode s) = .ok (parse? s) := by
  obtain ⟨found, hfound⟩ := exists_readBytes_eq (Utf8.encode s)
  rw [hfound, Except.ok.injEq]
  ext v
  calc found = some v
    _ ↔ readBytes (Utf8.encode s) = .ok (some v) := by rw [hfound, Except.ok.injEq]
    _ ↔ v.chars.flatMap String.utf8EncodeChar <+: Utf8.encode s := readBytes_eq_some_iff
    _ ↔ v.chars <+: s.toList := by rw [← Utf8.prefix_decode_iff v.ascii_chars, Utf8.decode_encode]
    _ ↔ parse? s = some v := parse_eq_some_iff.symm

theorem toDigits_eq {n : Nat} (h : n ≤ 9) : Nat.toDigits 10 n = [digit n] := by
  have hall : ∀ n ≤ 9, Nat.toDigits 10 n = [digit n] := by decide
  exact hall n h

theorem name_eq (v : Ring) : v.name = s!"comp_{v.major}.{v.minor}.{v.patch}" := by
  have hmajor : v.major ≤ 9 := Nat.le_trans v.major_le (by decide)
  have hminor : v.minor ≤ 9 := Nat.le_trans v.minor_le (by decide)
  have hpatch : v.patch ≤ 9 := Nat.le_trans v.patch_le (by decide)
  apply String.toList_inj.mp
  simp [name, chars, label, toDigits_eq hmajor, toDigits_eq hminor, toDigits_eq hpatch]
  rfl

theorem parse?_eq_some_iff {s : String} : parse? s = some v ↔ v.name.toList <+: s.toList := by
  rw [parse?, parse_eq_some_iff, name, String.toList_ofList]

theorem exists_ring_iff (major minor patch : Nat) :
    (∃ v : Ring, v.major = major ∧ v.minor = minor ∧ v.patch = patch) ↔
      (1 ≤ major ∧ major ≤ 2) ∧ minor ≤ 3 ∧ patch ≤ 8 := by
  constructor
  · rintro ⟨v, rfl, rfl, rfl⟩
    exact ⟨⟨v.major_pos, v.major_le⟩, v.minor_le, v.patch_le⟩
  · rintro ⟨⟨hpos, hmajor⟩, hminor, hpatch⟩
    exact ⟨⟨major, minor, patch, hpos, hmajor, hminor, hpatch⟩, rfl, rfl, rfl⟩

theorem ofIndex?_index (v : Ring) : ofIndex? v.index = some v := by
  rw [ofIndex?, dif_pos v.index.isLt, ofIndex_index]

/-- A text is read as the one ring whose name it starts with, and as none if it starts with no name. At
fixed bytes the same is read of it, without a look beyond its end or a number below zero. Every ring has
its index in the table. -/
theorem parse_accepts_names :
    (∀ s v, parse? s = some v ↔ v.name.toList <+: s.toList) ∧
      (∀ v : Ring, v.name = s!"comp_{v.major}.{v.minor}.{v.patch}") ∧
      (∀ major minor patch, (∃ v : Ring, v.major = major ∧ v.minor = minor ∧ v.patch = patch) ↔
        (1 ≤ major ∧ major ≤ 2) ∧ minor ≤ 3 ∧ patch ≤ 8) ∧
      (∀ s : String, {v : Ring | v.name.toList <+: s.toList}.Subsingleton) ∧
      (∀ (v : Ring) (rest : String), parse? (v.name ++ rest) = some v) ∧
      (∀ s, parse? s = none ↔ ∀ v : Ring, ¬ v.name.toList <+: s.toList) ∧
      (∀ s, readBytes (Utf8.encode s) = .ok (parse? s)) ∧
      ∀ v : Ring, v.index.val = (v.major - 1) * 36 + v.minor * 9 + v.patch ∧
        v.index.val < count ∧ ofIndex? v.index = some v := by
  refine ⟨fun _ _ => parse?_eq_some_iff, name_eq, exists_ring_iff, ?_, ?_, ?_, readBytes_encode, ?_⟩
  · intro s v hv w hw
    have hread : parse? s = some v := parse?_eq_some_iff.mpr hv
    rw [parse?_eq_some_iff.mpr hw] at hread
    exact (Option.some.inj hread).symm
  · intro v rest
    rw [parse?_eq_some_iff, String.toList_append]
    exact List.prefix_append ..
  · intro s
    simp only [Option.eq_none_iff_forall_ne_some, ne_eq, parse?_eq_some_iff]
  · exact fun v => ⟨rfl, v.index.isLt, ofIndex?_index v⟩

example : parse? "comp_1é0.0" = none ∧ parse? "comp_1.0.é" = none ∧ parse? "comp_1.0" = none ∧
    (parse? "comp_2.3.8é").map index = some 71 := by decide

end TraceView.Ring
