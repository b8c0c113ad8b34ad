import TraceView.Number.Decimal
import TraceView.Number.Natural

namespace TraceView.Natural

theorem le_ofDigitChars (cs : List Char) (n : Nat) : n ≤ Nat.ofDigitChars 10 cs n := by
  induction cs generalizing n with
  | nil => exact Nat.le_refl n
  | cons c cs ih =>
    have hrest := ih (10 * n + (c.toNat - '0'.toNat))
    rw [Nat.ofDigitChars_cons]
    omega

theorem foldlM_push {bound : Nat} {cs : List Char} (hdigits : ∀ c ∈ cs, c.isDigit = true) (n : Nat)
    (hbound : Nat.ofDigitChars 10 cs n < bound) :
    cs.foldlM (push bound) n = .ok (Nat.ofDigitChars 10 cs n) := by
  induction cs generalizing n with
  | nil => rfl
  | cons c cs ih =>
    obtain ⟨hc, hcs⟩ := List.forall_mem_cons.mp hdigits
    rw [Nat.ofDigitChars_cons, Nat.mul_comm] at hbound ⊢
    have hnext := Nat.lt_of_le_of_lt (le_ofDigitChars cs _) hbound
    have hpush : push bound n c = .ok (n * 10 + (c.toNat - '0'.toNat)) := by
      rw [push, if_pos hc, if_pos hnext]
    rw [List.foldlM_cons, hpush]
    exact ih hcs _ hbound

theorem read_of_digits {bound : Nat} {s : String} {c : Char} {cs : List Char}
    (hs : s.toList = c :: cs) (hc : c.isDigit = true) :
    read bound s = (c :: cs).foldlM (push bound) 0 := by
  have hplus : c ≠ '+' := by
    rintro rfl
    exact absurd hc (by decide)
  rw [read, hs]
  split
  case h_1 heq => cases heq
  case h_2 heq => exact (hplus (List.cons.inj heq).1).elim
  case h_3 heq => exact (hplus (List.cons.inj heq).1).elim
  case h_4 => rfl

theorem read?_digits {bound n : Nat} (h : n < bound) : read? bound (Decimal.digits n) = some n := by
  have hvalue : Nat.ofDigitChars 10 (Nat.toDigits 10 n) 0 = n := Nat.ofDigitChars_ten_toDigits
  have hdigits : ∀ c ∈ Nat.toDigits 10 n, c.isDigit = true := fun c hc =>
    Nat.isDigit_of_mem_toDigits (by decide) (by decide) hc
  have hread := foldlM_push hdigits 0 (hvalue.symm ▸ h)
  rw [hvalue] at hread
  cases hds : Nat.toDigits 10 n with
  | nil => exact (Nat.toDigits_ne_nil hds).elim
  | cons c cs =>
    rw [hds] at hdigits hread
    have hs : (Decimal.digits n).toList = c :: cs := by rw [Decimal.digits, String.toList_ofList, hds]
    rw [read?, read_of_digits hs (hdigits c (.head _)), hread]
    rfl

theorem push_eq_ok_iff {bound n m : Nat} {c : Char} :
    push bound n c = .ok m ↔
      c.isDigit = true ∧ 10 * n + (c.toNat - '0'.toNat) = m ∧ m < bound := by
  simp only [push, Nat.mul_comm 10]
  split
  case isTrue hc =>
    split
    case isTrue hlt =>
      rw [Except.ok.injEq]
      constructor
      · rintro rfl
        exact ⟨hc, rfl, hlt⟩
      · exact fun h => h.2.1
    case isFalse hge =>
      simp only [reduceCtorEq, false_iff, not_and]
      rintro - rfl
      exact hge
  case isFalse hc => simp [hc]

theorem foldlM_push_eq_ok {bound : Nat} {cs : List Char} {n m : Nat}
    (h : cs.foldlM (push bound) n = .ok m) (hbound : n < bound ∨ cs ≠ []) :
    (∀ c ∈ cs, c.isDigit = true) ∧ Nat.ofDigitChars 10 cs n = m ∧ m < bound := by
  induction cs generalizing n with
  | nil =>
    cases h
    exact ⟨by simp, rfl, hbound.resolve_right (absurd rfl)⟩
  | cons c cs ih =>
    rw [List.foldlM_cons] at h
    cases hpush : push bound n c with
    | error e =>
      rw [hpush] at h
      cases h
    | ok next =>
      rw [hpush] at h
      obtain ⟨hc, rfl, hnext⟩ := push_eq_ok_iff.mp hpush
      obtain ⟨hcs, hvalue, hm⟩ := ih h (.inl hnext)
      rw [Nat.ofDigitChars_cons]
      exact ⟨List.forall_mem_cons.mpr ⟨hc, hcs⟩, hvalue, hm⟩

def IsDecimal (s : String) (n : Nat) : Prop :=
  ∃ ds : List Char, ds ≠ [] ∧ (∀ c ∈ ds, c.isDigit = true) ∧
    (s.toList = ds ∨ s.toList = '+' :: ds) ∧ Nat.ofDigitChars 10 ds 0 = n

theorem read_of_plus {bound : Nat} {s : String} {c : Char} {cs : List Char}
    (hs : s.toList = '+' :: c :: cs) : read bound s = (c :: cs).foldlM (push bound) 0 := by
  simp only [read, hs]

theorem read_eq_ok_iff {bound n : Nat} {s : String} :
    read bound s = .ok n ↔ IsDecimal s n ∧ n < bound := by
  constructor
  · intro h
    rw [read] at h
    split at h
    case h_1 | h_2 => cases h
    case h_3 cs hne hs =>
      obtain ⟨hdigits, hvalue, hbound⟩ := foldlM_push_eq_ok h (.inr hne)
      exact ⟨⟨cs, hne, hdigits, .inr hs, hvalue⟩, hbound⟩
    case h_4 hne _ _ =>
      obtain ⟨hdigits, hvalue, hbound⟩ := foldlM_push_eq_ok h (.inr hne)
      exact ⟨⟨s.toList, hne, hdigits, .inl rfl, hvalue⟩, hbound⟩
  · rintro ⟨⟨ds, hne, hdigits, hs, rfl⟩, hbound⟩
    obtain ⟨c, cs, rfl⟩ := List.exists_cons_of_ne_nil hne
    have hread := foldlM_push hdigits 0 hbound
    rcases hs with hs | hs
    · rw [read_of_digits hs (hdigits c (.head _)), hread]
    · rw [read_of_plus hs, hread]

theorem read?_eq_some_iff {bound n : Nat} {s : String} :
    read? bound s = some n ↔ IsDecimal s n ∧ n < bound := by
  rw [← read_eq_ok_iff, read?]
  cases read bound s <;> simp [Except.toOption]

end TraceView.Natural
