import TraceView.Proofs.Text.Utf8
import TraceView.Proofs.Text.Words
import TraceView.Text.Blank

/-!
ASCII in bytes of any kind. A stand-in for an ill-formed stretch never takes an ASCII byte with it and
never looks like one, so the ASCII bytes of a text are the ASCII characters of what it reads as, in place.
In particular its words are the same as bytes and as characters.
-/

namespace TraceView

namespace Utf8

variable {b x : UInt8} {c : Char} {as bs : Bytes} {cs : List Char}

theorem of_stray (hlow : 0x80 ≤ b.toNat) (hhigh : b.toNat < 0xC2 ∨ 0xF4 < b.toNat) :
    Lead.of b = .stray := by
  have h80 : ¬ b.toNat < 0x80 := by omega
  rcases hhigh with hhigh | hhigh
  · simp [Lead.of, UInt8.lt_iff_toNat_lt, h80, hhigh]
  · have hC2 : ¬ b.toNat < 0xC2 := by omega
    have hE0 : ¬ b.toNat < 0xE0 := by omega
    have hE0' : ¬ b.toNat = 0xE0 := by omega
    have hED : ¬ b.toNat = 0xED := by omega
    have hF0 : ¬ b.toNat < 0xF0 := by omega
    have hF0' : ¬ b.toNat = 0xF0 := by omega
    have hF4 : ¬ b.toNat < 0xF4 := by omega
    have hF4' : ¬ b.toNat = 0xF4 := by omega
    simp [Lead.of, UInt8.lt_iff_toNat_lt, ← UInt8.toNat_inj, h80, hC2, hE0, hE0', hED, hF0, hF0', hF4,
      hF4']

inductive Promise (b : UInt8) : Lead → Prop
  | ascii : b.toNat < 0x80 → Promise b .ascii
  | two : 0xC2 ≤ b.toNat → b.toNat < 0xE0 → Promise b .two
  | three {low high : UInt8} : 0xE0 ≤ b.toNat → b.toNat < 0xF0 → 0x80 ≤ low.toNat →
      (b.toNat = 0xE0 → 0xA0 ≤ low.toNat) → high.toNat ≤ 0xBF →
      (b.toNat = 0xED → high.toNat ≤ 0x9F) → Promise b (.three low high)
  | four {low high : UInt8} : 0xF0 ≤ b.toNat → b.toNat ≤ 0xF4 → 0x80 ≤ low.toNat →
      (b.toNat = 0xF0 → 0x90 ≤ low.toNat) → high.toNat ≤ 0xBF →
      (b.toNat = 0xF4 → high.toNat ≤ 0x8F) → Promise b (.four low high)
  | stray : 0x80 ≤ b.toNat → Promise b .stray

theorem promise (b : UInt8) : Promise b (Lead.of b) := by
  have hsize : b.toNat < 256 := b.toNat_lt
  by_cases h80 : b.toNat < 0x80
  · rw [of_ascii h80]
    exact .ascii h80
  by_cases hstray : b.toNat < 0xC2 ∨ 0xF4 < b.toNat
  · rw [of_stray (by omega) hstray]
    exact .stray (by omega)
  by_cases hE0 : b.toNat < 0xE0
  · rw [of_two (by omega) hE0]
    exact .two (by omega) hE0
  by_cases hF0 : b.toNat < 0xF0
  · rw [of_three (by omega) hF0]
    refine .three (by omega) hF0 ?_ ?_ ?_ ?_ <;> split <;> simp_all
  · rw [of_four (by omega) (by omega)]
    refine .four (by omega) (by omega) ?_ ?_ ?_ ?_ <;> split <;> simp_all

theorem isTail_ascii (hx : x.toNat < 0x80) : isTail x = false := by
  rw [Bool.eq_false_iff, Ne, isTail_iff]
  omega

theorem within_ascii {low high : UInt8} (hlow : 0x80 ≤ low.toNat) (hx : x.toNat < 0x80) :
    within x low high = false := by
  rw [Bool.eq_false_iff, Ne, within_iff]
  omega

/-- An ASCII byte belongs to nothing that starts before it. -/
theorem scalar_append (b : UInt8) (as : Bytes) (hx : x.toNat < 0x80) (bs : Bytes) :
    scalar b (as ++ x :: bs) = scalar b as := by
  have hpromise := promise b
  rw [scalar.eq_def, scalar.eq_def]
  generalize Lead.of b = lead at hpromise
  -- A promise still open at `x` is broken there, as it is at the end of `as`.
  cases hpromise with
  | ascii => rfl
  | stray => rfl
  | two =>
    cases as with
    | nil => simp [isTail_ascii hx]
    | cons => rfl
  | three _ _ hlow =>
    rcases as with _ | ⟨c, _ | ⟨d, as⟩⟩
    · simp [within_ascii hlow hx]
    · simp [isTail_ascii hx]
    · rfl
  | four _ _ hlow =>
    rcases as with _ | ⟨c, _ | ⟨d, _ | ⟨e, as⟩⟩⟩
    · simp [within_ascii hlow hx]
    · simp [isTail_ascii hx]
    · simp [isTail_ascii hx]
    · rfl

theorem scalar_le (b : UInt8) (bs : Bytes) : (scalar b bs).2 ≤ bs.length := by
  fun_cases scalar b bs <;> simp

theorem toNat_ofNat_of_valid {n : Nat} (hvalid : n < 0xD800 ∨ 0xDFFF < n ∧ n < 0x110000) :
    (Char.ofNat n).toNat = n := by
  rw [Char.ofNat, dif_pos hvalid]
  rfl

theorem scalar_high (hb : 0x80 ≤ b.toNat) (bs : Bytes) : 0x80 ≤ (scalar b bs).1.toNat := by
  have hpromise := promise b
  have hstandIn : 0x80 ≤ standIn.toNat := by decide
  -- A promise that is kept gives a value by the ranges of its bytes, all else the stand-in.
  fun_cases scalar b bs
  case case1 hlead =>
    rw [hlead] at hpromise
    cases hpromise
    omega
  case case2 c _ hlead hc =>
    rw [hlead] at hpromise
    rw [isTail_iff] at hc
    cases hpromise
    simp only [tailBits]
    rw [toNat_ofNat_of_valid (by omega)]
    omega
  case case4 low high c hlead hc d _ hd =>
    rw [hlead] at hpromise
    rw [within_iff] at hc
    rw [isTail_iff] at hd
    cases hpromise
    simp only [tailBits]
    rw [toNat_ofNat_of_valid (by omega)]
    omega
  case case8 low high c hlead hc d hd e _ he =>
    rw [hlead] at hpromise
    rw [within_iff] at hc
    rw [isTail_iff] at hd he
    cases hpromise
    simp only [tailBits]
    rw [toNat_ofNat_of_valid (by omega)]
    omega
  all_goals exact hstandIn

theorem decodeAfter_append {k : Nat} (hk : k ≤ as.length) (hx : x.toNat < 0x80) (bs : Bytes) :
    decodeAfter k (as ++ x :: bs) = decodeAfter k as ++ Char.ofNat x.toNat :: decode bs := by
  -- `k` bytes are still to be passed over; what a scalar value takes lies within `as`.
  induction as generalizing k with
  | nil =>
    cases Nat.le_zero.mp hk
    change decode (x :: bs) = _
    rw [decode_cons, scalar_ascii hx]
    rfl
  | cons b as ih =>
    cases k with
    | zero =>
      rw [List.cons_append, decodeAfter, decodeAfter, scalar_append b as hx, ih (scalar_le b as)]
      rfl
    | succ k => exact ih (Nat.le_of_succ_le_succ hk)

theorem decode_append (as : Bytes) (hx : x.toNat < 0x80) (bs : Bytes) :
    decode (as ++ x :: bs) = decode as ++ Char.ofNat x.toNat :: decode bs :=
  decodeAfter_append (Nat.zero_le _) hx bs

theorem mem_decodeAfter {k : Nat} (h : c ∈ decodeAfter k bs) (hc : c.toNat < 0x80) :
    ∃ b ∈ bs, Char.ofNat b.toNat = c := by
  induction bs generalizing k with
  | nil => cases k <;> cases h
  | cons b bs ih =>
    cases k with
    | zero =>
      rw [decodeAfter, List.mem_cons] at h
      rcases h with rfl | h
      · by_cases hb : b.toNat < 0x80
        · rw [scalar_ascii hb]
          exact ⟨b, .head _, rfl⟩
        · exact absurd hc (Nat.not_lt.mpr (scalar_high (Nat.not_lt.mp hb) bs))
      · obtain ⟨b', hb', rfl⟩ := ih h
        exact ⟨b', .tail _ hb', rfl⟩
    | succ k =>
      obtain ⟨b', hb', rfl⟩ := ih h
      exact ⟨b', .tail _ hb', rfl⟩

theorem mem_decode (h : c ∈ decode bs) (hc : c.toNat < 0x80) : ∃ b ∈ bs, Char.ofNat b.toNat = c :=
  mem_decodeAfter h hc

theorem decode_eq_nil_iff : decode bs = [] ↔ bs = [] := by
  cases bs with
  | nil => simp
  | cons b bs => simp [decode_cons]

theorem ofNat_toNat_eq_iff (hc : c.toNat < 0x80) :
    Char.ofNat b.toNat = c ↔ b = UInt8.ofNat c.toNat := by
  have hb : b.toNat < 256 := b.toNat_lt
  constructor
  · rintro rfl
    rw [toNat_ofNat_of_valid (by omega), UInt8.ofNat_toNat]
  · rintro rfl
    rw [UInt8.toNat_ofNat', Nat.mod_eq_of_lt (by omega), Char.ofNat_toNat]

theorem decode_eq_ascii_cons_iff (hc : c.toNat < 0x80) :
    decode bs = c :: cs ↔ ∃ rest, bs = UInt8.ofNat c.toNat :: rest ∧ decode rest = cs := by
  cases bs with
  | nil => simp
  | cons b bs =>
    by_cases hb : b.toNat < 0x80
    · simp [decode_cons, scalar_ascii hb, ofNat_toNat_eq_iff hc]
    · have hhigh := scalar_high (Nat.not_lt.mp hb) bs
      have hne : (scalar b bs).1 ≠ c := by
        rintro rfl
        omega
      have hne' : b ≠ UInt8.ofNat c.toNat := by
        rintro rfl
        rw [UInt8.toNat_ofNat'] at hb
        omega
      simp [decode_cons, hne, hne']

theorem utf8EncodeChar_ascii (hc : c.toNat < 0x80) :
    String.utf8EncodeChar c = [UInt8.ofNat c.toNat] := by
  have hval : c.val.toNat ≤ 0x7f := Nat.le_of_lt_succ hc
  simp only [String.utf8EncodeChar, hval, if_true]
  rfl

theorem decode_ascii (hascii : ∀ b ∈ bs, b.toNat < 0x80) :
    decode bs = bs.map fun b => Char.ofNat b.toNat := by
  induction bs with
  | nil => rfl
  | cons b bs ih =>
    obtain ⟨hb, hbs⟩ := List.forall_mem_cons.mp hascii
    rw [decode_cons, scalar_ascii hb, List.drop_zero, ih hbs, List.map_cons]

theorem prefix_decode_iff (hascii : ∀ c ∈ cs, c.toNat < 0x80) :
    cs <+: decode bs ↔ cs.flatMap String.utf8EncodeChar <+: bs := by
  induction cs generalizing bs with
  | nil => simp
  | cons c cs ih =>
    obtain ⟨hc, hcs⟩ := List.forall_mem_cons.mp hascii
    rw [List.flatMap_cons, utf8EncodeChar_ascii hc, List.singleton_append, List.cons_prefix_iff,
      List.cons_prefix_iff]
    constructor
    · rintro ⟨rest, hdecode, hrest⟩
      obtain ⟨bs, rfl, rfl⟩ := (decode_eq_ascii_cons_iff hc).mp hdecode
      exact ⟨bs, rfl, (ih hcs).mp hrest⟩
    · rintro ⟨bs, rfl, hrest⟩
      exact ⟨decode bs, (decode_eq_ascii_cons_iff hc).mpr ⟨bs, rfl, rfl⟩, (ih hcs).mpr hrest⟩

end Utf8

namespace Text

variable {bs : Bytes}

def isBlankByte (b : UInt8) : Bool :=
  b == 0x20 || b == 0x09 || b == 0x0A || b == 0x0C || b == 0x0D

theorem isAsciiBlank_ofNat (b : UInt8) : isAsciiBlank (Char.ofNat b.toNat) = isBlankByte b := by
  rw [Bool.eq_iff_iff]
  simp (disch := decide) only [isAsciiBlank, isBlankByte, Bool.or_eq_true, beq_iff_eq,
    Utf8.ofNat_toNat_eq_iff]
  exact Iff.rfl

theorem ascii_of_isAsciiBlank {c : Char} (h : isAsciiBlank c = true) : c.toNat < 0x80 := by
  simp only [isAsciiBlank, Bool.or_eq_true, beq_iff_eq] at h
  rcases h with (((rfl | rfl) | rfl) | rfl) | rfl <;> decide

theorem ascii_of_isBlankByte {b : UInt8} (h : isBlankByte b = true) : b.toNat < 0x80 := by
  simp only [isBlankByte, Bool.or_eq_true, beq_iff_eq] at h
  rcases h with (((rfl | rfl) | rfl) | rfl) | rfl <;> decide

theorem words_decode_of_free (h : ∀ b ∈ bs, isBlankByte b = false) :
    words isAsciiBlank (Utf8.decode bs) = (words isBlankByte bs).map Utf8.decode := by
  by_cases hne : bs = []
  · rw [hne]
    rfl
  · have hchars : ∀ c ∈ Utf8.decode bs, isAsciiBlank c = false := by
      intro c hc
      by_contra hblank
      rw [Bool.not_eq_false] at hblank
      obtain ⟨b, hb, rfl⟩ := Utf8.mem_decode hc (ascii_of_isAsciiBlank hblank)
      rw [isAsciiBlank_ofNat, h b hb] at hblank
      cases hblank
    rw [words_free h hne, words_free hchars (mt Utf8.decode_eq_nil_iff.mp hne)]
    rfl

theorem words_decode (bs : Bytes) :
    words isAsciiBlank (Utf8.decode bs) = (words isBlankByte bs).map Utf8.decode := by
  induction delimited isBlankByte bs with
  | free hfree => exact words_decode_of_free hfree
  | @delim as b bs hfree hb _ ih =>
    have hblank : isAsciiBlank (Char.ofNat b.toNat) = true := by rw [isAsciiBlank_ofNat, hb]
    rw [Utf8.decode_append as (ascii_of_isBlankByte hb), words_append _ hblank, words_append _ hb,
      List.map_append, words_decode_of_free hfree, ih]

end Text

end TraceView
