import TraceView.Text.Utf8

namespace TraceView.Utf8

theorem of_ascii {b : UInt8} (h : b.toNat < 0x80) : Lead.of b = .ascii := by
  simp [Lead.of, UInt8.lt_iff_toNat_lt, h]

theorem of_two {b : UInt8} (hlow : 0xC2 ≤ b.toNat) (hhigh : b.toNat < 0xE0) :
    Lead.of b = .two := by
  have h80 : ¬ b.toNat < 0x80 := by omega
  have hC2 : ¬ b.toNat < 0xC2 := by omega
  simp [Lead.of, UInt8.lt_iff_toNat_lt, h80, hC2, hhigh]

/-- The range of the second byte is cut where the first one alone would allow a form too long or a
surrogate. -/
theorem of_three {b : UInt8} (hlow : 0xE0 ≤ b.toNat) (hhigh : b.toNat < 0xF0) :
    Lead.of b = .three (if b.toNat = 0xE0 then 0xA0 else 0x80)
      (if b.toNat = 0xED then 0x9F else 0xBF) := by
  have h80 : ¬ b.toNat < 0x80 := by omega
  have hC2 : ¬ b.toNat < 0xC2 := by omega
  have hE0 : ¬ b.toNat < 0xE0 := by omega
  simp only [Lead.of, UInt8.lt_iff_toNat_lt, ← UInt8.toNat_inj, UInt8.reduceToNat, h80, hC2, hE0,
    hhigh, if_false, if_true]
  split
  · simp_all
  · simp_all
    split <;> rfl

theorem of_four {b : UInt8} (hlow : 0xF0 ≤ b.toNat) (hhigh : b.toNat ≤ 0xF4) :
    Lead.of b = .four (if b.toNat = 0xF0 then 0x90 else 0x80)
      (if b.toNat = 0xF4 then 0x8F else 0xBF) := by
  have h80 : ¬ b.toNat < 0x80 := by omega
  have hC2 : ¬ b.toNat < 0xC2 := by omega
  have hE0 : ¬ b.toNat < 0xE0 := by omega
  have hE0' : ¬ b.toNat = 0xE0 := by omega
  have hED : ¬ b.toNat = 0xED := by omega
  have hF0 : ¬ b.toNat < 0xF0 := by omega
  simp only [Lead.of, UInt8.lt_iff_toNat_lt, ← UInt8.toNat_inj, UInt8.reduceToNat, h80, hC2, hE0,
    hE0', hED, hF0, if_false]
  by_cases hfirst : b.toNat = 0xF0
  · simp [hfirst]
  · by_cases hlast : b.toNat = 0xF4
    · simp [hlast]
    · have : b.toNat < 0xF4 := by omega
      simp [hfirst, hlast, this]

theorem isTail_iff {b : UInt8} : isTail b = true ↔ 0x80 ≤ b.toNat ∧ b.toNat ≤ 0xBF := by
  simp [isTail, UInt8.le_iff_toNat_le]

theorem within_iff {b low high : UInt8} :
    within b low high = true ↔ low.toNat ≤ b.toNat ∧ b.toNat ≤ high.toNat := by
  simp [within, UInt8.le_iff_toNat_le]

theorem scalar_ascii {b : UInt8} (h : b.toNat < 0x80) (bs : Bytes) :
    scalar b bs = (Char.ofNat b.toNat, 0) := by
  rw [scalar.eq_def, of_ascii h]

theorem scalar_two {b c : UInt8} (hlow : 0xC2 ≤ b.toNat) (hhigh : b.toNat < 0xE0)
    (hc : isTail c = true) (bs : Bytes) :
    scalar b (c :: bs) = (Char.ofNat (b.toNat % 32 * 64 + tailBits c), 1) := by
  rw [scalar.eq_def, of_two hlow hhigh]
  simp [hc]

theorem scalar_three {b c d : UInt8} (hlow : 0xE0 ≤ b.toNat) (hhigh : b.toNat < 0xF0)
    (hc : isTail c = true) (hfirst : b.toNat = 0xE0 → 0xA0 ≤ c.toNat)
    (hsurrogate : b.toNat = 0xED → c.toNat ≤ 0x9F) (hd : isTail d = true) (bs : Bytes) :
    scalar b (c :: d :: bs) =
      (Char.ofNat (b.toNat % 16 * 4096 + tailBits c * 64 + tailBits d), 2) := by
  rw [isTail_iff] at hc
  have hin : within c (if b.toNat = 0xE0 then 0xA0 else 0x80)
      (if b.toNat = 0xED then 0x9F else 0xBF) = true := by
    rw [within_iff]
    split <;> split <;> simp <;> omega
  rw [scalar.eq_def, of_three hlow hhigh]
  simp [hin, hd]

theorem scalar_four {b c d e : UInt8} (hlow : 0xF0 ≤ b.toNat) (hhigh : b.toNat ≤ 0xF4)
    (hc : isTail c = true) (hfirst : b.toNat = 0xF0 → 0x90 ≤ c.toNat)
    (hlast : b.toNat = 0xF4 → c.toNat ≤ 0x8F) (hd : isTail d = true) (he : isTail e = true)
    (bs : Bytes) :
    scalar b (c :: d :: e :: bs) =
      (Char.ofNat (b.toNat % 8 * 262144 + tailBits c * 4096 + tailBits d * 64 + tailBits e), 3) := by
  rw [isTail_iff] at hc
  have hin : within c (if b.toNat = 0xF0 then 0x90 else 0x80)
      (if b.toNat = 0xF4 then 0x8F else 0xBF) = true := by
    rw [within_iff]
    split <;> split <;> simp <;> omega
  rw [scalar.eq_def, of_four hlow hhigh]
  simp [hin, hd, he]

theorem tail_ofNat (n : Nat) : ∃ b : UInt8, UInt8.ofNat (n % 64 + 0x80) = b ∧
    b.toNat = n % 64 + 0x80 ∧ isTail b = true ∧ tailBits b = n % 64 := by
  have hb : (UInt8.ofNat (n % 64 + 0x80)).toNat = n % 64 + 0x80 := by
    rw [UInt8.toNat_ofNat']
    omega
  refine ⟨_, rfl, hb, ?_, ?_⟩
  · rw [isTail_iff, hb]
    omega
  · rw [tailBits, hb]
    omega

theorem toNat_ofNat_of_lt {n : Nat} (h : n < 256) : ∃ b : UInt8, UInt8.ofNat n = b ∧ b.toNat = n := by
  refine ⟨_, rfl, ?_⟩
  rw [UInt8.toNat_ofNat']
  exact Nat.mod_eq_of_lt h

theorem decode_char (c : Char) (bs : Bytes) :
    decode (String.utf8EncodeChar c ++ bs) = c :: decode bs := by
  have hvalid : c.toNat < 0xD800 ∨ 0xDFFF < c.toNat ∧ c.toNat < 0x110000 := c.valid
  simp only [String.utf8EncodeChar, show c.val.toNat = c.toNat from rfl]
  split
  case isTrue hone =>
    obtain ⟨b, hbyte, hb⟩ := toNat_ofNat_of_lt (show c.toNat < 256 by omega)
    rw [hbyte, List.singleton_append, decode_cons, scalar_ascii (by omega), hb, Char.ofNat_toNat]
    rfl
  split
  case isTrue hone htwo =>
    obtain ⟨b, hbyte, hb⟩ := toNat_ofNat_of_lt (show c.toNat / 64 % 32 + 0xC0 < 256 by omega)
    obtain ⟨d, hd, -, htail, hbits⟩ := tail_ofNat c.toNat
    have hsum : b.toNat % 32 * 64 + tailBits d = c.toNat := by omega
    simp only [hbyte, hd, List.cons_append, List.nil_append]
    rw [decode_cons, scalar_two (by omega) (by omega) htail, hsum, Char.ofNat_toNat]
    rfl
  split
  case isTrue hone htwo hthree =>
    obtain ⟨b, hbyte, hb⟩ := toNat_ofNat_of_lt (show c.toNat / 4096 % 16 + 0xE0 < 256 by omega)
    obtain ⟨d, hd, hd', htail, hbits⟩ := tail_ofNat (c.toNat / 64)
    obtain ⟨e, he, -, htail', hbits'⟩ := tail_ofNat c.toNat
    have hsum : b.toNat % 16 * 4096 + tailBits d * 64 + tailBits e = c.toNat := by omega
    simp only [hbyte, hd, he, List.cons_append, List.nil_append]
    rw [decode_cons, scalar_three (by omega) (by omega) htail (by omega) (by omega) htail', hsum,
      Char.ofNat_toNat]
    rfl
  case isFalse hone htwo hthree =>
    obtain ⟨b, hbyte, hb⟩ := toNat_ofNat_of_lt (show c.toNat / 262144 % 8 + 0xF0 < 256 by omega)
    obtain ⟨d, hd, hd', htail, hbits⟩ := tail_ofNat (c.toNat / 4096)
    obtain ⟨e, he, -, htail', hbits'⟩ := tail_ofNat (c.toNat / 64)
    obtain ⟨f, hf, -, htail'', hbits''⟩ := tail_ofNat c.toNat
    have hsum : b.toNat % 8 * 262144 + tailBits d * 4096 + tailBits e * 64 + tailBits f =
        c.toNat := by
      omega
    simp only [hbyte, hd, he, hf, List.cons_append, List.nil_append]
    rw [decode_cons, scalar_four (by omega) (by omega) htail (by omega) (by omega) htail' htail'',
      hsum, Char.ofNat_toNat]
    rfl

theorem decode_flatMap (cs : List Char) : decode (cs.flatMap String.utf8EncodeChar) = cs := by
  induction cs with
  | nil => rfl
  | cons c cs ih => rw [List.flatMap_cons, decode_char, ih]

@[simp] theorem decode_encode (s : String) : decode (encode s) = s.toList := decode_flatMap s.toList

@[simp] theorem decodeLossy_encode (s : String) : decodeLossy (encode s) = s := by
  rw [decodeLossy_eq, decode_encode, String.ofList_toList]

@[simp] theorem decode?_encode (s : String) : decode? (encode s) = some s := by
  simp [decode?]

end TraceView.Utf8
