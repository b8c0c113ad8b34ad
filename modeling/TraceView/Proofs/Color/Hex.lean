import TraceView.Color.Rgba
import TraceView.Proofs.Number.Hex
import TraceView.Text.Replace

namespace TraceView

namespace Text

inductive BadCut where
  | outOfBounds
  | insideCharacter
  deriving DecidableEq, Repr

def isBoundary (bs : Bytes) (place : Nat) : Bool :=
  place == 0 || place == bs.length || bs[place]?.any fun b => !Utf8.isTail b

def slice (bs : Bytes) (first last : Nat) : Except BadCut Bytes :=
  if first ≤ last && last ≤ bs.length then
    if isBoundary bs first && isBoundary bs last then .ok ((bs.drop first).take (last - first))
    else .error .insideCharacter
  else .error .outOfBounds

variable {bs : Bytes} {first last place : Nat}

theorem isBoundary_of_ascii (hascii : ∀ b ∈ bs, b.toNat < 0x80) (hplace : place ≤ bs.length) :
    isBoundary bs place = true := by
  rw [isBoundary]
  rcases Nat.lt_or_eq_of_le hplace with hlt | heq
  · have htail : Utf8.isTail bs[place] = false :=
      Utf8.isTail_ascii (hascii _ (List.getElem_mem hlt))
    simp [List.getElem?_eq_getElem hlt, htail]
  · simp [heq]

theorem slice_of_ascii (hascii : ∀ b ∈ bs, b.toNat < 0x80) (hfirst : first ≤ last)
    (hlast : last ≤ bs.length) : slice bs first last = .ok ((bs.drop first).take (last - first)) := by
  have hstart := isBoundary_of_ascii hascii (Nat.le_trans hfirst hlast)
  have hend := isBoundary_of_ascii hascii hlast
  simp [slice, hfirst, hlast, hstart, hend]

def unmarked {α : Type} [BEq α] (mark : α) (xs : List α) : List α :=
  (stripPrefix? [mark] xs).getD xs

variable {α : Type} [BEq α] [LawfulBEq α] {mark : α} {xs : List α}

theorem unmarked_cons (mark : α) (xs : List α) : unmarked mark (mark :: xs) = xs := by
  rw [unmarked, stripPrefix?_eq_some_iff.mpr (List.singleton_append ..).symm, Option.getD_some]

theorem unmarked_of_head_ne (h : xs.head? ≠ some mark) : unmarked mark xs = xs := by
  rw [unmarked]
  cases hstrip : stripPrefix? [mark] xs with
  | none => rfl
  | some rest =>
    rw [stripPrefix?_eq_some_iff.mp hstrip] at h
    exact absurd rfl h

theorem unmarked_cases (mark : α) (xs : List α) :
    xs = unmarked mark xs ∨ xs = mark :: unmarked mark xs := by
  by_cases h : xs.head? = some mark
  · obtain ⟨rest, rfl⟩ := List.head?_eq_some_iff.mp h
    exact .inr (congrArg (mark :: ·) (unmarked_cons mark rest).symm)
  · exact .inl (unmarked_of_head_ne h).symm

/-- The mark is one byte, and no other character starts with it. -/
theorem unmarked_encode (cs : List Char) :
    unmarked 0x23 (cs.flatMap String.utf8EncodeChar) =
      (unmarked '#' cs).flatMap String.utf8EncodeChar := by
  by_cases h : cs.head? = some '#'
  · obtain ⟨rest, rfl⟩ := List.head?_eq_some_iff.mp h
    rw [unmarked_cons, List.flatMap_cons]
    exact unmarked_cons _ _
  · rw [unmarked_of_head_ne h]
    refine unmarked_of_head_ne fun hbyte => h ?_
    obtain ⟨rest, hrest⟩ := List.head?_eq_some_iff.mp hbyte
    have hchars : cs = '#' :: Utf8.decode rest := by
      rw [← Utf8.decode_flatMap cs]
      exact (Utf8.decode_eq_ascii_cons_iff (by decide)).mpr ⟨rest, hrest, rfl⟩
    rw [hchars, List.head?_cons]

end Text

namespace Rgba

variable {c : Rgba} {s : String} {ds : List Char}

/-- Six digits are the channels of an opaque color, eight have its alpha at the end. -/
def IsSpelled (c : Rgba) (ds : List Char) : Prop :=
  Hex.Spells ds [c.r, c.g, c.b] ∧ c.a = 255 ∨ Hex.Spells ds [c.r, c.g, c.b, c.a]

def ofDigits? : List Char → Option Rgba
  | [r₁, r₀, g₁, g₀, b₁, b₀] =>
    return ⟨← Hex.pair? r₁ r₀, ← Hex.pair? g₁ g₀, ← Hex.pair? b₁ b₀, 255⟩
  | [r₁, r₀, g₁, g₀, b₁, b₀, a₁, a₀] =>
    return ⟨← Hex.pair? r₁ r₀, ← Hex.pair? g₁ g₀, ← Hex.pair? b₁ b₀, ← Hex.pair? a₁ a₀⟩
  | _ => none

theorem ofHex?_eq (s : String) : ofHex? s = ofDigits? (Text.unmarked '#' s.toList) := by
  refine (rfl : ofHex? s = ofDigits? _).trans (congrArg ofDigits? ?_)
  split
  case h_1 ds hds => rw [hds, Text.unmarked_cons]
  case h_2 hbare =>
    refine (Text.unmarked_of_head_ne fun hmark => ?_).symm
    obtain ⟨ds, hds⟩ := List.head?_eq_some_iff.mp hmark
    exact hbare ds hds

theorem IsSpelled.isDigit (h : c.IsSpelled ds) : ∀ d ∈ ds, ∃ n, Hex.IsDigit d n := by
  rcases h with ⟨h, -⟩ | h <;> exact h.isDigit

theorem IsSpelled.length (h : c.IsSpelled ds) : ds.length = 6 ∨ ds.length = 8 := by
  rcases h with ⟨h, -⟩ | h
  · exact .inl h.length
  · exact .inr h.length

theorem ofDigits?_eq_some_iff : ofDigits? ds = some c ↔ c.IsSpelled ds := by
  fun_cases ofDigits? ds
  case case1 =>
    simp [IsSpelled, Hex.spells_cons_iff, Hex.spells_nil_iff, Hex.nil_spells_iff,
      Option.bind_eq_some_iff, Rgba.ext_iff, and_assoc, eq_comm (a := c.a)]
  case case2 =>
    simp [IsSpelled, Hex.spells_cons_iff, Hex.spells_nil_iff, Option.bind_eq_some_iff, Rgba.ext_iff]
  case case3 hsix height =>
    refine iff_of_false nofun fun h => ?_
    rcases h.length with hlength | hlength
    · match ds, hlength with
      | [_, _, _, _, _, _], _ => exact hsix _ _ _ _ _ _ rfl
    · match ds, hlength with
      | [_, _, _, _, _, _, _, _], _ => exact height _ _ _ _ _ _ _ _ rfl

def byteAt (ds : Bytes) (place : Nat) : Except Text.BadCut (Option UInt8) :=
  (Text.slice ds place (place + 2)).map Hex.readByte?

def sliceChannels (ds : Bytes) (a : UInt8) : Except Text.BadCut (Option Rgba) := do
  let some r ← byteAt ds 0 | return none
  let some g ← byteAt ds 2 | return none
  let some b ← byteAt ds 4 | return none
  return some ⟨r, g, b, a⟩

/-- The color of the bytes behind a mark. They are cut once all of them are known to be digits. -/
def sliceDigits (ds : Bytes) : Except Text.BadCut (Option Rgba) := do
  if ds.length ≠ 6 && ds.length ≠ 8 || !ds.all Hex.isDigitByte then return none
  let some a ← if ds.length = 8 then byteAt ds 6 else pure (some 255) | return none
  sliceChannels ds a

def sliceHex (bs : Bytes) : Except Text.BadCut (Option Rgba) := sliceDigits (Text.unmarked 0x23 bs)

theorem byteAt_of_digits {ds : Bytes} (hdigits : ds.all Hex.isDigitByte = true) {place : Nat}
    {high low : UInt8} (hplace : (ds.drop place).take 2 = [high, low]) :
    byteAt ds place = .ok (Hex.pair? (Hex.character high) (Hex.character low)) := by
  have hmem : ∀ b ∈ [high, low], Hex.isDigitByte b = true := fun b hb =>
    List.all_eq_true.mp hdigits b (List.mem_of_mem_drop (List.mem_of_mem_take (hplace ▸ hb)))
  have hlast : place + 2 ≤ ds.length := by
    have hlength := congrArg List.length hplace
    simp only [List.length_take, List.length_drop, List.length_cons, List.length_nil] at hlength
    omega
  rw [byteAt, Text.slice_of_ascii (Hex.ascii_of_digits hdigits) (Nat.le_add_right _ _) hlast,
    Nat.add_sub_cancel_left, hplace, ← Hex.readByte?_pair (hmem high (by simp)) (hmem low (by simp))]
  rfl

theorem sliceChannels_of_digits {r₁ r₀ g₁ g₀ b₁ b₀ : UInt8} {rest : Bytes}
    (hdigits : (r₁ :: r₀ :: g₁ :: g₀ :: b₁ :: b₀ :: rest).all Hex.isDigitByte = true) (a : UInt8) :
    sliceChannels (r₁ :: r₀ :: g₁ :: g₀ :: b₁ :: b₀ :: rest) a = .ok (do
      return ⟨← Hex.pair? (Hex.character r₁) (Hex.character r₀),
        ← Hex.pair? (Hex.character g₁) (Hex.character g₀),
        ← Hex.pair? (Hex.character b₁) (Hex.character b₀), a⟩) := by
  have hr := byteAt_of_digits hdigits (rfl : List.take 2 (List.drop 0 _) = _)
  have hg := byteAt_of_digits hdigits (rfl : List.take 2 (List.drop 2 _) = _)
  have hb := byteAt_of_digits hdigits (rfl : List.take 2 (List.drop 4 _) = _)
  simp only [sliceChannels, hr, hg, hb]
  cases Hex.pair? (Hex.character r₁) (Hex.character r₀) <;>
    cases Hex.pair? (Hex.character g₁) (Hex.character g₀) <;>
    cases Hex.pair? (Hex.character b₁) (Hex.character b₀) <;> rfl

theorem sliceDigits_eq (ds : Bytes) : sliceDigits ds =
    .ok (if ds.all Hex.isDigitByte then ofDigits? (ds.map Hex.character) else none) := by
  by_cases hdigits : ds.all Hex.isDigitByte = true
  case neg =>
    simp only [sliceDigits, hdigits, Bool.not_false, Bool.or_true]
    rfl
  by_cases hlength : ds.length = 6 ∨ ds.length = 8
  case neg =>
    have hnone : ofDigits? (ds.map Hex.character) = none := by
      refine Option.eq_none_iff_forall_ne_some.mpr fun c hc => hlength ?_
      simpa only [List.length_map] using (ofDigits?_eq_some_iff.mp hc).length
    have hrefused : (ds.length ≠ 6 && ds.length ≠ 8) = true := by simp [not_or.mp hlength]
    rw [if_pos hdigits, hnone]
    simp only [sliceDigits, hrefused, Bool.true_or]
    rfl
  rw [if_pos hdigits]
  rcases hlength with hlength | hlength
  · match ds, hlength, hdigits with
    | [r₁, r₀, g₁, g₀, b₁, b₀], _, hdigits =>
      simp only [sliceDigits, hdigits]
      exact sliceChannels_of_digits hdigits 255
  · match ds, hlength, hdigits with
    | [r₁, r₀, g₁, g₀, b₁, b₀, a₁, a₀], _, hdigits =>
      have ha := byteAt_of_digits hdigits (rfl : List.take 2 (List.drop 6 _) = _)
      simp only [sliceDigits, hdigits, ha]
      cases ha? : Hex.pair? (Hex.character a₁) (Hex.character a₀) with
      | none =>
        refine (rfl : _ = Except.ok none).trans (congrArg Except.ok ?_)
        simp [ofDigits?, ha?]
      | some a =>
        refine (sliceChannels_of_digits hdigits a).trans (congrArg Except.ok ?_)
        simp [ofDigits?, ha?]

theorem sliceDigits_encode (cs : List Char) :
    sliceDigits (cs.flatMap String.utf8EncodeChar) = .ok (ofDigits? cs) := by
  rw [sliceDigits_eq]
  split
  case isTrue hdigits => rw [← Hex.decode_of_digits hdigits, Utf8.decode_flatMap]
  case isFalse hdigits =>
    have hnone : ofDigits? cs = none := Option.eq_none_iff_forall_ne_some.mpr fun c hc =>
      hdigits (Hex.all_isDigitByte_iff.mpr (ofDigits?_eq_some_iff.mp hc).isDigit)
    rw [hnone]

theorem sliceHex_encode (s : String) : sliceHex (Utf8.encode s) = .ok (ofHex? s) := by
  rw [sliceHex, Utf8.encode, Text.unmarked_encode, sliceDigits_encode, ofHex?_eq]

theorem ofHex?_eq_some_iff : ofHex? s = some c ↔
    ∃ ds, (s.toList = ds ∨ s.toList = '#' :: ds) ∧ c.IsSpelled ds := by
  rw [ofHex?_eq, ofDigits?_eq_some_iff]
  constructor
  · intro h
    exact ⟨_, Text.unmarked_cases '#' s.toList, h⟩
  · rintro ⟨ds, hs | hs, h⟩
    · have hmark : ds.head? ≠ some '#' := by
        intro hhead
        obtain ⟨n, hn⟩ := h.isDigit '#' (List.mem_of_head? hhead)
        rw [← Hex.value?_eq_some_iff] at hn
        cases hn
      rwa [hs, Text.unmarked_of_head_ne hmark]
    · rwa [hs, Text.unmarked_cons]

theorem exists_isSpelled_iff : (∃ c : Rgba, c.IsSpelled ds) ↔
    (ds.length = 6 ∨ ds.length = 8) ∧ ∀ d ∈ ds, ∃ n, Hex.IsDigit d n := by
  constructor
  · rintro ⟨c, h⟩
    exact ⟨h.length, h.isDigit⟩
  · rintro ⟨hlength | hlength, hdigits⟩
    · obtain ⟨bs, hbs, hspells⟩ := Hex.exists_spells hdigits (show ds.length = 2 * 3 from hlength)
      match bs, hbs with
      | [r, g, b], _ => exact ⟨⟨r, g, b, 255⟩, .inl ⟨hspells, rfl⟩⟩
    · obtain ⟨bs, hbs, hspells⟩ := Hex.exists_spells hdigits (show ds.length = 2 * 4 from hlength)
      match bs, hbs with
      | [r, g, b, a], _ => exact ⟨⟨r, g, b, a⟩, .inr hspells⟩

def hex (c : Rgba) : String := String.ofList ('#' :: c.bytes.flatMap Hex.byte)

theorem exists_hex_spells (c : Rgba) : ∃ ds, c.hex.toList = '#' :: ds ∧ Hex.Spells ds c.bytes :=
  ⟨_, String.toList_ofList, Hex.spells_flatMap_byte c.bytes⟩

theorem ofHex?_hex (c : Rgba) : ofHex? c.hex = some c := by
  obtain ⟨ds, hds, hspells⟩ := c.exists_hex_spells
  exact ofHex?_eq_some_iff.mpr ⟨ds, .inr hds, .inr hspells⟩

/-- A text is read as a color where it is six or eight digits behind one mark or none, and as the color that
they spell, two digits for each channel. What is written of a color is read as that color. At fixed
bytes the same is read of every text, and no cut is bad. -/
theorem ofHex?_reads_digits :
    (∀ s, (∃ c, ofHex? s = some c) ↔ ∃ ds, (s.toList = ds ∨ s.toList = '#' :: ds) ∧
      (ds.length = 6 ∨ ds.length = 8) ∧ ∀ d ∈ ds, d ∈ Hex.lowerDigits ∨ d ∈ Hex.upperDigits) ∧
    (∀ s c, ofHex? s = some c ↔ ∃ ds, (s.toList = ds ∨ s.toList = '#' :: ds) ∧
      (Hex.Spells ds [c.r, c.g, c.b] ∧ c.a = 255 ∨ Hex.Spells ds [c.r, c.g, c.b, c.a])) ∧
    (∀ c, (∃ ds, c.hex.toList = '#' :: ds ∧ Hex.Spells ds [c.r, c.g, c.b, c.a]) ∧
      ofHex? c.hex = some c) ∧
    ∀ s, sliceHex (Utf8.encode s) = .ok (ofHex? s) := by
  refine ⟨fun s => ?_, fun _ _ => ofHex?_eq_some_iff,
    fun c => ⟨c.exists_hex_spells, c.ofHex?_hex⟩, sliceHex_encode⟩
  simp only [ofHex?_eq_some_iff]
  rw [exists_comm]
  simp only [exists_and_left, exists_isSpelled_iff, Hex.exists_isDigit_iff]

/-- Digits are tested for: without that a sign would be taken and a character could be divided. -/
example : Hex.readByte? [0x2B, 0x66] = some 0x0F ∧ ofHex? "+f+f+f" = none ∧
    Text.slice (Utf8.encode "aééf") 0 2 = .error .insideCharacter ∧ ofHex? "aééf" = none ∧
    ofHex? "##ff0000" = none ∧ ofHex? "#Ff000080" = some ⟨255, 0, 0, 128⟩ := by decide

end Rgba

end TraceView
