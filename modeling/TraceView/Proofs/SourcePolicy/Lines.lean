import TraceView.Proofs.Text.Words
import TraceView.SourcePolicy

namespace TraceView.SourcePolicy

/-- How a line ends, as far as that is seen in what comes behind it. -/
inductive Ends (line : List Char) : List Char → Prop
  | lineFeed : line.getLast? ≠ some '\r' → Ends line ('\n' :: rest)
  | both : Ends line ('\r' :: '\n' :: rest)
  | text : line ≠ [] → Ends line []

/-- A line of a text by its number, with all that stands before it. -/
inductive IsLine : List Char → Nat → List Char → List Char → Prop
  | first : '\n' ∉ line → Ends line rest → IsLine (line ++ rest) 1 [] line
  | next : '\n' ∉ skipped → IsLine text n before line →
      IsLine (skipped ++ '\n' :: text) (n + 1) (skipped ++ '\n' :: before) line

variable {text before line needle : List Char} {n : Nat}

theorem IsLine.exists_append (h : IsLine text n before line) :
    (∃ rest, text = before ++ line ++ rest) ∧ '\n' ∉ line := by
  induction h with
  | first hline _ => exact ⟨⟨_, rfl⟩, hline⟩
  | next _ _ ih =>
    obtain ⟨⟨rest, rfl⟩, hline⟩ := ih
    exact ⟨⟨rest, by simp⟩, hline⟩

def trimReturn (line : List Char) : List Char :=
  if line.getLast? = some '\r' then line.dropLast else line

theorem beq_lineFeed (h : '\n' ∉ line) : ∀ c ∈ line, (c == '\n') = false := by
  simpa using fun c hc => ne_of_mem_of_not_mem hc h

theorem textLines_free (h : '\n' ∉ line) : textLines line = if line = [] then [] else [line] := by
  simp only [textLines, Text.pieces_eq, Text.split_free (beq_lineFeed h)]
  cases line <;> simp

theorem textLines_lineFeed (h : '\n' ∉ line) (rest : List Char) :
    textLines (line ++ '\n' :: rest) = trimReturn line :: textLines rest := by
  have hsplit : Text.split (· == '\n') (line ++ '\n' :: rest) =
      Text.split (· == '\n') line ++ Text.split (· == '\n') rest :=
    Text.split_append line rfl rest
  obtain ⟨w, ws, hrest⟩ := List.exists_cons_of_ne_nil (Text.split_ne_nil (· == '\n') rest)
  simp only [textLines, Text.pieces_eq, hsplit, Text.split_free (beq_lineFeed h), hrest, List.singleton_append,
    List.getLast?_cons_cons, List.dropLast_cons_cons, List.map_cons]
  cases (w :: ws).getLast? with
  | none => rfl
  | some last => cases last <;> rfl

theorem isLine_lineFeed (h : '\n' ∉ line) (rest : List Char) :
    IsLine (line ++ '\n' :: rest) 1 [] (trimReturn line) := by
  unfold trimReturn
  split
  case isTrue hreturn =>
    obtain ⟨init, rfl⟩ := List.getLast?_eq_some_iff.mp hreturn
    rw [List.dropLast_concat, List.append_assoc]
    exact .first (fun hmem => h (List.mem_append_left _ hmem)) .both
  case isFalse hnone => exact .first h (.lineFeed hnone)

theorem exists_isLine (h : (textLines text)[n]? = some line) :
    ∃ before, IsLine text (n + 1) before line := by
  induction Text.delimited (· == '\n') text generalizing n with
  | @free text hfree =>
    have hbreak : '\n' ∉ text := fun hmem => by simpa using hfree _ hmem
    rw [textLines_free hbreak] at h
    split at h
    case isTrue => cases h
    case isFalse hne =>
      obtain ⟨rfl, rfl⟩ : n = 0 ∧ text = line := by simpa using List.getElem?_eq_some_iff.mp h
      refine ⟨[], ?_⟩
      have hline := IsLine.first hbreak (.text hne)
      rwa [List.append_nil] at hline
  | @delim skipped c text hfree hc _ ih =>
    have hbreak : '\n' ∉ skipped := fun hmem => by simpa using hfree _ hmem
    rw [beq_iff_eq.mp hc, textLines_lineFeed hbreak] at h
    rw [beq_iff_eq.mp hc]
    cases n with
    | zero =>
      cases h
      exact ⟨[], isLine_lineFeed hbreak text⟩
    | succ n =>
      obtain ⟨before, hline⟩ := ih h
      exact ⟨_, .next hbreak hline⟩

theorem IsLine.getElem? (h : IsLine text n before line) :
    ∃ m, n = m + 1 ∧ (textLines text)[m]? = some line := by
  induction h with
  | @first line rest hline hends =>
    refine ⟨0, rfl, ?_⟩
    cases hends with
    | lineFeed hreturn => rw [textLines_lineFeed hline, trimReturn, if_neg hreturn]; rfl
    | both =>
      have hboth : '\n' ∉ line ++ ['\r'] := by simpa using hline
      rw [← List.singleton_append, ← List.append_assoc, textLines_lineFeed hboth, trimReturn,
        if_pos (by simp), List.dropLast_concat]
      rfl
    | text hne => rw [List.append_nil, textLines_free hline, if_neg hne]; rfl
  | next hskipped _ ih =>
    obtain ⟨m, rfl, hline⟩ := ih
    exact ⟨m + 1, rfl, by rw [textLines_lineFeed hskipped]; exact hline⟩

theorem getElem?_textLines_iff :
    (textLines text)[n]? = some line ↔ ∃ before, IsLine text (n + 1) before line := by
  constructor
  · exact exists_isLine
  · rintro ⟨before, h⟩
    obtain ⟨m, hm, hline⟩ := h.getElem?
    cases hm
    exact hline

/-- A line before the first one that begins with the test mark, blanks aside. -/
structure IsProduction (text : List Char) (n : Nat) (before line : List Char) : Prop where
  isLine : IsLine text n before line
  noMark : ∀ m ≤ n, ∀ before' line', IsLine text m before' line' →
    ¬ testMark.toList <+: line'.dropWhile Text.isBlank

theorem isTestMark_iff : isTestMark line = true ↔
    testMark.toList <+: line.dropWhile Text.isBlank :=
  Text.isSome_stripPrefix?_iff

theorem takeWhile_zipIdx {α : Type} (p : α → Bool) (as : List α) (k : Nat) :
    (as.zipIdx k).takeWhile (fun x => p x.1) = (as.takeWhile p).zipIdx k := by
  induction as generalizing k with
  | nil => rfl
  | cons a as ih =>
    rw [List.zipIdx_cons, List.takeWhile_cons, List.takeWhile_cons, ih]
    split <;> rfl

theorem getElem?_takeWhile_iff {α : Type} {p : α → Bool} {as : List α} {a : α} :
    (as.takeWhile p)[n]? = some a ↔ as[n]? = some a ∧ ∀ b ∈ as.take (n + 1), p b = true := by
  induction as generalizing n with
  | nil => simp
  | cons c as ih =>
    rw [List.takeWhile_cons, List.take_succ_cons, List.forall_mem_cons]
    cases hc : p c with
    | false => simp
    | true =>
      rw [if_pos rfl]
      cases n with
      | zero => simp
      | succ n =>
        rw [List.getElem?_cons_succ, List.getElem?_cons_succ, ih]
        exact and_congr_right fun _ => (and_iff_right rfl).symm

theorem isProduction_iff : IsProduction text n before line ↔
    IsLine text n before line ∧ ∀ line' ∈ (textLines text).take n, isTestMark line' = false := by
  constructor
  · rintro ⟨hline, hmarks⟩
    refine ⟨hline, fun line' hmem => ?_⟩
    obtain ⟨m, hm⟩ := List.mem_iff_getElem?.mp hmem
    rw [List.getElem?_take, Option.ite_none_right_eq_some] at hm
    obtain ⟨hlt, hm⟩ := hm
    obtain ⟨before', hline'⟩ := getElem?_textLines_iff.mp hm
    exact Bool.eq_false_iff.mpr fun hmark =>
      hmarks (m + 1) hlt before' line' hline' (isTestMark_iff.mp hmark)
  · rintro ⟨hline, hmarks⟩
    refine ⟨hline, fun m hm before' line' hline' hmark => ?_⟩
    obtain ⟨k, rfl, hk⟩ := hline'.getElem?
    have hmem : line' ∈ (textLines text).take n :=
      List.mem_of_getElem? ((List.getElem?_take_of_lt hm).trans hk)
    rw [← isTestMark_iff, hmarks line' hmem] at hmark
    cases hmark

theorem productionLines_eq (text : String) :
    productionLines text =
      (((textLines text.toList).takeWhile (!isTestMark ·)).zipIdx 1).map
        fun (line, n) => (n, String.ofList (code line)) := by
  rw [← takeWhile_zipIdx]
  rfl

theorem mem_productionLines_iff {text shown : String} :
    (n, shown) ∈ productionLines text ↔
      ∃ before line, IsProduction text.toList n before line ∧ shown = String.ofList (code line) := by
  rw [productionLines_eq]
  simp only [List.mem_map, Prod.exists, Prod.mk.injEq, isProduction_iff]
  constructor
  · rintro ⟨line, m, hmem, rfl, rfl⟩
    obtain ⟨hle, hline⟩ := List.mk_mem_zipIdx_iff_le_and_getElem?_sub.mp hmem
    obtain ⟨hline, hmarks⟩ := getElem?_takeWhile_iff.mp hline
    obtain ⟨before, hbefore⟩ := getElem?_textLines_iff.mp hline
    rw [Nat.sub_add_cancel hle] at hbefore hmarks
    exact ⟨before, line, ⟨hbefore, by simpa using hmarks⟩, rfl⟩
  · rintro ⟨before, line, ⟨hline, hmarks⟩, rfl⟩
    obtain ⟨m, rfl, hm⟩ := hline.getElem?
    refine ⟨line, m + 1, ?_, rfl, rfl⟩
    rw [Nat.add_comm m 1, List.mk_add_mem_zipIdx_iff_getElem?, getElem?_takeWhile_iff]
    exact ⟨hm, by simpa using hmarks⟩

theorem pairwise_productionLines (text : String) : (productionLines text).Pairwise (·.1 < ·.1) := by
  rw [productionLines_eq, List.pairwise_map]
  have hrising := List.pairwise_lt_range' (s := 1)
    (n := ((textLines text.toList).takeWhile (!isTestMark ·)).length) 1
  rw [← List.zipIdx_map_snd, List.pairwise_map] at hrising
  exact hrising

theorem code_cases (line : List Char) :
    code line = line ∨ ∃ rest, line = code line ++ '/' :: '/' :: rest := by
  induction line with
  | nil => exact .inl rfl
  | cons c cs ih =>
    rw [code]
    split
    case isTrue hmark =>
      obtain ⟨rest, hrest⟩ := Text.isSome_stripPrefix?_iff.mp hmark
      exact .inr ⟨rest, hrest.symm⟩
    case isFalse =>
      rcases ih with heq | ⟨rest, hrest⟩
      · exact .inl (congrArg (c :: ·) heq)
      · exact .inr ⟨rest, congrArg (c :: ·) hrest⟩

theorem holds_iff {cs : List Char} : holds needle cs = true ↔ needle <:+: cs := by
  induction cs with
  | nil => rw [holds, List.isEmpty_iff, List.infix_nil]
  | cons c cs ih =>
    rw [holds, Bool.or_eq_true, Text.isSome_stripPrefix?_iff, ih, List.infix_cons_iff]

end TraceView.SourcePolicy
