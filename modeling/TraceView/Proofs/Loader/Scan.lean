import Mathlib.Algebra.BigOperators.Fin
import TraceView.Loader.Scan
import TraceView.Proofs.Ring
import TraceView.Proofs.Text.Ascii

namespace TraceView

namespace Tally

variable {ring : Ring}

@[simp] theorem get_zero (ring : Ring) : zero.get ring = 0 := by simp [zero, get]

theorem get_add (t : Tally) (ring other : Ring) :
    (t.add ring).get other = t.get other + if ring = other then 1 else 0 := by
  by_cases h : ring = other
  · simp [add, get, h]
  · have hindex : ring.index.val ≠ other.index.val := fun heq => h (Ring.index_inj (Fin.ext heq))
    simp [add, get, h, hindex]

theorem get_addToken (t : Tally) (token : List Char) (ring : Ring) :
    (t.addToken token).get ring = t.get ring + if Ring.parse token = some ring then 1 else 0 := by
  unfold addToken
  split
  case h_1 found hfound => simp [get_add, hfound]
  case h_2 hnone => simp [hnone]

/-- What grows by one with some tokens, and not with the others, counts these tokens. -/
theorem foldl_addToken (measure : Tally → Nat) {adds : List Char → Bool}
    (h : ∀ t token, measure (t.addToken token) = measure t + if adds token then 1 else 0) (t : Tally)
    (tokens : List (List Char)) :
    measure (tokens.foldl addToken t) = measure t + tokens.countP adds := by
  induction tokens generalizing t with
  | nil => rfl
  | cons token tokens ih =>
    rw [List.foldl_cons, ih, h, List.countP_cons]
    omega

theorem get_addTokens (t : Tally) (tokens : List (List Char)) (ring : Ring) :
    (tokens.foldl addToken t).get ring =
      t.get ring + tokens.countP (fun token => Ring.parse token = some ring) := by
  have hadds : ∀ t token, get (addToken t token) ring =
      get t ring + if decide (Ring.parse token = some ring) then 1 else 0 := by
    simp only [get_addToken, decide_eq_true_eq, implies_true]
  exact foldl_addToken (fun t => t.get ring) hadds t tokens

theorem seen_eq (t : Tally) : t.seen = (List.finRange Ring.count).filterMap fun i =>
    if 0 < t.get (.ofIndex i) then some (.ofIndex i, t.get (.ofIndex i)) else none := by
  simp only [seen, get, Ring.index_ofIndex]

def total (t : Tally) : Nat := ∑ i, t.get (.ofIndex i)

@[simp] theorem total_zero : zero.total = 0 := by simp [total]

theorem total_add (t : Tally) (ring : Ring) : (t.add ring).total = t.total + 1 := by
  have hindex : ∀ i, ring = .ofIndex i ↔ ring.index = i := by
    intro i
    constructor
    · rintro rfl
      exact Ring.index_ofIndex i
    · rintro rfl
      exact (Ring.ofIndex_index ring).symm
  simp [total, get_add, Finset.sum_add_distrib, hindex]

theorem total_addToken (t : Tally) (token : List Char) :
    (t.addToken token).total = t.total + if (Ring.parse token).isSome then 1 else 0 := by
  unfold addToken
  split
  case h_1 ring hring => simp [total_add, hring]
  case h_2 hnone => simp [hnone]

theorem total_addTokens (t : Tally) (tokens : List (List Char)) :
    (tokens.foldl addToken t).total =
      t.total + tokens.countP (fun token => (Ring.parse token).isSome) :=
  foldl_addToken total total_addToken t tokens

theorem mem_seen {t : Tally} {n : Nat} : (ring, n) ∈ t.seen ↔ n = t.get ring ∧ 0 < n := by
  simp only [seen_eq, List.mem_filterMap, List.mem_finRange, true_and]
  constructor
  · rintro ⟨i, hi⟩
    split at hi
    case isTrue hpos =>
      cases hi
      exact ⟨rfl, hpos⟩
    case isFalse => cases hi
  · rintro ⟨rfl, hpos⟩
    refine ⟨ring.index, ?_⟩
    rw [Ring.ofIndex_index, if_pos hpos]

theorem pairwise_seen (t : Tally) : t.seen.Pairwise fun r r' => r.1.index < r'.1.index := by
  rw [seen_eq, List.pairwise_filterMap]
  refine (List.pairwise_lt_finRange _).imp ?_
  intro i j hlt r hr r' hr'
  split at hr <;> cases hr
  split at hr' <;> cases hr'
  rw [Ring.index_ofIndex, Ring.index_ofIndex]
  exact hlt

theorem refs_seen (t : Tally) : t.seen.foldr (fun r n => r.2 + n) 0 = t.total := by
  rw [total, Fin.sum_univ_def, seen_eq]
  induction List.finRange Ring.count with
  | nil => rfl
  | cons i is ih =>
    rw [List.map_cons, List.sum_cons, ← ih, List.filterMap_cons]
    split
    case h_1 hnone =>
      split at hnone
      · cases hnone
      · omega
    case h_2 hsome =>
      split at hsome <;> cases hsome
      rfl

end Tally

namespace Scan

open Text

variable {content : Bytes} {ring : Ring}

def tokens (content : Bytes) : List Bytes := runs isBlankByte content

/-- A token is a reference to the ring whose name it starts with. -/
def isReference (ring : Ring) (token : Bytes) : Bool := (Utf8.encode ring.name).isPrefixOf token

def isAnyReference (token : Bytes) : Bool :=
  (List.finRange Ring.count).any fun i => isReference (.ofIndex i) token

def references (content : Bytes) (ring : Ring) : Nat := (tokens content).countP (isReference ring)

theorem parse_decode_iff {token : Bytes} :
    Ring.parse (Utf8.decode token) = some ring ↔ isReference ring token = true := by
  rw [Ring.parse_eq_some_iff, Utf8.prefix_decode_iff ring.ascii_chars, isReference,
    List.isPrefixOf_iff_prefix, Utf8.encode, Ring.name, String.toList_ofList]

theorem tally_eq (content : Bytes) :
    tally content = ((tokens content).map Utf8.decode).foldl Tally.addToken .zero := by
  have hline : Tally.addLine = fun t line => (((words isBlankByte line).map Utf8.decode).foldl
      Tally.addToken t) := by
    funext t line
    rw [Tally.addLine, Utf8.decodeLossy_eq, String.toList_ofList, words_decode]
  -- The end of a line is blank, so that no token is cut by the lines.
  have hbreak : ∀ b : UInt8, (b == RichText.lineFeed) = true → isBlankByte b = true := by
    intro b hb
    rw [eq_of_beq hb]
    rfl
  rw [tally, tokens, ← words_eq_runs, ← words_lines hbreak, List.map_flatMap, List.foldl_flatMap,
    hline, lines]

theorem get_tally (content : Bytes) (ring : Ring) :
    (tally content).get ring = references content ring := by
  rw [tally_eq, Tally.get_addTokens, Tally.get_zero, Nat.zero_add, List.countP_map, references]
  refine List.countP_congr fun token _ => ?_
  rw [Function.comp_apply, decide_eq_true_eq, parse_decode_iff]

theorem isSome_parse_decode {token : Bytes} :
    (Ring.parse (Utf8.decode token)).isSome = true ↔ isAnyReference token = true := by
  rw [Option.isSome_iff_exists, isAnyReference, List.any_eq_true]
  constructor
  · rintro ⟨ring, hring⟩
    refine ⟨ring.index, List.mem_finRange _, ?_⟩
    rw [Ring.ofIndex_index, ← parse_decode_iff, hring]
  · rintro ⟨i, -, hi⟩
    exact ⟨.ofIndex i, parse_decode_iff.mpr hi⟩

theorem total_tally (content : Bytes) :
    (tally content).total = (tokens content).countP isAnyReference := by
  rw [tally_eq, Tally.total_addTokens, Tally.total_zero, Nat.zero_add, List.countP_map]
  exact List.countP_congr fun token _ => isSome_parse_decode

theorem lines_summary (path : Path) (bytes : Nat) (content : Bytes) :
    (summary path bytes content).lines = content.count RichText.lineFeed +
      if content ≠ [] ∧ content.getLast? ≠ some RichText.lineFeed then 1 else 0 := by
  have hopen : (content.getLast?.any fun b => !(b == RichText.lineFeed)) = true ↔
      content ≠ [] ∧ content.getLast? ≠ some RichText.lineFeed := by
    rw [← List.getLast?_isSome]
    cases content.getLast? <;> simp
  rw [summary, lines, length_lines, List.count, if_congr hopen rfl rfl]

theorem progressEntries_extend (path : Path) {m n : Nat} (h : m ≤ n) :
    progressEntries path m <+: progressEntries path n := by
  have hrange : List.range (m / progressInterval) =
      (List.range (n / progressInterval)).take (m / progressInterval) := by
    rw [List.take_range, Nat.min_eq_left (Nat.div_le_div_right h)]
  rw [progressEntries, progressEntries, hrange, List.map_take]
  exact List.take_prefix _ _

/-- Until a read fails nothing is logged that would not be if it went on. -/
theorem scan_error (path : Path) (bytes : Nat) (content more : Bytes) (e : FileError) :
    (scan path bytes content (some e)).2 = .error e ∧
      (scan path bytes content (some e)).1 <+: (scan path bytes (content ++ more) none).1 := by
  refine ⟨rfl, ?_⟩
  have hlines : content.count RichText.lineFeed ≤ (summary path bytes (content ++ more)).lines := by
    rw [lines_summary, List.count_append]
    omega
  exact List.prefix_cons_inj _ |>.mpr
    ((progressEntries_extend path hlines).trans (List.prefix_append _ _))

theorem run_of_read {tree : Tree} {path : Path} (h : tree.read path = .ok content) :
    (run tree path).2 = .ok (summary path (tree.size path) content) := by
  simp only [run, h, scan]

/-- What a scan of a file that can be read reports is what its bytes as a whole hold, and each reference
has its place among the counts. -/
theorem run_counts_references {tree : Tree} {path : Path} {content : Bytes}
    (h : tree.read path = .ok content) :
    ∃ s, (run tree path).2 = .ok s ∧
      s.lines = content.count RichText.lineFeed +
        (if content ≠ [] ∧ content.getLast? ≠ some RichText.lineFeed then 1 else 0) ∧
      (∀ ring, (tally content).get ring = references content ring) ∧
      (∀ ring n, (ring, n) ∈ s.rings ↔ n = references content ring ∧ 0 < n) ∧
      s.rings.Pairwise (fun r r' => r.1.index < r'.1.index) ∧
      s.refs = (tokens content).countP isAnyReference ∧
      ∀ line ∈ lines content, ∀ token ∈ words isAsciiBlank (Utf8.decodeLossy line).toList,
        ∀ ring, Ring.parse token = some ring →
          (ring.major - 1) * 36 + ring.minor * 9 + ring.patch < Ring.count := by
  refine ⟨_, run_of_read h, lines_summary _ _ _, get_tally content, ?_, Tally.pairwise_seen _, ?_, ?_⟩
  · intro ring n
    rw [summary, Tally.mem_seen, get_tally]
  · rw [LoadSummary.refs, summary, Tally.refs_seen, total_tally]
  · intro _ _ _ _ ring _
    exact ring.index.isLt

def patchyContent : Bytes :=
  [0xE2, 0x82] ++ Utf8.encode " comp_1.0.1" ++ [0xFF, 0x0A, 0xC3] ++ Utf8.encode "comp_2.3.8\tcomp_1.0.1"
    ++ [0xF0, 0x9F]

def patchyFile : Tree := { root := .folder [("trace.dat", .file patchyContent)] }

theorem run_counts_references_patchy :
    patchyFile.read "trace.dat" = .ok patchyContent ∧
      references patchyContent ⟨1, 0, 1, by decide, by decide, by decide, by decide⟩ = 2 ∧
      ∃ s, (run patchyFile "trace.dat").2 = .ok s ∧ s.lines = 2 ∧
        (⟨1, 0, 1, by decide, by decide, by decide, by decide⟩, 2) ∈ s.rings ∧ s.refs = 2 := by
  have hread : patchyFile.read "trace.dat" = .ok patchyContent := rfl
  have hcount : references patchyContent ⟨1, 0, 1, by decide, by decide, by decide, by decide⟩ = 2 := by
    decide +kernel
  have hrefs : (tokens patchyContent).countP isAnyReference = 2 := by decide +kernel
  obtain ⟨s, hs, hlines, -, hrings, -, htotal, -⟩ := run_counts_references hread
  refine ⟨hread, hcount, s, hs, ?_, ?_, ?_⟩
  · rw [hlines]
    decide +kernel
  · rw [hrings, hcount]
    decide
  · rw [htotal, hrefs]

end Scan

end TraceView
