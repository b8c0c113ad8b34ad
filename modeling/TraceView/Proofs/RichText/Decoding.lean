import TraceView.RichText.Segment

/-!
Decoding, three ways: `Reads` is the grammar of styled text, `Segment.parse` reads it in one pass, and
a `Cursor` yields one segment at a time. All three agree, and the cursor stays at its end.
-/

namespace TraceView

def IsPlain (text : Bytes) : Prop := RichText.lineFeed ∉ text ∧ RichText.escape ∉ text

theorem isPlain_nil : IsPlain [] := by simp [IsPlain]

theorem isPlain_reverse {text : Bytes} : IsPlain text.reverse ↔ IsPlain text := by
  simp [IsPlain]

theorem isPlain_cons {x : UInt8} {text : Bytes} :
    IsPlain (x :: text) ↔ (x ≠ RichText.lineFeed ∧ x ≠ RichText.escape) ∧ IsPlain text := by
  simp only [IsPlain, List.mem_cons, not_or, ne_eq, eq_comm (a := x)]
  exact and_and_and_comm

namespace Segment

def runs (text : Bytes) (color : Rgba) : List Segment :=
  if text = [] then [] else [.run text color]

def IsProper : Segment → Prop
  | .run text _ => text ≠ [] ∧ IsPlain text
  | .lineBreak => True

/-- The grammar: plain text up to a token or the end, and what the token does. -/
inductive Reads : Rgba → Bytes → List Segment → Prop
  | finish : IsPlain text → Reads color text (runs text color)
  | newline : IsPlain text → Reads color rest segs →
      Reads color (text ++ RichText.lineFeed :: rest) (runs text color ++ .lineBreak :: segs)
  | select : IsPlain text → Reads ⟨r, g, b, a⟩ rest segs →
      Reads color (text ++ RichText.escape :: r :: g :: b :: a :: rest) (runs text color ++ segs)
  | truncated : IsPlain text → code.length < 4 →
      Reads color (text ++ RichText.escape :: code) (runs text color)

theorem pending?_toList (taken : Bytes) (color : Rgba) :
    (pending? taken color).toList = runs taken.reverse color := by
  cases taken <;> simp [pending?, runs]

theorem parseFrom_nil (taken : Bytes) (color : Rgba) :
    parseFrom taken color [] = runs taken.reverse color := by
  rw [parseFrom, pending?_toList]

theorem parseFrom_lineFeed (taken : Bytes) (color : Rgba) (rest : Bytes) :
    parseFrom taken color (RichText.lineFeed :: rest) =
      runs taken.reverse color ++ .lineBreak :: parse rest color := by
  rw [parseFrom.eq_def]
  simp [pending?_toList, parse]

theorem parseFrom_escape (taken : Bytes) (color : Rgba) (r g b a : UInt8) (rest : Bytes) :
    parseFrom taken color (RichText.escape :: r :: g :: b :: a :: rest) =
      runs taken.reverse color ++ parse rest ⟨r, g, b, a⟩ := by
  rw [parseFrom.eq_def]
  simp [pending?_toList, parse, RichText.escape, RichText.lineFeed]

theorem parseFrom_truncated (h : code.length < 4) (taken : Bytes) (color : Rgba) :
    parseFrom taken color (RichText.escape :: code) = runs taken.reverse color := by
  rw [parseFrom.eq_def]
  simp only [show RichText.escape ≠ RichText.lineFeed from by decide, if_false, if_true]
  split
  · simp at h; omega
  · exact pending?_toList taken color

theorem parseFrom_plain (h : IsPlain text) (taken : Bytes) (color : Rgba) (rest : Bytes) :
    parseFrom taken color (text ++ rest) = parseFrom (text.reverse ++ taken) color rest := by
  induction text generalizing taken with
  | nil => rfl
  | cons x text ih =>
    obtain ⟨⟨hlf, hesc⟩, ht⟩ := isPlain_cons.mp h
    rw [List.cons_append, parseFrom.eq_def]
    simp [hlf, hesc, ih ht]

theorem parse_plain (h : IsPlain text) (color : Rgba) (rest : Bytes) :
    parse (text ++ rest) color = parseFrom text.reverse color rest := by
  rw [parse, parseFrom_plain h, List.append_nil]

theorem Reads.parse_eq (h : Reads color xs segs) : parse xs color = segs := by
  induction h with
  | @finish text color h =>
    rw [← List.append_nil text, parse_plain h, parseFrom_nil, List.reverse_reverse, List.append_nil]
  | newline h _ ih => rw [parse_plain h, parseFrom_lineFeed, ih, List.reverse_reverse]
  | select h _ ih => rw [parse_plain h, parseFrom_escape, ih, List.reverse_reverse]
  | truncated h short => rw [parse_plain h, parseFrom_truncated short, List.reverse_reverse]

theorem reads_parseFrom (h : IsPlain taken) (color : Rgba) (xs : Bytes) :
    Reads color (taken.reverse ++ xs) (parseFrom taken color xs) := by
  fun_induction parseFrom taken color xs with
  | case1 taken color =>
    rw [pending?_toList, List.append_nil]
    exact .finish (isPlain_reverse.mpr h)
  | case2 taken color xs ih =>
    rw [pending?_toList]
    exact .newline (isPlain_reverse.mpr h) (ih isPlain_nil)
  | case3 taken color r g b a xs _ ih =>
    rw [pending?_toList]
    exact .select (isPlain_reverse.mpr h) (ih isPlain_nil)
  | case4 taken color code few =>
    rw [pending?_toList]
    refine .truncated (isPlain_reverse.mpr h) ?_
    match code, few with
    | [], _ | [_], _ | [_, _], _ | [_, _, _], _ => simp
    | r :: g :: b :: a :: rest, few => exact (few r g b a rest rfl).elim
  | case5 taken color x xs hlf hesc ih =>
    have := ih (isPlain_cons.mpr ⟨⟨hlf, hesc⟩, h⟩)
    simpa using this

theorem reads_iff : Reads color xs segs ↔ parse xs color = segs := by
  constructor
  · exact Reads.parse_eq
  · rintro rfl
    exact reads_parseFrom isPlain_nil color xs

theorem isProper_of_mem_runs (h : IsPlain text) (hseg : seg ∈ runs text color) :
    seg.IsProper := by
  unfold runs at hseg
  split at hseg
  case isTrue => simp at hseg
  case isFalse hne =>
    rw [List.mem_singleton.mp hseg]
    exact ⟨hne, h⟩

theorem Reads.isProper (h : Reads color xs segs) : ∀ seg ∈ segs, seg.IsProper := by
  induction h with
  | finish h => exact fun seg => isProper_of_mem_runs h
  | newline h _ ih =>
    intro seg hseg
    cases List.mem_append.mp hseg with
    | inl hseg => exact isProper_of_mem_runs h hseg
    | inr hseg =>
      cases List.mem_cons.mp hseg with
      | inl heq =>
        subst heq
        trivial
      | inr hseg => exact ih seg hseg
  | select h _ ih =>
    intro seg hseg
    cases List.mem_append.mp hseg with
    | inl hseg => exact isProper_of_mem_runs h hseg
    | inr hseg => exact ih seg hseg
  | truncated h => exact fun seg => isProper_of_mem_runs h

theorem length_runs_le (text : Bytes) (color : Rgba) : (runs text color).length ≤ text.length := by
  cases text <;> simp [runs]

theorem Reads.length_le (h : Reads color xs segs) : segs.length ≤ xs.length := by
  induction h with
  | finish _ => exact length_runs_le _ _
  | newline _ _ ih =>
    simp only [List.length_append, List.length_cons]
    exact Nat.add_le_add (length_runs_le _ _) (by omega)
  | select _ _ ih =>
    simp only [List.length_append, List.length_cons]
    exact Nat.add_le_add (length_runs_le _ _) (by omega)
  | truncated _ _ =>
    rw [List.length_append]
    exact Nat.le_add_right_of_le (length_runs_le _ _)

end Segment

namespace Cursor

def remaining (s : Cursor) : List Segment :=
  (if s.breakDue then [.lineBreak] else []) ++
    (if s.done then [] else Segment.parseFrom s.taken s.color s.unread)

def after (s : Cursor) : Nat → Cursor
  | 0 => s
  | n + 1 => s.next.2.after n

theorem scan_remaining (taken : Bytes) (color : Rgba) (xs : Bytes) :
    (scan taken color xs).1 = (Segment.parseFrom taken color xs).head? ∧
      (scan taken color xs).2.remaining = (Segment.parseFrom taken color xs).tail := by
  fun_induction scan taken color xs with
  | case1 taken color =>
    rw [Segment.parseFrom]
    cases Segment.pending? taken color <;> simp [remaining]
  | case2 taken color xs run hrun =>
    rw [Segment.parseFrom.eq_def]
    simp [hrun, remaining]
  | case3 taken color xs hrun =>
    rw [Segment.parseFrom.eq_def]
    simp [hrun, remaining]
  | case4 taken color r g b a xs run hrun hesc =>
    rw [Segment.parseFrom.eq_def]
    simp [hrun, hesc, remaining]
  | case5 taken color r g b a xs hrun hesc ih =>
    rw [Segment.parseFrom.eq_def]
    simpa [hrun, hesc] using ih
  | case6 taken color code few hesc =>
    rw [Segment.parseFrom.eq_3 _ _ _ _ few, if_neg hesc, if_pos rfl]
    cases Segment.pending? taken color <;> simp [remaining]
  | case7 taken color x xs hlf hesc ih =>
    rw [Segment.parseFrom.eq_def]
    simpa [hlf, hesc] using ih

theorem next_remaining (s : Cursor) :
    s.next.1 = s.remaining.head? ∧ s.next.2.remaining = s.remaining.tail := by
  unfold next
  split
  case isTrue hbreak => simp [remaining, hbreak]
  case isFalse hbreak =>
    split
    case isTrue hdone => simp [remaining, hbreak, hdone]
    case isFalse hdone =>
      have := scan_remaining s.taken s.color s.unread
      simpa [remaining, hbreak, hdone] using this

theorem next_after (s : Cursor) (n : Nat) : (s.after n).next.1 = s.remaining[n]? := by
  induction n generalizing s with
  | zero => rw [after, (next_remaining s).1, List.head?_eq_getElem?]
  | succ n ih => rw [after, ih, (next_remaining s).2, List.getElem?_tail]

theorem take_remaining (s : Cursor) (fuel : Nat) : s.take fuel = s.remaining.take fuel := by
  induction fuel generalizing s with
  | zero => rfl
  | succ fuel ih =>
    obtain ⟨hhead, htail⟩ := next_remaining s
    rcases hnext : s.next with ⟨seg?, s'⟩
    rw [hnext] at hhead htail
    cases hs : s.remaining with
    | nil =>
      obtain rfl : seg? = none := by simpa [hs] using hhead
      simp [take, hnext]
    | cons seg segs =>
      obtain rfl : seg? = some seg := by simpa [hs] using hhead
      simp [take, hnext, ih, show s'.remaining = segs by simpa [hs] using htail]

theorem remaining_start (xs : Bytes) (color : Rgba) :
    remaining { unread := xs, color } = Segment.parse xs color := by
  simp [remaining, Segment.parse]

end Cursor

theorem RichText.segments_eq_parse (t : RichText) (color : Rgba) :
    t.segments color = Segment.parse t.bytes color := by
  have hle := (Segment.reads_parseFrom isPlain_nil color t.bytes).length_le
  rw [segments, Cursor.toList, Cursor.take_remaining, Cursor.remaining_start]
  exact List.take_of_length_le (Nat.le_succ_of_le hle)

/-- The segments of `xs` are those of the grammar, and the `n`-th call of `next` yields the `n`-th of
them. Past the last one, which comes after at most as many calls as there are bytes, every call
yields nothing. -/
theorem Cursor.next_enumerates_reading (xs : Bytes) (color : Rgba) :
    let start : Cursor := { unread := xs, color }
    let segs := (RichText.mk xs).segments color
    (∀ segs', Segment.Reads color xs segs' ↔ segs' = segs) ∧
      Segment.parse xs color = segs ∧
      (∀ n, (start.after n).next.1 = segs[n]?) ∧
      (∀ seg ∈ segs, seg.IsProper) ∧
      segs.length ≤ xs.length ∧
      ∀ n, (start.after n).next.1 = none → ∀ k, n ≤ k → (start.after k).next.1 = none := by
  intro start segs
  have hsegs : Segment.parse xs color = segs := (RichText.segments_eq_parse _ _).symm
  have hreads : Segment.Reads color xs segs := Segment.reads_iff.mpr hsegs
  have hnext : ∀ n, (start.after n).next.1 = segs[n]? := fun n => by
    rw [next_after, remaining_start, hsegs]
  refine ⟨fun segs' => ?_, hsegs, hnext, hreads.isProper, hreads.length_le, fun n hn k hk => ?_⟩
  · rw [Segment.reads_iff, hsegs, eq_comm]
  · rw [hnext, List.getElem?_eq_none_iff] at hn ⊢
    exact Nat.le_trans hn hk

example : Segment.parse [0x41, 0x1B, 0x0A, 0x1B, 0x0A, 0xFF, 0x0A, 0x42, 0x1B, 1, 2, 3] .white =
    [.run [0x41] .white, .lineBreak, .run [0x42] ⟨0x0A, 0x1B, 0x0A, 0xFF⟩] := by decide

end TraceView
