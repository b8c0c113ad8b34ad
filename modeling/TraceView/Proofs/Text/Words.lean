import Mathlib.Data.List.SplitBy
import TraceView.Text.Split

namespace TraceView.Text

variable {α : Type}

/-- The maximal runs of elements that are not blank: the longest stretches whose neighbours are both not
blank, less the blanks, each of which stands alone. -/
def runs (isBlank : α → Bool) (as : List α) : List (List α) :=
  (as.splitBy fun a b => !isBlank a && !isBlank b).filter (·.all (!isBlank ·))

inductive Delimited (isDelim : α → Bool) : List α → Prop
  | free : (∀ a ∈ as, isDelim a = false) → Delimited isDelim as
  | delim : (∀ a ∈ as, isDelim a = false) → isDelim a = true → Delimited isDelim bs →
      Delimited isDelim (as ++ a :: bs)

variable {isDelim isBreak isBlank : α → Bool} {as : List α} {a : α}

theorem delimited (isDelim : α → Bool) (as : List α) : Delimited isDelim as := by
  induction as with
  | nil => exact .free fun _ h => nomatch h
  | cons c cs ih =>
    cases hc : isDelim c with
    | true =>
      have hnil : ∀ a ∈ ([] : List α), isDelim a = false := fun _ h => nomatch h
      exact .delim hnil hc ih
    | false =>
      cases ih with
      | free hfree => exact .free (List.forall_mem_cons.mpr ⟨hc, hfree⟩)
      | delim hfree ha hbs => exact .delim (List.forall_mem_cons.mpr ⟨hc, hfree⟩) ha hbs

theorem split_free (h : ∀ a ∈ as, isDelim a = false) : split isDelim as = [as] := by
  induction as with
  | nil => rfl
  | cons c cs ih =>
    obtain ⟨hc, hcs⟩ := List.forall_mem_cons.mp h
    simp [split, hc, ih hcs]

theorem split_append (as : List α) (ha : isDelim a = true) (bs : List α) :
    split isDelim (as ++ a :: bs) = split isDelim as ++ split isDelim bs := by
  induction as with
  | nil => simp [split, ha]
  | cons c cs ih =>
    have hne := split_ne_nil isDelim cs
    rw [List.cons_append, split, split, ih]
    split
    · rfl
    · cases hcs : split isDelim cs with
      | nil => exact absurd hcs hne
      | cons w ws => rfl

theorem words_free (h : ∀ a ∈ as, isBlank a = false) (hne : as ≠ []) : words isBlank as = [as] := by
  rw [words, pieces_eq, split_free h]
  simp [hne]

theorem words_append (as : List α) (ha : isBlank a = true) (bs : List α) :
    words isBlank (as ++ a :: bs) = words isBlank as ++ words isBlank bs := by
  simp only [words, pieces_eq, split_append as ha, List.filter_append]

theorem runs_free (h : ∀ a ∈ as, isBlank a = false) (hne : as ≠ []) : runs isBlank as = [as] := by
  have hchain : as.IsChain fun a b => (!isBlank a && !isBlank b) = true := by
    refine List.Pairwise.isChain (List.pairwise_of_forall_mem_list fun a ha b hb => ?_)
    rw [h a ha, h b hb]
    rfl
  rw [runs, List.splitBy_of_isChain hne hchain]
  simpa using h

theorem runs_append (as : List α) (ha : isBlank a = true) (bs : List α) :
    runs isBlank (as ++ a :: bs) = runs isBlank as ++ runs isBlank bs := by
  have hbefore : ∀ x ∈ as.getLast?, (!isBlank x && !isBlank a) = false := by simp [ha]
  have hafter : ∀ x ∈ [a].getLast?, ∀ y ∈ bs.head?, (!isBlank x && !isBlank y) = false := by
    simp [ha]
  -- The blank is a stretch by itself between the two sides, and no run.
  simp only [runs]
  rw [List.splitBy_append_cons bs hbefore, ← List.singleton_append, List.splitBy_append hafter,
    List.filter_append, List.filter_append]
  simp [List.splitBy, List.splitBy.loop, ha]

theorem words_eq_runs_of_free (h : ∀ a ∈ as, isBlank a = false) :
    words isBlank as = runs isBlank as := by
  by_cases hne : as = []
  · rw [hne]
    rfl
  · rw [words_free h hne, runs_free h hne]

theorem words_eq_runs (isBlank : α → Bool) (as : List α) : words isBlank as = runs isBlank as := by
  induction delimited isBlank as with
  | free hfree => exact words_eq_runs_of_free hfree
  | delim hfree ha _ ih =>
    rw [words_append _ ha, runs_append _ ha, words_eq_runs_of_free hfree, ih]

theorem lines_free (h : ∀ a ∈ as, isBreak a = false) (hne : as ≠ []) : lines isBreak as = [as] := by
  simp [lines, pieces_eq, split_free h, hne]

theorem lines_delim (h : ∀ a ∈ as, isBreak a = false) (ha : isBreak a = true) (bs : List α) :
    lines isBreak (as ++ a :: bs) = as :: lines isBreak bs := by
  obtain ⟨w, ws, hbs⟩ := List.exists_cons_of_ne_nil (split_ne_nil isBreak bs)
  simp only [lines, pieces_eq, split_append as ha, split_free h, hbs, List.singleton_append,
    List.getLast?_cons_cons, List.dropLast_cons_cons]
  split <;> rfl

/-- No word goes beyond its line. -/
theorem words_lines (h : ∀ a, isBreak a = true → isBlank a = true) (as : List α) :
    (lines isBreak as).flatMap (words isBlank) = words isBlank as := by
  induction delimited isBreak as with
  | @free as hfree =>
    by_cases hne : as = []
    · rw [hne]
      rfl
    · rw [lines_free hfree hne, List.flatMap_singleton]
  | @delim as a bs hfree ha _ ih =>
    rw [lines_delim hfree ha, List.flatMap_cons, ih, words_append as (h a ha)]

theorem countP_free (h : ∀ a ∈ as, isBreak a = false) : as.countP isBreak = 0 := by
  rw [List.countP_eq_zero]
  intro a ha
  simp [h a ha]

theorem length_lines (isBreak : α → Bool) (as : List α) :
    (lines isBreak as).length =
      as.countP isBreak + if as.getLast?.any (!isBreak ·) then 1 else 0 := by
  induction delimited isBreak as with
  | @free as hfree =>
    rw [countP_free hfree]
    rcases List.eq_nil_or_concat as with rfl | ⟨cs, c, rfl⟩
    · rfl
    · rw [lines_free hfree (by simp)]
      simp [hfree c (by simp)]
  | @delim as a bs hfree ha _ ih =>
    rw [lines_delim hfree ha, List.length_cons, ih, List.countP_append, List.countP_cons_of_pos ha,
      countP_free hfree]
    cases bs with
    | nil => simp [ha]
    | cons b bs =>
      rw [List.getLast?_append_of_ne_nil _ (by simp), List.getLast?_cons_cons]
      omega

end TraceView.Text
