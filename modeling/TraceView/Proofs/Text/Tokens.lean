import TraceView.Proofs.Text.Words

namespace TraceView.Text

variable {α : Type} {isDelim : α → Bool} {as : List α} {a : α}

theorem split_eq_splitOnP (isDelim : α → Bool) (as : List α) :
    split isDelim as = as.splitOnP isDelim := by
  induction as with
  | nil => rfl
  | cons a as ih =>
    rw [split, List.splitOnP_cons_eq_if_modifyHead, ih]
    split
    · rfl
    · cases h : as.splitOnP isDelim with
      | nil => exact absurd h (List.splitOnP_ne_nil _ _)
      | cons w ws => rfl

theorem not_isDelim_of_mem_split (isDelim : α → Bool) (as : List α) :
    ∀ w ∈ split isDelim as, ∀ a ∈ w, isDelim a = false := by
  induction delimited isDelim as with
  | free hfree => simpa [split_free hfree] using hfree
  | delim hfree ha _ ih =>
    rw [split_append _ ha, split_free hfree]
    exact List.forall_mem_cons.mpr ⟨hfree, ih⟩

theorem exists_split_concat (as : List α) (ha : isDelim a = false) :
    ∃ ws w, split isDelim as = ws ++ [w] ∧ split isDelim (as ++ [a]) = ws ++ [w ++ [a]] := by
  induction delimited isDelim as with
  | @free as hfree =>
    have hmore : ∀ b ∈ as ++ [a], isDelim b = false :=
      List.forall_mem_append.mpr ⟨hfree, List.forall_mem_singleton.mpr ha⟩
    exact ⟨[], as, split_free hfree, split_free hmore⟩
  | @delim as b bs hfree hb _ ih =>
    obtain ⟨ws, w, hbs, hmore⟩ := ih
    refine ⟨as :: ws, w, ?_, ?_⟩
    · rw [split_append _ hb, split_free hfree, hbs]
      rfl
    · rw [List.append_assoc, List.cons_append, split_append _ hb, split_free hfree, hmore]
      rfl

theorem lines_concat_delim (isDelim : α → Bool) (as : List α) (ha : isDelim a = true) :
    lines isDelim (as ++ [a]) = split isDelim as := by
  simp [lines, pieces_eq, split_append as ha, split]

theorem lines_concat_free (isDelim : α → Bool) (as : List α) (ha : isDelim a = false) :
    lines isDelim (as ++ [a]) = split isDelim (as ++ [a]) := by
  obtain ⟨ws, w, -, hmore⟩ := exists_split_concat as ha
  simp [lines, pieces_eq, hmore]

theorem not_isDelim_of_mem_lines (isDelim : α → Bool) (as : List α) :
    ∀ w ∈ lines isDelim as, ∀ a ∈ w, isDelim a = false := by
  intro w hw
  refine not_isDelim_of_mem_split isDelim as w ?_
  simp only [lines, pieces_eq] at hw
  split at hw
  · exact List.dropLast_subset _ hw
  · exact hw

section Delimiter

variable [DecidableEq α]

theorem intercalate_split (d : α) (as : List α) : [d].intercalate (split (· == d) as) = as := by
  rw [split_eq_splitOnP]
  exact List.intercalate_splitOn d

/-- All that is lost by taking apart is a delimiter at the end. -/
theorem intercalate_lines_concat (d : α) (as : List α) :
    [d].intercalate (lines (· == d) (as ++ [d])) = as := by
  rw [lines_concat_delim (· == d) as (beq_self_eq_true d), intercalate_split]

theorem intercalate_lines (d : α) (h : as.getLast? ≠ some d) :
    [d].intercalate (lines (· == d) as) = as := by
  rcases List.eq_nil_or_concat as with rfl | ⟨as, a, rfl⟩
  · rfl
  · have ha : (a == d) = false := by simpa using h
    rw [List.concat_eq_append, lines_concat_free (· == d) as ha, intercalate_split]

theorem lines_intercalate {ws : List (List α)} {d : α} (h : ∀ w ∈ ws, d ∉ w) (hne : ws ≠ []) :
    lines (· == d) ([d].intercalate ws) = if ws.getLast? = some [] then ws.dropLast else ws := by
  have hsplit : split (· == d) ([d].intercalate ws) = ws := by
    rw [split_eq_splitOnP]
    exact List.splitOn_intercalate d h hne
  simp only [lines, pieces_eq, hsplit]
  cases ws.getLast? <;> simp

end Delimiter

theorem toList_implode (tokens : List String) (d : Char) :
    (implode tokens (.singleton d)).toList = [d].intercalate (tokens.map String.toList) := by
  rw [implode, String.toList_intercalate, String.toList_singleton]

theorem map_toList_explode (s : String) (d : Char) :
    (explode s d).map String.toList = lines (· == d) s.toList := by
  simp [explode, Function.comp_def]

theorem toList_implode_explode (s : String) (d : Char) :
    (implode (explode s d) (.singleton d)).toList =
      [d].intercalate (lines (· == d) s.toList) := by
  rw [toList_implode, map_toList_explode]

theorem explode_implode {tokens : List String} {d : Char} (h : ∀ t ∈ tokens, d ∉ t.toList)
    (hne : tokens ≠ []) :
    explode (implode tokens (.singleton d)) d =
      if tokens.getLast? = some "" then tokens.dropLast else tokens := by
  apply List.map_injective_iff.mpr fun _ _ => String.toList_injective
  have hlast : (tokens.map String.toList).getLast? = some [] ↔ tokens.getLast? = some "" := by
    simp [List.getLast?_map]
  rw [map_toList_explode, toList_implode, lines_intercalate (by simpa using h) (by simpa using hne),
    apply_ite (List.map String.toList), List.map_dropLast]
  simp only [hlast]

/-- Taking a text apart and putting it together gives it back, but for one delimiter at its end. No
token has the delimiter in it. Putting together tokens without the delimiter and taking that apart gives
them back, but for an empty one at their end. -/
theorem tokens_round_trip (d : Char) :
    (∀ s : String, implode (explode (s.push d) d) (.singleton d) = s) ∧
      (∀ s : String, s.toList.getLast? ≠ some d → implode (explode s d) (.singleton d) = s) ∧
      (∀ s, ∀ token ∈ explode s d, d ∉ token.toList) ∧
      ∀ tokens : List String, (∀ token ∈ tokens, d ∉ token.toList) →
        (tokens = [] ∨ tokens.getLast? ≠ some "" →
          explode (implode tokens (.singleton d)) d = tokens) ∧
        explode (implode (tokens ++ [""]) (.singleton d)) d = tokens := by
  refine ⟨fun s => ?_, fun s hs => ?_, fun s token htoken hd => ?_, fun tokens h => ⟨?_, ?_⟩⟩
  · apply String.toList_inj.mp
    rw [toList_implode_explode, String.toList_push, intercalate_lines_concat]
  · apply String.toList_inj.mp
    rw [toList_implode_explode, intercalate_lines d hs]
  · have hline : token.toList ∈ lines (· == d) s.toList := by
      rw [← map_toList_explode]
      exact List.mem_map_of_mem htoken
    have hfree := not_isDelim_of_mem_lines (· == d) s.toList _ hline d hd
    simp at hfree
  · rintro (rfl | hlast)
    · rfl
    · by_cases hne : tokens = []
      · rw [hne]
        rfl
      · rw [explode_implode h hne, if_neg hlast]
  · have hmore : ∀ token ∈ tokens ++ [""], d ∉ token.toList :=
      List.forall_mem_append.mpr ⟨h, by simp⟩
    rw [explode_implode hmore (by simp), if_pos (by simp), List.dropLast_concat]

theorem tokens_round_trip_empty :
    let d := 'é'
    let tokens := ["a", "", "b"]
    "aéb".toList.getLast? ≠ some d ∧ (∀ token ∈ tokens, d ∉ token.toList) ∧
      tokens.getLast? ≠ some "" ∧
      implode (explode ("aééb".push d) d) (.singleton d) = "aééb" ∧
      implode (explode "aéb" d) (.singleton d) = "aéb" ∧
      explode (implode tokens (.singleton d)) d = tokens ∧
      explode (implode (tokens ++ [""]) (.singleton d)) d = tokens := by
  intro d tokens
  obtain ⟨hending, hother, -, htokens⟩ := tokens_round_trip d
  have hplain : "aéb".toList.getLast? ≠ some d := by decide
  have hfree : ∀ token ∈ tokens, d ∉ token.toList := by decide
  have hlast : tokens.getLast? ≠ some "" := by decide
  obtain ⟨hsame, hshorter⟩ := htokens tokens hfree
  exact ⟨hplain, hfree, hlast, hending "aééb", hother "aéb" hplain, hsame (.inr hlast), hshorter⟩

end TraceView.Text
