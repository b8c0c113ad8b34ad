import Mathlib
import TraceView.Proofs.Files.Walk
import TraceView.Proofs.SourcePolicy.Lines
import TraceView.Proofs.SourcePolicy.Zones

namespace TraceView.SourcePolicy

variable {tree : Tree} {folder path : Path} {violates : String → Bool} {n : Nat}
  {text before line needle : List Char}

/-- At a column of a line, and no character of it in a comment. -/
structure InCode (text before line needle : List Char) (column : Nat) : Prop where
  stands : needle <+: line.drop column
  zone : ∀ zone ∈ ((zones text).drop (before.length + column)).take needle.length, ¬ zone.IsComment

/-- What stands in code is looked at unless two masked slashes stand before its end. -/
theorem InCode.infix_code {column : Nat} (h : InCode text before line needle column)
    (hline : IsLine text n before line)
    (hmasked : ∀ i < column + needle.length, ¬ Masked text (before.length + i)) :
    needle <:+: code line := by
  obtain ⟨⟨after, htext⟩, hbreak⟩ := hline.exists_append
  rcases code_cases line with hwhole | ⟨rest, hrest⟩
  · rw [hwhole]
    exact h.stands.isInfix.trans (List.drop_suffix column line).isInfix
  have hlength : line.length = (code line).length + (rest.length + 2) := by
    conv_lhs => rw [hrest]
    simp
  by_cases hend : column + needle.length ≤ (code line).length
  · -- The needle ends before the slashes.
    have hcode : (code line).drop column <+: line.drop column := by
      conv_rhs => rw [hrest, List.drop_append_of_le_length (by omega)]
      exact List.prefix_append _ _
    have hneedle : needle <+: (code line).drop column :=
      List.prefix_of_prefix_length_le h.stands hcode (by rw [List.length_drop]; omega)
    exact hneedle.isInfix.trans (List.drop_suffix column _).isInfix
  cases hempty : needle.length with
  | zero =>
    rw [List.length_eq_zero_iff.mp hempty]
    exact List.nil_infix
  | succ last =>
    -- Its last character is in the comment that the slashes begin.
    have hinside : needle.length ≤ line.length - column := by
      simpa using h.stands.length_le
    have hrestBreak : '\n' ∉ rest := fun hmem => hbreak (by rw [hrest]; simp [hmem])
    have hlast := lineComment_of_slashes (before ++ code line) hrestBreak after
    have hwhole : before ++ code line ++ '/' :: '/' :: rest ++ after = text := by
      rw [htext, List.append_assoc before, ← hrest]
    rw [hwhole, List.length_append] at hlast
    have hcomment := hlast (hmasked _ (by omega)) (column + last - (code line).length) (by omega)
    have hplace : before.length + (code line).length + (column + last - (code line).length) =
        before.length + column + last := by omega
    rw [hplace] at hcomment
    refine absurd trivial (h.zone .lineComment (List.mem_of_getElem? (i := last) ?_))
    rw [List.getElem?_take_of_lt (by omega), List.getElem?_drop, hcomment]

def Violation.Before (v w : Violation) : Prop :=
  v.path.Before w.path ∨ v.path = w.path ∧ v.line < w.line

theorem Violation.Before.ne {v w : Violation} (h : v.Before w) : v ≠ w := by
  rintro rfl
  rcases h with hpath | ⟨-, hline⟩
  · exact hpath.2 hpath.1
  · exact Nat.lt_irrefl _ hline

theorem pairwise_sourceFiles (h : tree.root.Named) (folder : Path) :
    (sourceFiles tree folder).Pairwise Path.Before := by
  have hsorted : (sourceFiles tree folder).Pairwise fun p q => p.le q = true :=
    List.pairwise_mergeSort Path.le_trans Path.le_total _
  have hfound : ((((tree.walk folder).map (·.1)).filter fun p =>
      p.extension? = some sourceExtension).map Path.parts).Nodup :=
    (tree.nodup_walk h folder).sublist (List.filter_sublist.map Path.parts)
  have hnodup : ((sourceFiles tree folder).map Path.parts).Nodup :=
    ((List.mergeSort_perm _ Path.le).map Path.parts).nodup_iff.mpr hfound
  exact hsorted.imp₂ (fun _ _ => Path.before_of_ne) (List.pairwise_map.mp hnodup)

theorem violations?_of_mem (h : path ∈ sourceFiles tree folder) (violates : String → Bool) :
    violations? tree folder violates =
      some ((sourceFiles tree folder).flatMap (fileViolations tree violates)) := by
  have hwalk : tree.walk folder ≠ [] := by
    intro hnone
    simp [sourceFiles, hnone] at h
  rw [violations?, List.isEmpty_eq_false_iff.mpr hwalk]
  rfl

theorem mem_fileViolations_iff {v : Violation} :
    v ∈ fileViolations tree violates path ↔ v.path = path ∧ violates v.code ∧
      ∃ text, tree.readText path = .ok text ∧ (v.line, v.code) ∈ productionLines text := by
  rw [fileViolations]
  cases tree.readText path with
  | error e => simp
  | ok text =>
    simp only [List.mem_filterMap, Prod.exists, Except.ok.injEq, exists_eq_left']
    constructor
    · rintro ⟨n, shown, hmem, hv⟩
      obtain ⟨hviolates, hv⟩ := Option.ite_none_right_eq_some.mp hv
      cases hv
      exact ⟨rfl, hviolates, hmem⟩
    · rintro ⟨rfl, hviolates, hmem⟩
      exact ⟨v.line, v.code, hmem, by rw [if_pos hviolates]⟩

theorem pairwise_fileViolations (tree : Tree) (violates : String → Bool) (path : Path) :
    (fileViolations tree violates path).Pairwise (·.line < ·.line) := by
  rw [fileViolations]
  cases tree.readText path with
  | error e => exact .nil
  | ok text =>
    refine List.pairwise_filterMap.mpr ((pairwise_productionLines text).imp ?_)
    rintro ⟨m, _⟩ ⟨n, _⟩ hlt v hv w hw
    obtain ⟨-, hv⟩ := Option.ite_none_right_eq_some.mp hv
    obtain ⟨-, hw⟩ := Option.ite_none_right_eq_some.mp hw
    cases hv
    cases hw
    exact hlt

theorem pairwise_reports (h : tree.root.Named) (folder : Path) (violates : String → Bool) :
    ((sourceFiles tree folder).flatMap (fileViolations tree violates)).Pairwise
      Violation.Before := by
  rw [List.pairwise_flatMap]
  constructor
  · intro path _
    refine (pairwise_fileViolations tree violates path).imp_of_mem fun hv hw hlt => .inr ⟨?_, hlt⟩
    exact (mem_fileViolations_iff.mp hv).1.trans (mem_fileViolations_iff.mp hw).1.symm
  · refine (pairwise_sourceFiles h folder).imp fun hpaths v hv w hw => .inl ?_
    rw [(mem_fileViolations_iff.mp hv).1, (mem_fileViolations_iff.mp hw).1]
    exact hpaths

theorem nodup_reports (h : tree.root.Named) (folder : Path) (violates : String → Bool) :
    ((sourceFiles tree folder).flatMap (fileViolations tree violates)).Nodup :=
  (pairwise_reports h folder violates).imp Violation.Before.ne

theorem IsLine.unique {before' line' : List Char} (h : IsLine text n before line)
    (h' : IsLine text n before' line') : line = line' := by
  obtain ⟨m, rfl, hline⟩ := h.getElem?
  obtain ⟨m', hm, hline'⟩ := h'.getElem?
  cases hm
  exact Option.some.inj (hline.symm.trans hline')

theorem filter_reports (h : tree.root.Named) (hpath : path ∈ sourceFiles tree folder)
    {text : String} (htext : tree.readText path = .ok text)
    (hline : IsProduction text.toList n before line) (violates : String → Bool) :
    (((sourceFiles tree folder).flatMap (fileViolations tree violates)).filter fun v =>
        v.path = path ∧ v.line = n) =
      if violates (String.ofList (code line)) then [⟨path, n, String.ofList (code line)⟩] else [] := by
  have hmem (v : Violation) :
      (v ∈ ((sourceFiles tree folder).flatMap (fileViolations tree violates)).filter fun v =>
        v.path = path ∧ v.line = n) ↔
      violates v.code ∧ v = ⟨path, n, String.ofList (code line)⟩ := by
    simp only [List.mem_filter, List.mem_flatMap, mem_fileViolations_iff, decide_eq_true_eq]
    constructor
    · rintro ⟨⟨_, -, rfl, hviolates, text', htext', hshown⟩, rfl, rfl⟩
      cases htext.symm.trans htext'
      obtain ⟨_, line', hline', hcode⟩ := mem_productionLines_iff.mp hshown
      rw [hline.isLine.unique hline'.isLine, ← hcode]
      exact ⟨hviolates, rfl⟩
    · rintro ⟨hviolates, rfl⟩
      have hshown := mem_productionLines_iff.mpr ⟨before, line, hline, rfl⟩
      exact ⟨⟨path, hpath, rfl, hviolates, text, htext, hshown⟩, rfl, rfl⟩
  split
  case isTrue hviolates =>
    have hnodup := (nodup_reports h folder violates).filter fun v =>
      decide (v.path = path ∧ v.line = n)
    refine List.perm_singleton.mp
      ((List.perm_ext_iff_of_nodup hnodup (List.nodup_singleton _)).mpr fun v => ?_)
    rw [hmem, List.mem_singleton]
    exact and_iff_right_of_imp fun hv => hv ▸ hviolates
  case isFalse hallowed =>
    refine List.eq_nil_iff_forall_not_mem.mpr fun v hv => hallowed ?_
    obtain ⟨hviolates, rfl⟩ := (hmem v).mp hv
    exact hviolates

/-- The reports of a check stand in order. A production line of a file is reported once if what is looked
at of it has the needle and not at all otherwise; so it is reported if the needle stands in code and no
masked slashes stand before its end. -/
theorem code_is_reported (h : tree.root.Named) (hpath : path ∈ sourceFiles tree folder)
    {text : String} (htext : tree.readText path = .ok text)
    (hline : IsProduction text.toList n before line) (needle : String) :
    ∃ found, violations? tree folder (fun shown => holds needle.toList shown.toList) = some found ∧
      found.Pairwise Violation.Before ∧
      (found.filter fun v => v.path = path ∧ v.line = n) =
        (if needle.toList <:+: code line then [⟨path, n, String.ofList (code line)⟩] else []) ∧
      ∀ column, InCode text.toList before line needle.toList column →
        (∀ i < column + needle.toList.length, ¬ Masked text.toList (before.length + i)) →
        (found.filter fun v => v.path = path ∧ v.line = n) =
          [⟨path, n, String.ofList (code line)⟩] := by
  have hchecked := filter_reports h hpath htext hline fun shown => holds needle.toList shown.toList
  simp only [String.toList_ofList, holds_iff] at hchecked
  refine ⟨_, violations?_of_mem hpath _, pairwise_reports h folder _, hchecked, ?_⟩
  intro column hcode hmasked
  rw [hchecked, if_pos (hcode.infix_code hline.isLine hmasked)]

def addressText : String := "get(\"http://x\"); thread::sleep(d)\nthread::sleep(d) // again\n"

def addressTree : Tree :=
  { root := .folder [("d", .folder [("a.rs", .file (Utf8.encode addressText))])] }

theorem code_is_reported_commented :
    let before := "get(\"http://x\"); thread::sleep(d)\n".toList
    let line := "thread::sleep(d) // again".toList
    let needle := "::sleep("
    addressTree.root.Named ∧ ⟨"d/a.rs"⟩ ∈ sourceFiles addressTree "d" ∧
      addressTree.readText "d/a.rs" = .ok addressText ∧
      IsProduction addressText.toList 2 before line ∧
      InCode addressText.toList before line needle.toList 6 ∧
      (∀ i < 6 + needle.toList.length, ¬ Masked addressText.toList (before.length + i)) ∧
      ∃ found, violations? addressTree "d" (fun shown => holds needle.toList shown.toList) =
          some found ∧
        (found.filter fun v => v.path = ⟨"d/a.rs"⟩ ∧ v.line = 2) =
          [⟨"d/a.rs", 2, "thread::sleep(d) "⟩] := by
  intro before line needle
  have hfolder : (Entry.folder [("a.rs", .file (Utf8.encode addressText))]).Named :=
    .folder (by decide) (by simpa using ⟨by decide, by decide, by decide⟩) (by simpa using .file)
  have hnamed : addressTree.root.Named :=
    .folder (by decide) (by simpa using ⟨by decide, by decide, by decide⟩) (by simpa using hfolder)
  have hpath : (⟨"d/a.rs"⟩ : Path) ∈ sourceFiles addressTree "d" := by decide +kernel
  have htext : addressTree.readText "d/a.rs" = .ok addressText := by decide +kernel
  have hfirst : '\n' ∉ "get(\"http://x\"); thread::sleep(d)".toList := by decide
  have hsecond : IsLine (line ++ ['\n']) 1 [] line := .first (by decide) (.lineFeed (by decide))
  have hline : IsProduction addressText.toList 2 before line :=
    isProduction_iff.mpr ⟨.next hfirst hsecond, by decide⟩
  have hcode : InCode addressText.toList before line needle.toList 6 := ⟨by decide, by decide⟩
  have hmasked : ∀ i < 6 + needle.toList.length,
      ¬ Masked addressText.toList (before.length + i) := by decide
  obtain ⟨found, hfound, -, -, hreported⟩ := code_is_reported hnamed hpath htext hline needle
  exact ⟨hnamed, hpath, htext, hline, hcode, hmasked, found, hfound, hreported 6 hcode hmasked⟩

/-- Slashes in a literal hide the call behind them. -/
theorem call_behind_address_is_missed :
    let line := "get(\"http://x\"); thread::sleep(d)".toList
    IsProduction addressText.toList 1 [] line ∧
      InCode addressText.toList [] line "::sleep(".toList 23 ∧
      violations? addressTree "d" (fun shown => holds "::sleep(".toList shown.toList) =
        some [⟨"d/a.rs", 2, "thread::sleep(d) "⟩] := by
  intro line
  have hfirst : IsLine (line ++ '\n' :: "thread::sleep(d) // again\n".toList) 1 [] line :=
    .first (by decide) (.lineFeed (by decide))
  exact ⟨isProduction_iff.mpr ⟨hfirst, by decide⟩, ⟨by decide, by decide⟩, by decide +kernel⟩

end TraceView.SourcePolicy
