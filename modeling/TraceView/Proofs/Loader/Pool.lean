import TraceView.Loader.Threads

namespace TraceView

namespace Loader

def summary? (l : Loader) : Option LoadSummary :=
  match l.outcome with
  | .loaded s => some s
  | _ => none

inductive Reported (filter : Filter) (l : Loader) : List RichText → Prop
  | loaded {s : LoadSummary} (h : l.outcome = .loaded s) : Reported filter l []
  | failed {cause : FileError} (h : l.outcome = .failed cause) (palette : Palette) :
    Reported filter l [Scan.failureEntry l.path cause palette]
  | crashed (h : l.outcome = .crashed)
    (hadmits : filter.admits (Notice.loaderCrashed l.path).event = true) (palette : Palette) :
    Reported filter l [(Notice.loaderCrashed l.path).event.entry palette false]
  | hushed (h : l.outcome = .crashed)
    (hadmits : filter.admits (Notice.loaderCrashed l.path).event = false) : Reported filter l []

theorem reported_report? (l : Loader) (filter : Filter) (palette : Palette) :
    Reported filter l (l.report? filter palette).toList := by
  unfold report?
  cases h : l.outcome with
  | loaded s => exact .loaded h
  | failed cause => exact .failed h palette
  | crashed =>
    dsimp only
    split
    case isTrue hadmits => exact .crashed h hadmits palette
    case isFalse hadmits => exact .hushed h (Bool.not_eq_true _ ▸ hadmits)

end Loader

namespace LoaderPool

variable {p p' p'' : LoaderPool} {taken more : List Loader}

structure Counted (p : LoaderPool) (taken : List Loader) (p' : LoaderPool) : Prop where
  finished : p'.finished = p.finished ++ taken.filterMap Loader.summary?
  failed : p'.failed = p.failed + taken.countP (·.summary?.isNone)

theorem count_running (p : LoaderPool) (running : List Loader) (l : Loader) :
    count { p with running } l = { p.count l with running } := by
  unfold count
  cases l.outcome <;> rfl

theorem foldl_count_running (ls : List Loader) (p : LoaderPool) (running : List Loader) :
    ls.foldl count { p with running } = { ls.foldl count p with running } := by
  induction ls generalizing p with
  | nil => rfl
  | cons l ls ih =>
    rw [List.foldl_cons, count_running, ih]
    rfl

theorem counted_count (p : LoaderPool) (l : Loader) : Counted p [l] (p.count l) := by
  unfold count
  cases h : l.outcome <;> constructor <;> simp [Loader.summary?, h]

namespace Counted

theorem trans (h : Counted p taken p') (h' : Counted p' more p'') :
    Counted p (taken ++ more) p'' where
  finished := by
    rw [h'.finished, h.finished, List.filterMap_append, List.append_assoc]
  failed := by
    rw [h'.failed, h.failed, List.countP_append, Nat.add_assoc]

theorem foldl (p : LoaderPool) (running ls : List Loader) :
    Counted p ls (ls.foldl count { p with running }) := by
  induction ls generalizing p with
  | nil => exact ⟨(List.append_nil _).symm, rfl⟩
  | cons l ls ih =>
    rw [List.foldl_cons, count_running]
    exact (counted_count p l).trans (ih (p.count l))

theorem length (h : Counted p taken p') :
    p'.finished.length + p'.failed = p.finished.length + p.failed + taken.length := by
  have htaken : taken.length =
      (taken.filterMap Loader.summary?).length + taken.countP (·.summary?.isNone) := by
    rw [List.length_filterMap_eq_countP, List.length_eq_countP_add_countP (·.summary?.isSome)]
    simp only [Bool.not_eq_true, Option.isSome_eq_false_iff, Bool.decide_eq_true]
  rw [h.finished, h.failed, List.length_append, htaken]
  omega

end Counted

theorem lastFirst_map {α β : Type} (f : α → β) (as : List α) :
    lastFirst (as.map f) = (lastFirst as).map f := by
  cases as with
  | nil => rfl
  | cons a as =>
    have hlast : (f a :: as.map f).getLast (by simp) = f ((a :: as).getLast (by simp)) :=
      List.getLast_map (l := a :: as) (by simp)
    simp [lastFirst, hlast]

theorem perm_lastFirst {α : Type} (as : List α) : (lastFirst as).Perm as := by
  cases as with
  | nil => exact .refl _
  | cons a as =>
    calc (a :: as).getLast (by simp) :: (a :: as).dropLast
      List.Perm _ ((a :: as).dropLast ++ [(a :: as).getLast (by simp)]) := by
        exact (List.perm_append_singleton _ _).symm
      _ = a :: as := List.dropLast_append_getLast _

theorem sift_of_none {ls : List Loader} (h : (sift ls).1 = []) : (sift ls).2 = ls := by
  induction ls with
  | nil => rw [sift]
  | cons l ls ih =>
    rw [sift] at h ⊢
    split at h
    · cases h
    · rw [if_neg ‹_›]
      exact congrArg _ (ih h)

end LoaderPool

end TraceView
