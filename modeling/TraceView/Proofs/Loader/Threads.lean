import TraceView.Loader.Threads
import TraceView.Proofs.Log.Sends
import Mathlib.Data.List.Forall2

namespace TraceView

def Scan.closingEntry (tree : Tree) (path : Path) : PaletteEntry :=
  match (Scan.run tree path).2 with
  | .ok s => Scan.summaryEntry s
  | .error cause => Scan.failureEntry path cause

namespace Loader

def script (l : Loader) : List PaletteEntry := l.unsent ++ l.failure?.toList

theorem report?_of_not_crashed {l : Loader} (h : l.outcome ≠ .crashed) (filter : Filter)
    (palette : Palette) : l.report? filter palette = l.failure?.map (· palette) := by
  unfold report? failure?
  cases houtcome : l.outcome with
  | loaded s => rfl
  | failed cause => rfl
  | crashed => exact absurd houtcome h

theorem script_start (tree : Tree) (path : Path) : ∃ lines, (start tree path).script =
    Scan.startEntry path (tree.size path) :: Scan.progressEntries path lines ++
      [Scan.closingEntry tree path] := by
  unfold start Scan.closingEntry Scan.run
  cases tree.read path with
  | error cause => exact ⟨0, rfl⟩
  | ok content => exact ⟨_, List.append_nil _⟩

end Loader

def PaletteEntry.Writes (entry : PaletteEntry) (r : Stamped RichText) : Prop :=
  ∃ palette, r.entry = entry palette

/-- By then what is logged of the loaders taken out has come to the entries, unless the update has
still to merge it. -/
def UpdatePlace.Settles (place : UpdatePlace) (log : LogMachine RichText)
    (rs : List (Stamped RichText)) : Prop :=
  match place with
  | .polling _ (_ + 1) => True
  | .settling => log.Gathers rs
  | _ => rs.Sublist log.shown

theorem UpdatePlace.Settles.step {place : UpdatePlace} {log : LogMachine RichText}
    {rs : List (Stamped RichText)} (h : place.Settles log rs) (hsound : log.Sound)
    (a : LogAction RichText) : place.Settles (log.step a) rs := by
  have hshown (hs : rs.Sublist log.shown) : rs.Sublist (log.step a).shown :=
    hs.trans (hsound.grows_step a).shown.sublist
  cases place with
  | outside => exact hshown h
  | merging => exact hshown h
  | polling k done =>
    cases done with
    | zero => exact hshown h
    | succ done => trivial
  | settling => exact LogMachine.Gathers.step h hsound a

namespace LoaderThread

variable {log : LogMachine RichText} {origin : Loader} {w : Writer} {place : UpdatePlace}
  {t : LoaderThread}

/-- A thread that has not been taken out yet, begun as `origin`. -/
structure Underway (log : LogMachine RichText) (origin : Loader) (w : Writer) (t : LoaderThread) :
    Prop where
  ends : t.loader.ended = true → t.loader.unsent = [] ∧ log.place w = .idle
  course : t.loader.outcome ≠ .crashed → t.loader.outcome = origin.outcome ∧
    ∃ done, origin.script = done ++ t.loader.script ∧
      List.Forall₂ PaletteEntry.Writes done t.records
  tracked : log.Tracked w t.records

structure Taken (place : UpdatePlace) (log : LogMachine RichText) (origin : Loader)
    (t : LoaderThread) : Prop where
  ended : t.loader.ended = true
  course : t.loader.outcome ≠ .crashed → t.loader.outcome = origin.outcome ∧
    List.Forall₂ PaletteEntry.Writes origin.script t.records
  tracked : log.Tracked .owner t.records
  settles : place.Settles log t.records

def Owns (log : LogMachine RichText) (w : Writer) (t : LoaderThread) : Prop :=
  ∀ r, log.Brought r → r.writer = w → r ∈ t.records

/-- What is known of a thread, taken out or not. -/
structure Stands (out : Prop) (place : UpdatePlace) (log : LogMachine RichText) (origin : Loader)
    (w : Writer) (t : LoaderThread) : Prop where
  owns : t.Owns log w
  underway : ¬ out → t.Underway log origin w
  taken : out → t.Taken place log origin

namespace Owns

theorem start (w : Writer) (t : LoaderThread) : Owns {} w t := by
  intro r hr _
  cases hr with
  | inl hr => cases hr
  | inr hr => exact absurd hr.choose_spec nofun

theorem weaken (h : Owns log w t) {t' : LoaderThread} (ht : t.records ⊆ t'.records) :
    Owns log w t' := fun r hr hw => ht (h r hr hw)

theorem step (h : Owns log w t) {a : LogAction RichText} (ha : a.caller? ≠ some w) :
    Owns (log.step a) w t := by
  intro r hr hw
  cases hr.of_step with
  | inl hr => exact h r hr hw
  | inr hr => exact absurd (hw ▸ hr) ha

theorem send (h : Owns log w t) (loader : Loader) (entry : RichText) :
    Owns (log.call w (.send entry)) w
      { loader, records := t.records ++ [⟨log.calls, w, entry⟩] } := by
  intro r hr hw
  cases hr.of_call with
  | inl hr => exact List.mem_append_left _ (h r hr hw)
  | inr hr =>
    obtain ⟨entry', rfl, hcall | hcall⟩ := hr
    · cases hcall
      exact List.mem_append_right _ (List.mem_singleton_self _)
    · cases hcall

end Owns

namespace Underway

theorem start (origin : Loader) (h : origin.ended = false) (w : Writer) :
    Underway {} origin w { loader := origin } where
  ends hended := by simp [h] at hended
  course _ := ⟨rfl, [], rfl, .nil⟩
  tracked := ⟨List.nil_sublist _, nofun⟩

theorem settled (h : Underway log origin w t) (hidle : log.place w = .idle) :
    log.Settled t.records :=
  h.tracked.settled (by rw [hidle]; rfl)

theorem step (h : Underway log origin w t) (hsound : log.Sound) (hpresent : log.Present)
    {a : LogAction RichText} (ha : a.caller? ≠ some w) : Underway (log.step a) origin w t where
  ends hended := by
    obtain ⟨hunsent, hidle⟩ := h.ends hended
    exact ⟨hunsent, LogMachine.place_idle_step hidle ha⟩
  course := h.course
  tracked := h.tracked.step hsound hpresent a

theorem send (h : Underway log origin w t) (hidle : log.place w = .idle)
    (hrunning : t.loader.ended = false) {entry : PaletteEntry} {unsent : List PaletteEntry}
    (hunsent : t.loader.unsent = entry :: unsent) (palette : Palette) :
    Underway (log.call w (.send (entry palette))) origin w
      { loader := { t.loader with unsent }
        records := t.records ++ [⟨log.calls, w, entry palette⟩] } where
  ends hended := by simp [hrunning] at hended
  course hcrashed := by
    obtain ⟨houtcome, done, hscript, hdone⟩ := h.course hcrashed
    refine ⟨houtcome, done ++ [entry], ?_, ?_⟩
    · rw [hscript, Loader.script, hunsent, List.append_assoc]
      rfl
    · exact List.rel_append hdone (.cons ⟨palette, rfl⟩ .nil)
  tracked := (h.settled hidle).send hidle (entry palette)

theorem course_of_ended (h : Underway log origin w t) (hended : t.loader.ended = true)
    (hcrashed : t.loader.outcome ≠ .crashed) : t.loader.outcome = origin.outcome ∧
      ∃ done, origin.script = done ++ t.loader.failure?.toList ∧
        List.Forall₂ PaletteEntry.Writes done t.records := by
  obtain ⟨houtcome, done, hscript, hdone⟩ := h.course hcrashed
  refine ⟨houtcome, done, ?_, hdone⟩
  rw [hscript, Loader.script, (h.ends hended).1, List.nil_append]

theorem take (h : Underway log origin w t) (hended : t.loader.ended = true)
    {filter : Filter} {palette : Palette} (hreport : t.loader.report? filter palette = none)
    (k done : Nat) : Taken (.polling k (done + 1)) log origin t where
  ended := hended
  course hcrashed := by
    obtain ⟨houtcome, sent, hscript, hsent⟩ := h.course_of_ended hended hcrashed
    rw [Loader.report?_of_not_crashed hcrashed, Option.map_eq_none_iff] at hreport
    rw [hreport, Option.toList_none, List.append_nil] at hscript
    exact ⟨houtcome, hscript ▸ hsent⟩
  tracked := (h.settled (h.ends hended).2).tracked .owner
  settles := trivial

theorem report (h : Underway log origin w t) (hended : t.loader.ended = true)
    (hidle : log.place .owner = .idle) {filter : Filter} {palette : Palette} {entry : RichText}
    (hreport : t.loader.report? filter palette = some entry) (k done : Nat) :
    Taken (.polling k (done + 1)) (log.call .owner (.send entry)) origin
      { t with records := t.records ++ [⟨log.calls, .owner, entry⟩] } where
  ended := hended
  course hcrashed := by
    obtain ⟨houtcome, sent, hscript, hsent⟩ := h.course_of_ended hended hcrashed
    rw [Loader.report?_of_not_crashed hcrashed, Option.map_eq_some_iff] at hreport
    obtain ⟨failure, hfailure, hentry⟩ := hreport
    rw [hfailure, Option.toList_some] at hscript
    rw [hscript]
    exact ⟨houtcome, List.rel_append hsent (.cons ⟨palette, hentry.symm⟩ .nil)⟩
  tracked := (h.settled (h.ends hended).2).send hidle entry
  settles := trivial

end Underway

namespace Taken

theorem settled (h : Taken place log origin t) (hidle : log.place .owner = .idle) :
    log.Settled t.records :=
  h.tracked.settled (by rw [hidle]; rfl)

theorem step (h : Taken place log origin t) (hsound : log.Sound) (hpresent : log.Present)
    (a : LogAction RichText) : Taken place (log.step a) origin t where
  ended := h.ended
  course := h.course
  tracked := h.tracked.step hsound hpresent a
  settles := h.settles.step hsound a

end Taken

theorem Stands.step {out : Prop} (h : Stands out place log origin w t) (hsound : log.Sound)
    (hpresent : log.Present) {a : LogAction RichText} (ha : a.caller? ≠ some w) :
    Stands out place (log.step a) origin w t where
  owns := h.owns.step ha
  underway hout := (h.underway hout).step hsound hpresent ha
  taken hout := (h.taken hout).step hsound hpresent a

end LoaderThread

end TraceView
