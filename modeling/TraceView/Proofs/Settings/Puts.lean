import TraceView.Proofs.Number.Widening
import TraceView.Proofs.Toml.Entries
import TraceView.Settings.File

namespace TraceView.FileSettings

open Toml (Document Entries Value)

variable {s t : FileSettings} {key other : SettingKey} {v w : Value}

theorem find?_congr (h : s.doc = t.doc) (key : SettingKey) : s.find? key = t.find? key := by
  rw [find?, find?, section?, section?, h]

def write (s : FileSettings) (key : SettingKey) (v : Value) : FileSettings :=
  { s with
    doc := Entries.insert key.area
      (.table (Entries.insert key.name v ((s.section? key.area).getD []))) s.doc
    dirty := true }

theorem section?_write_self :
    (s.write key v).section? key.area =
      some (Entries.insert key.name v ((s.section? key.area).getD [])) := by
  rw [section?, write, Entries.find?_insert_self]
  rfl

theorem section?_write_of_ne {area : String} (h : area ≠ key.area) :
    (s.write key v).section? area = s.section? area := by
  rw [section?, write, Entries.find?_insert_of_ne h]
  rfl

theorem name_ne (h : other ≠ key) (harea : other.area = key.area) : other.name ≠ key.name := by
  intro hname
  apply h
  obtain ⟨area, name⟩ := other
  cases harea
  cases hname
  rfl

theorem find?_write_self : (s.write key v).find? key = some v := by
  rw [find?, section?_write_self, Option.bind_some, Entries.find?_insert_self]

theorem find?_write_of_ne (h : other ≠ key) : (s.write key v).find? other = s.find? other := by
  by_cases harea : other.area = key.area
  · have hname := name_ne h harea
    rw [find?, find?, harea, section?_write_self, Option.bind_some,
      Entries.find?_insert_of_ne hname]
    cases s.section? key.area <;> rfl
  · rw [find?, find?, section?_write_of_ne harea]

theorem doc_write (s : FileSettings) (key : SettingKey) (v : Value) :
    (s.write key v).doc = Entries.insert key.area
      (.table (Entries.insert key.name v ((s.section? key.area).getD []))) s.doc := rfl

theorem write_write_self : (s.write key v).write key w = s.write key w := by
  have hdoc : ((s.write key v).write key w).doc = (s.write key w).doc := by
    rw [doc_write, doc_write, doc_write, section?_write_self, Option.getD_some,
      Entries.insert_insert, Entries.insert_insert]
  exact congrArg (FileSettings.mk s.path · true) hdoc

theorem write_comm (h : key ≠ other) :
    (s.write key v).write other w = (s.write other w).write key v := by
  have hdoc : ((s.write key v).write other w).doc = ((s.write other w).write key v).doc := by
    rw [doc_write, doc_write, doc_write, doc_write]
    by_cases harea : other.area = key.area
    · have hname := name_ne h.symm harea
      rw [harea, section?_write_self, ← harea, section?_write_self, harea, Option.getD_some,
        Option.getD_some, Entries.insert_insert, Entries.insert_insert, Entries.insert_comm hname]
    · rw [section?_write_of_ne harea, section?_write_of_ne (Ne.symm harea),
        Entries.insert_comm harea]
  exact congrArg (FileSettings.mk s.path · true) hdoc

theorem openSection_of_section? {area : String} {es : Document} (h : s.section? area = some es) :
    openSection s.doc area = (es, s.doc) := by
  obtain ⟨slot, hslot, hes⟩ := Option.bind_eq_some_iff.mp h
  cases slot <;> cases hes
  simp only [openSection, hslot]

theorem openSection_of_none {area : String} (h : s.section? area = none) :
    openSection s.doc area = ([], Entries.insert area (.table []) s.doc) := by
  rw [openSection]
  split
  case h_1 es hslot =>
    rw [section?, hslot] at h
    cases h
  case h_2 => rfl

theorem put_eq (s : FileSettings) (key : SettingKey) (v : Value) :
    s.put key v = if (s.find? key).any (·.same v) then s else s.write key v := by
  cases h : s.section? key.area with
  | none =>
    simp only [put, openSection_of_none h, write, find?, h, Entries.insert_insert]
    rfl
  | some es => simp only [put, openSection_of_section? h, write, find?, h, Option.bind_some,
      Option.getD_some]

theorem put_of_same {old : Value} (h : s.find? key = some old) (hsame : old.same v = true) :
    s.put key v = s := by
  rw [put_eq, h, Option.any_some, if_pos hsame]

theorem put_cases (s : FileSettings) (key : SettingKey) (v : Value) :
    (∃ old, s.find? key = some old ∧ old.same v = true ∧ s.put key v = s) ∨
      s.put key v = s.write key v := by
  cases h : s.find? key with
  | none => exact .inr (by rw [put_eq, h]; rfl)
  | some old =>
    cases hsame : old.same v with
    | true => exact .inl ⟨old, rfl, hsame, put_of_same h hsame⟩
    | false => exact .inr (by rw [put_eq, h, Option.any_some, hsame]; rfl)

theorem put_clean (h : (s.put key v).dirty = false) : s.put key v = s := by
  rcases put_cases s key v with ⟨old, -, -, hput⟩ | hput
  · exact hput
  · rw [hput] at h
    cases h

theorem path_put (s : FileSettings) (key : SettingKey) (v : Value) : (s.put key v).path = s.path := by
  rcases put_cases s key v with ⟨old, -, -, hput⟩ | hput <;> rw [hput]
  rfl

theorem doc_put_congr (h : s.doc = t.doc) (key : SettingKey) (v : Value) :
    (s.put key v).doc = (t.put key v).doc := by
  rw [put_eq, put_eq, find?_congr h]
  split
  · exact h
  · rw [doc_write, doc_write, section?, section?, h]

theorem find?_put_of_ne (h : other ≠ key) : (s.put key v).find? other = s.find? other := by
  rcases put_cases s key v with ⟨old, -, -, hput⟩ | hput <;> rw [hput]
  exact find?_write_of_ne h

theorem entry_put_of_ne {area : String} (h : area ≠ key.area) :
    Entries.find? (s.put key v).doc area = Entries.find? s.doc area := by
  rcases put_cases s key v with ⟨old, -, -, hput⟩ | hput <;> rw [hput]
  exact Entries.find?_insert_of_ne h _ _

theorem isSome_section?_put {area : String} (h : (s.section? area).isSome) :
    ((s.put key v).section? area).isSome := by
  rcases put_cases s key v with ⟨old, -, -, hput⟩ | hput <;> rw [hput]
  · exact h
  · by_cases harea : area = key.area
    · rw [harea, section?_write_self]
      rfl
    · rw [section?_write_of_ne harea]
      exact h

theorem put_comm (s : FileSettings) (h : key ≠ other) (v w : Value) :
    (s.put key v).put other w = (s.put other w).put key v := by
  have hkey : (s.put other w).find? key = s.find? key := find?_put_of_ne h
  have hother : (s.put key v).find? other = s.find? other := find?_put_of_ne h.symm
  rw [put_eq (s.put key v), hother, put_eq (s.put other w), hkey, put_eq s key v, put_eq s other w]
  split <;> split <;> first | rfl | exact write_comm h

/-- Putting the value there would change nothing in the document. -/
def Settled (s : FileSettings) (key : SettingKey) (v : Value) : Prop := (s.put key v).doc = s.doc

theorem Settled.congr (h : s.Settled key v) (hdoc : t.doc = s.doc) : t.Settled key v :=
  (doc_put_congr hdoc key v).trans (h.trans hdoc.symm)

theorem Settled.put (h : s.Settled key v) (hne : other ≠ key) : (s.put other w).Settled key v := by
  rw [Settled, put_comm s hne]
  exact doc_put_congr h other w

theorem settled_of_same {old : Value} (h : s.find? key = some old) (hsame : old.same v = true) :
    s.Settled key v := congrArg doc (put_of_same h hsame)

theorem settled_write : (s.write key v).Settled key v := by
  rw [Settled, put_eq]
  split
  · rfl
  · rw [write_write_self]

def puts (s : FileSettings) (ps : List (SettingKey × Value)) : FileSettings :=
  ps.foldl (fun s p => s.put p.1 p.2) s

section Puts

variable {ps : List (SettingKey × Value)}

theorem puts_append (s : FileSettings) (ps qs : List (SettingKey × Value)) :
    s.puts (ps ++ qs) = (s.puts ps).puts qs := List.foldl_append

theorem puts_clean (h : (s.puts ps).dirty = false) : s.puts ps = s := by
  induction ps generalizing s with
  | nil => rfl
  | cons p ps ih =>
    have hrest : s.puts (p :: ps) = s.put p.1 p.2 := ih h
    rw [hrest] at h ⊢
    exact put_clean h

theorem path_puts (s : FileSettings) (ps : List (SettingKey × Value)) :
    (s.puts ps).path = s.path := by
  induction ps generalizing s with
  | nil => rfl
  | cons p ps ih => exact (ih _).trans (path_put s p.1 p.2)

theorem find?_puts_of_not_mem (h : key ∉ ps.map Prod.fst) : (s.puts ps).find? key = s.find? key := by
  induction ps generalizing s with
  | nil => rfl
  | cons p ps ih =>
    rw [List.map_cons, List.mem_cons, not_or] at h
    exact (ih h.2).trans (find?_put_of_ne h.1)

theorem entry_puts_of_ne {area : String} (h : ∀ p ∈ ps, p.1.area ≠ area) :
    Entries.find? (s.puts ps).doc area = Entries.find? s.doc area := by
  induction ps generalizing s with
  | nil => rfl
  | cons p ps ih =>
    rw [List.forall_mem_cons] at h
    exact (ih h.2).trans (entry_put_of_ne (Ne.symm h.1))

theorem isSome_section?_puts {area : String} (h : (s.section? area).isSome) :
    ((s.puts ps).section? area).isSome := by
  induction ps generalizing s with
  | nil => exact h
  | cons p ps ih => exact ih (isSome_section?_put h)

theorem Settled.puts (h : s.Settled key v) (hkey : key ∉ ps.map Prod.fst) :
    (s.puts ps).Settled key v := by
  induction ps generalizing s with
  | nil => exact h
  | cons p ps ih =>
    rw [List.map_cons, List.mem_cons, not_or] at hkey
    exact ih (h.put (Ne.symm hkey.1)) hkey.2

theorem puts_of_mem (hkeys : (ps.map Prod.fst).Nodup) (h : (key, v) ∈ ps) :
    ∃ t : FileSettings, (s.puts ps).find? key = (t.put key v).find? key ∧
      ∀ w, (t.put key v).Settled key w → (s.puts ps).Settled key w := by
  induction ps generalizing s with
  | nil => cases h
  | cons p ps ih =>
    rw [List.map_cons, List.nodup_cons] at hkeys
    rcases List.mem_cons.mp h with rfl | h
    · exact ⟨s, find?_puts_of_not_mem hkeys.1, fun w hw => hw.puts hkeys.1⟩
    · exact ih hkeys.2 h

theorem doc_puts_of_settled (h : ∀ p ∈ ps, s.Settled p.1 p.2) : (s.puts ps).doc = s.doc := by
  induction ps generalizing s with
  | nil => rfl
  | cons p ps ih =>
    rw [List.forall_mem_cons] at h
    exact (ih fun q hq => (h.2 q hq).congr h.1).trans h.1

end Puts

end TraceView.FileSettings
