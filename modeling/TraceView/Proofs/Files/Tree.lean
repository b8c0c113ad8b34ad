import TraceView.Files.Tree

namespace TraceView

theorem lookup_replace (es : List (String × Entry)) (n k : String) (a : Entry) :
    (es.map fun (m, e) => if m = n then (m, a) else (m, e)).lookup k =
      if k = n then (es.lookup k).map fun _ => a else es.lookup k := by
  induction es with
  | nil => simp
  | cons e es ih =>
    obtain ⟨m, e⟩ := e
    have hhead : (if m = n then (m, a) else (m, e)) = (m, if m = n then a else e) := by
      split <;> rfl
    simp only [List.map_cons, hhead, List.lookup_cons]
    by_cases hk : k = m
    · subst hk
      simp only [beq_self_eq_true]
      split <;> rfl
    · rw [beq_false_of_ne hk]
      exact ih

namespace Entry

theorem get?_append (e : Entry) (place rest : List String) :
    e.get? (place ++ rest) = (e.get? place).bind (get? rest) := by
  induction place generalizing e with
  | nil => rfl
  | cons n ns ih =>
    cases e with
    | file content => rfl
    | folder es =>
      simp only [List.cons_append, get?]
      cases es.lookup n with
      | none => rfl
      | some child => exact ih child

theorem isSome_lookup {e child : Entry} {place : List String} {es : List (String × Entry)}
    {name : String} (hfolder : e.get? place = some (.folder es))
    (hchild : e.get? (place ++ [name]) = some child) : (es.lookup name).isSome := by
  rw [get?_append, hfolder, Option.bind_some, get?] at hchild
  obtain ⟨entry, hlookup, -⟩ := Option.bind_eq_some_iff.mp hchild
  rw [hlookup]
  rfl

theorem put_folder (es : List (String × Entry)) (n : String) (ns : List String) (new : Entry) :
    ∃ es', put (.folder es) (n :: ns) new = .folder es' ∧
      ∀ name, (es.lookup name).isSome → (es'.lookup name).isSome := by
  simp only [put]
  split
  · refine ⟨_, rfl, fun name hname => ?_⟩
    rw [lookup_replace]
    split <;> simp [hname]
  · split
    · refine ⟨_, rfl, fun name hname => ?_⟩
      simp [List.lookup_append, hname]
    · exact ⟨_, rfl, fun _ hname => hname⟩

theorem get?_put_folder (es : List (String × Entry)) (n m : String) (ns ms : List String)
    (new : Entry) :
    (put (.folder es) (n :: ns) new).get? (m :: ms) =
      if m = n then
        match es.lookup n with
        | some child => (child.put ns new).get? ms
        | none => if ns.isEmpty then new.get? ms else none
      else (es.lookup m).bind (get? ms) := by
  by_cases hm : m = n
  · subst hm
    rw [if_pos rfl]
    cases h : es.lookup m with
    | some child => simp [put, h, get?, lookup_replace]
    | none => by_cases hns : ns.isEmpty <;> simp [put, h, get?, List.lookup_append, hns]
  · rw [if_neg hm]
    cases h : es.lookup n with
    | some child => simp [put, h, get?, lookup_replace, hm]
    | none => by_cases hns : ns.isEmpty <;>
        simp [put, h, get?, List.lookup_append, List.lookup_cons, beq_false_of_ne hm, hns]

theorem get?_put {e : Entry} {place : List String} (h : (e.get? place).isSome) (new : Entry) :
    (e.put place new).get? place = some new := by
  induction place generalizing e with
  | nil => cases e <;> rfl
  | cons n ns ih =>
    cases e with
    | file content => cases h
    | folder es =>
      rw [get?_put_folder, if_pos rfl]
      cases hn : es.lookup n with
      | none => rw [get?, hn] at h; cases h
      | some child => rw [get?, hn] at h; exact ih h

theorem get?_put_new {e : Entry} {place : List String} {es : List (String × Entry)}
    (h : e.get? place = some (.folder es)) (name : String) (new : Entry) :
    (e.put (place ++ [name]) new).get? (place ++ [name]) = some new := by
  induction place generalizing e with
  | nil =>
    cases h
    rw [List.nil_append, get?_put_folder, if_pos rfl]
    cases es.lookup name <;> rfl
  | cons n ns ih =>
    cases e with
    | file content => cases h
    | folder fs =>
      obtain ⟨child, hn, hchild⟩ := Option.bind_eq_some_iff.mp h
      rw [List.cons_append, get?_put_folder, if_pos rfl, hn]
      exact ih hchild

theorem folder_put {e : Entry} {place : List String} (h : ∀ fs, e.get? place ≠ some (.folder fs))
    (new : Entry) {other : List String} {es : List (String × Entry)}
    (hother : e.get? other = some (.folder es)) :
    ∃ es', (e.put place new).get? other = some (.folder es') ∧
      ∀ name, (es.lookup name).isSome → (es'.lookup name).isSome := by
  induction place generalizing e other with
  | nil =>
    cases e with
    | file content => cases other <;> cases hother
    | folder fs => exact absurd rfl (h fs)
  | cons n ns ih =>
    cases e with
    | file content => exact ⟨es, hother, fun _ h => h⟩
    | folder fs =>
      cases other with
      | nil =>
        cases hother
        obtain ⟨es', hput, hmore⟩ := put_folder es n ns new
        exact ⟨es', congrArg some hput, hmore⟩
      | cons m ms =>
        obtain ⟨child, hm, hchild⟩ := Option.bind_eq_some_iff.mp hother
        rw [get?_put_folder]
        split
        case isTrue hmn =>
          subst hmn
          rw [hm]
          refine ih (fun gs hgs => h gs ?_) hchild
          rw [get?, hm]
          exact hgs
        case isFalse => exact ⟨es, hother, fun _ h => h⟩

theorem file_put {e : Entry} {place : List String} (h : e.get? place = none)
    (new : Entry) {other : List String} {content : Bytes}
    (hother : e.get? other = some (.file content)) :
    (e.put place new).get? other = some (.file content) := by
  induction place generalizing e other with
  | nil => cases h
  | cons n ns ih =>
    cases e with
    | file content => exact hother
    | folder fs =>
      cases other with
      | nil => cases hother
      | cons m ms =>
        obtain ⟨child, hm, hchild⟩ := Option.bind_eq_some_iff.mp hother
        rw [get?_put_folder]
        split
        case isTrue hmn =>
          subst hmn
          rw [hm]
          refine ih ?_ hchild
          rw [get?, hm] at h
          exact h
        case isFalse => exact hother

end Entry

namespace Tree

variable {t t' t'' : Tree}

/-- No folder is gone or smaller. -/
structure Spreads (t t' : Tree) : Prop where
  working : t'.working = t.working
  folder : ∀ place es, t.root.get? place = some (.folder es) →
    ∃ es', t'.root.get? place = some (.folder es') ∧
      ∀ name, (es.lookup name).isSome → (es'.lookup name).isSome

theorem spreads_put {place : List String} (h : ∀ es, t.root.get? place ≠ some (.folder es))
    (new : Entry) : Spreads t (t.put place new) :=
  ⟨rfl, fun _ _ hother => Entry.folder_put h new hother⟩

theorem follow_cons_iff {place target : List String} {part : String} {rest : List String} :
    t.follow place (part :: rest) = .ok target ↔
      ∃ es, t.root.get? place = some (.folder es) ∧ ¬255 < part.utf8ByteSize ∧
        (part = ".." ∨ (es.lookup part).isSome) ∧
        t.follow (if part = ".." then place.dropLast else place ++ [part]) rest = .ok target := by
  rw [follow]
  split
  case h_1 es hfolder =>
    simp only [hfolder, Option.some.injEq, Entry.folder.injEq, exists_eq_left']
    by_cases hlong : 255 < part.utf8ByteSize
    · rw [if_pos hlong]
      exact ⟨nofun, fun h => absurd hlong h.1⟩
    rw [if_neg hlong]
    by_cases hup : part = ".."
    · rw [if_pos hup, if_pos hup]
      exact ⟨fun h => ⟨hlong, .inl hup, h⟩, fun h => h.2.2⟩
    rw [if_neg hup, if_neg hup]
    by_cases hthere : (es.lookup part).isSome
    · rw [if_pos hthere]
      exact ⟨fun h => ⟨hlong, .inr hthere, h⟩, fun h => h.2.2⟩
    · rw [if_neg hthere]
      exact ⟨nofun, fun h => absurd h.2.1 (not_or.mpr ⟨hup, hthere⟩)⟩
  case h_2 hfile => simp [hfile]
  case h_3 hnone => simp [hnone]

theorem follow_append {place target goal : List String} {parts rest : List String}
    (h : t.follow place parts = .ok target) (hrest : t.follow target rest = .ok goal) :
    t.follow place (parts ++ rest) = .ok goal := by
  induction parts generalizing place with
  | nil =>
    cases h
    exact hrest
  | cons part parts ih =>
    obtain ⟨es, hfolder, hlong, hthere, hnext⟩ := follow_cons_iff.mp h
    exact follow_cons_iff.mpr ⟨es, hfolder, hlong, hthere, ih hnext⟩

theorem Spreads.follow (h : Spreads t t') {place target : List String} {parts : List String}
    (hfollow : t.follow place parts = .ok target) : t'.follow place parts = .ok target := by
  induction parts generalizing place with
  | nil => exact hfollow
  | cons part rest ih =>
    obtain ⟨es, hfolder, hlong, hthere, hnext⟩ := follow_cons_iff.mp hfollow
    obtain ⟨es', hfolder', hmore⟩ := h.folder place es hfolder
    exact follow_cons_iff.mpr ⟨es', hfolder', hlong, hthere.imp_right (hmore part), ih hnext⟩

structure Reachable (p : Path) : Prop where
  noNul : p.hasNul = false
  nonempty : p.isEmpty = false
  short : p.isTooLong = false
  noFolder : p.namesFolder = false

theorem find_file_iff {p : Path} {place : List String} {content : Bytes} :
    t.find p = .ok (place, .file content) ↔ Reachable p ∧
      t.follow (t.start p) p.parts = .ok place ∧ t.root.get? place = some (.file content) := by
  constructor
  · intro h
    rw [find] at h
    split at h
    · cases h
    split at h
    · cases h
    split at h
    · cases h
    rename_i hnul hempty hlong
    cases hfollow : t.follow (t.start p) p.parts with
    | error e => rw [hfollow] at h; cases h
    | ok target =>
      rw [hfollow] at h
      simp only [bind, Except.bind] at h
      split at h
      · cases h
      · rename_i hfile
        split at h
        · cases h
        · rename_i hslash
          cases h
          exact ⟨⟨by simpa using hnul, by simpa using hempty, by simpa using hlong,
            by simpa using hslash⟩, rfl, hfile⟩
      · cases h
  · rintro ⟨⟨hnul, hempty, hlong, hslash⟩, hfollow, hfile⟩
    simp [find, hnul, hempty, hlong, hfollow, hfile, hslash, bind, Except.bind]

theorem site_ok {p : Path} {place : List String} {name : String}
    (h : t.site p = .ok (place, name)) :
    (p.hasNul = false ∧ p.isTooLong = false ∧ p.parts.getLast? = some name) ∧
      t.follow (t.start p) p.parts.dropLast = .ok place ∧ ¬255 < name.utf8ByteSize ∧
      ∃ es, t.root.get? place = some (.folder es) := by
  rw [site] at h
  split at h
  · cases h
  split at h
  · cases h
  split at h
  · cases h
  rename_i hnul hlong _ name' hlast
  cases hfollow : t.follow (t.start p) p.parts.dropLast with
  | error e => rw [hfollow] at h; cases h
  | ok target =>
    rw [hfollow] at h
    simp only [bind, Except.bind] at h
    split at h
    case h_1 es hfolder =>
      split at h
      · cases h
      · rename_i hname
        cases h
        exact ⟨⟨by simpa using hnul, by simpa using hlong, hlast⟩, rfl, hname, es, hfolder⟩
    all_goals cases h

theorem nonempty_of_part {p : Path} {name : String} (h : p.parts.getLast? = some name) :
    p.isEmpty = false := by
  obtain ⟨text⟩ := p
  refine Bool.eq_false_iff.mpr fun hempty => ?_
  have htext : text = "" := String.isEmpty_iff.mp hempty
  subst htext
  cases h

theorem follow_site {p : Path} {place : List String} {name : String} {es : List (String × Entry)}
    (hlast : p.parts.getLast? = some name)
    (hfollow : t.follow (t.start p) p.parts.dropLast = .ok place)
    (hfolder : t.root.get? place = some (.folder es)) (hname : ¬255 < name.utf8ByteSize)
    (hup : name ≠ "..") (hthere : (es.lookup name).isSome) :
    t.follow (t.start p) p.parts = .ok (place ++ [name]) := by
  obtain ⟨init, hparts⟩ := List.getLast?_eq_some_iff.mp hlast
  rw [hparts, List.dropLast_concat] at hfollow
  rw [hparts]
  refine follow_append hfollow (follow_cons_iff.mpr ⟨es, hfolder, hname, .inr hthere, ?_⟩)
  rw [if_neg hup]
  rfl

theorem no_folder_at_site {p : Path} {place : List String} {name : String}
    (hfind : t.find p = .error .notFound) (hsite : t.site p = .ok (place, name))
    (hup : name ≠ "..") (fs : List (String × Entry)) :
    t.root.get? (place ++ [name]) ≠ some (.folder fs) := by
  intro hget
  obtain ⟨⟨hnul, hlong, hlast⟩, hfollow, hname, es, hfolder⟩ := site_ok hsite
  have hwhole := follow_site hlast hfollow hfolder hname hup (Entry.isSome_lookup hfolder hget)
  simp [find, hnul, nonempty_of_part hlast, hlong, hwhole, hget, bind, Except.bind] at hfind

theorem find_write {p : Path} {content : Bytes} (h : t.write p content = .ok t') :
    ∃ place, t'.find p = .ok (place, .file content) := by
  rw [write] at h
  split at h
  case h_1 place old hfind =>
    cases h
    obtain ⟨hpath, hfollow, hfile⟩ := find_file_iff.mp hfind
    have hspreads : Spreads t (t.put place (.file content)) :=
      spreads_put (fun es hes => by rw [hfile] at hes; cases hes) _
    refine ⟨place, find_file_iff.mpr ⟨hpath, hspreads.follow hfollow, ?_⟩⟩
    exact Entry.get?_put (by rw [hfile]; rfl) _
  case h_2 => cases h
  case h_3 hfind =>
    cases hsite : t.site p with
    | error e => rw [hsite] at h; cases h
    | ok target =>
      obtain ⟨place, name⟩ := target
      rw [hsite] at h
      simp only [bind, Except.bind] at h
      split at h
      · cases h
      split at h
      · cases h
      rename_i hnew
      cases h
      simp only [Bool.or_eq_true, decide_eq_true_eq, not_or] at hnew
      obtain ⟨hslash, hup⟩ := hnew
      obtain ⟨⟨hnul, hlong, hlast⟩, hfollow, hname, es, hfolder⟩ := site_ok hsite
      have hspreads : Spreads t (t.put (place ++ [name]) (.file content)) :=
        spreads_put (no_folder_at_site hfind hsite hup) _
      have hput := Entry.get?_put_new hfolder name (.file content)
      obtain ⟨es', hfolder', -⟩ := hspreads.folder place es hfolder
      refine ⟨place ++ [name], find_file_iff.mpr ⟨?_, ?_, hput⟩⟩
      · exact ⟨hnul, nonempty_of_part hlast, hlong, by simpa using hslash⟩
      · exact follow_site hlast (hspreads.follow hfollow) hfolder' hname hup
          (Entry.isSome_lookup hfolder' hput)
  case h_4 => cases h

theorem find_save {p : Path} {content : Bytes} (h : t.save p content = (.ok (), t')) :
    ∃ place, t'.find p = .ok (place, .file content) := by
  rw [save] at h
  split at h
  case h_1 => cases h
  case h_2 made hmade =>
    split at h
    case h_1 written hwrite =>
      cases h
      exact find_write hwrite
    case h_2 => cases h

/-- No folder is gone or smaller, and no file changed. -/
structure Keeps (t t' : Tree) : Prop extends Spreads t t' where
  file : ∀ place content, t.root.get? place = some (.file content) →
    t'.root.get? place = some (.file content)

namespace Keeps

theorem refl (t : Tree) : Keeps t t := ⟨⟨rfl, fun _ es h => ⟨es, h, fun _ h => h⟩⟩, fun _ _ h => h⟩

theorem trans (h : Keeps t t') (h' : Keeps t' t'') : Keeps t t'' := by
  refine ⟨⟨h'.working.trans h.working, fun place es hes => ?_⟩,
    fun place content hfile => h'.file place content (h.file place content hfile)⟩
  obtain ⟨es', hes', hmore⟩ := h.folder place es hes
  obtain ⟨es'', hes'', hmore'⟩ := h'.folder place es' hes'
  exact ⟨es'', hes'', fun name hname => hmore' name (hmore name hname)⟩

theorem find (h : Keeps t t') {p : Path} {place : List String} {content : Bytes}
    (hfind : t.find p = .ok (place, .file content)) : t'.find p = .ok (place, .file content) := by
  obtain ⟨hpath, hfollow, hfile⟩ := find_file_iff.mp hfind
  have hstart : t'.start p = t.start p := by rw [start, start, h.working]
  exact find_file_iff.mpr ⟨hpath, hstart ▸ h.toSpreads.follow hfollow, h.file place content hfile⟩

end Keeps

theorem readText_of_find {p : Path} {place : List String} {content : Bytes} {text : String}
    (hfind : t.find p = .ok (place, .file content)) (hdecode : Utf8.decode? content = some text) :
    t.readText p = .ok text := by
  have hread : t.read p = .ok content := by rw [read, hfind]; rfl
  rw [readText, hread]
  simp only [bind, Except.bind, hdecode]

theorem find_of_readText {p : Path} {text : String} (h : t.readText p = .ok text) :
    ∃ place content, t.find p = .ok (place, .file content) ∧ Utf8.decode? content = some text := by
  rw [readText, read] at h
  cases hfind : t.find p with
  | error e => rw [hfind] at h; cases h
  | ok found =>
    obtain ⟨place, entry⟩ := found
    rw [hfind] at h
    cases entry with
    | folder es => cases h
    | file content =>
      simp only [bind, Except.bind] at h
      split at h
      case h_1 text' hdecode =>
        cases h
        exact ⟨place, content, rfl, hdecode⟩
      case h_2 => cases h

theorem keeps_makeFolder {p : Path} (h : t.makeFolder p = .ok t') : Keeps t t' := by
  rw [makeFolder] at h
  cases hsite : t.site p with
  | error e => rw [hsite] at h; cases h
  | ok target =>
    obtain ⟨place, name⟩ := target
    rw [hsite] at h
    simp only [bind, Except.bind] at h
    split at h
    case h_1 => cases h
    case h_2 hnone =>
      split at h
      · cases h
      · cases h
        refine ⟨spreads_put (fun es hes => ?_) _, fun _ _ hfile => Entry.file_put hnone _ hfile⟩
        rw [hnone] at hes
        cases hes

theorem keeps_makeFolders (t : Tree) (absolute : Bool) (parts : List String) :
    Keeps t (t.makeFolders absolute parts).2 := by
  induction parts with
  | nil => exact .refl t
  | cons part above ih =>
    simp only [makeFolders]
    split
    case h_1 t' hmade => exact keeps_makeFolder hmade
    case h_2 hmissing =>
      split
      case h_1 e t' habove =>
        rw [habove] at ih
        exact ih
      case h_2 t' habove =>
        rw [habove] at ih
        split
        case h_1 t'' hmade => exact ih.trans (keeps_makeFolder hmade)
        case h_2 => exact ih
    case h_3 => exact .refl t

theorem keeps_save {p : Path} {content : Bytes} {e : FileError}
    (h : t.save p content = (.error e, t')) : Keeps t t' := by
  have hparents := t.keeps_makeFolders p.isAbsolute p.parts.dropLast.reverse
  rw [save] at h
  split at h
  case h_1 t'' hmade =>
    rw [makeParents] at hmade
    rw [hmade] at hparents
    cases h
    exact hparents
  case h_2 t'' hmade =>
    rw [makeParents] at hmade
    rw [hmade] at hparents
    split at h
    case h_1 => cases h
    case h_2 =>
      cases h
      exact hparents

end Tree

end TraceView
