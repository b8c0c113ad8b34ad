import Mathlib.Data.List.Nodup
import TraceView.Proofs.Text.Words
import TraceView.Files.Tree

namespace TraceView

namespace Path

variable {p q : Path} {name : String}

structure IsName (name : String) : Prop where
  nonempty : name ≠ ""
  notHere : name ≠ "."
  noSlash : '/' ∉ name.toList

theorem parts_empty : parts ⟨""⟩ = [] := rfl

theorem parts_append (s t : String) : parts ⟨s ++ "/" ++ t⟩ = parts ⟨s⟩ ++ parts ⟨t⟩ := by
  have hsplit : Text.split (· == '/') (s.toList ++ '/' :: t.toList) =
      Text.split (· == '/') s.toList ++ Text.split (· == '/') t.toList :=
    Text.split_append s.toList rfl t.toList
  have htext : (s ++ "/" ++ t).toList = s.toList ++ '/' :: t.toList := by simp
  simp only [parts, Text.pieces_eq, htext, hsplit, List.map_append, List.filter_append]

theorem IsName.parts (h : IsName name) : Path.parts ⟨name⟩ = [name] := by
  have hfree : ∀ c ∈ name.toList, (c == '/') = false := by
    simpa using fun c hc => ne_of_mem_of_not_mem hc h.noSlash
  simp [Path.parts, Text.pieces_eq, Text.split_free hfree, h.nonempty, h.notHere]

theorem IsName.notAbsolute (h : IsName name) : isAbsolute ⟨name⟩ = false := by
  simpa [isAbsolute] using fun hhead => h.noSlash (List.mem_of_mem_head? hhead)

theorem parts_join (h : IsName name) (p : Path) : (p.join name).parts = p.parts ++ [name] := by
  obtain ⟨text⟩ := p
  rw [join, h.notAbsolute, Bool.false_or]
  split
  case isTrue hempty =>
    have htext : text = "" := String.isEmpty_iff.mp hempty
    rw [htext, parts_empty, List.nil_append, h.parts]
  split
  case isTrue hslash =>
    obtain ⟨init, hinit⟩ := List.getLast?_eq_some_iff.mp (beq_iff_eq.mp hslash)
    have htext : text = String.ofList init ++ "/" := String.toList_inj.mp (by simp [hinit])
    have hparts : parts ⟨String.ofList init ++ "/"⟩ = parts ⟨String.ofList init⟩ := by
      rw [← String.append_empty (s := String.ofList init ++ "/"), parts_append, parts_empty,
        List.append_nil]
    rw [htext, parts_append, hparts, h.parts]
  case isFalse => rw [parts_append, h.parts]

theorem parts_foldl_join {place : List String} (h : ∀ name ∈ place, IsName name) (p : Path) :
    (place.foldl join p).parts = p.parts ++ place := by
  induction place generalizing p with
  | nil => exact (List.append_nil _).symm
  | cons name place ih =>
    obtain ⟨hname, hplace⟩ := List.forall_mem_cons.mp h
    rw [List.foldl_cons, ih hplace, parts_join hname, List.append_assoc]
    rfl

theorem inOrder_cons_iff {m n : String} {ms ns : List String} :
    inOrder (m :: ms) (n :: ns) ↔ m < n ∨ m = n ∧ inOrder ms ns := by
  rw [inOrder]
  split
  case isTrue heq => simp [heq]
  case isFalse hne => simp [hne]

theorem inOrder_total (ms ns : List String) : inOrder ms ns ∨ inOrder ns ms := by
  induction ms generalizing ns with
  | nil => exact .inl rfl
  | cons m ms ih =>
    cases ns with
    | nil => exact .inr rfl
    | cons n ns =>
      rw [inOrder_cons_iff, inOrder_cons_iff]
      rcases Std.lt_trichotomy m n with hlt | heq | hgt
      · exact .inl (.inl hlt)
      · exact (ih ns).imp (fun h => .inr ⟨heq, h⟩) fun h => .inr ⟨heq.symm, h⟩
      · exact .inr (.inl hgt)

theorem inOrder_trans {ls ms ns : List String} (h : inOrder ls ms) (h' : inOrder ms ns) :
    inOrder ls ns := by
  induction ls generalizing ms ns with
  | nil => rfl
  | cons l ls ih =>
    cases ms with
    | nil => cases h
    | cons m ms =>
      cases ns with
      | nil => cases h'
      | cons n ns =>
        rw [inOrder_cons_iff] at h h' ⊢
        rcases h with hlt | ⟨rfl, h⟩
        · exact .inl (h'.elim (String.lt_trans hlt) fun heq => heq.1 ▸ hlt)
        · exact h'.imp id fun ⟨heq, h'⟩ => ⟨heq, ih h h'⟩

theorem inOrder_antisymm {ms ns : List String} (h : inOrder ms ns) (h' : inOrder ns ms) :
    ms = ns := by
  induction ms generalizing ns with
  | nil =>
    cases ns with
    | nil => rfl
    | cons n ns => cases h'
  | cons m ms ih =>
    cases ns with
    | nil => cases h
    | cons n ns =>
      rw [inOrder_cons_iff] at h h'
      rcases h with hlt | ⟨rfl, h⟩
      · rcases h' with hgt | ⟨rfl, -⟩
        · exact absurd hgt (String.lt_asymm hlt)
        · exact absurd hlt (String.lt_irrefl _)
      · rcases h' with hgt | ⟨-, h'⟩
        · exact absurd hgt (String.lt_irrefl _)
        · exact congrArg (m :: ·) (ih h h')

theorem le_total (p q : Path) : (p.le q || q.le p) = true :=
  (Bool.or_eq_true _ _).mpr (inOrder_total p.parts q.parts)

theorem le_trans (p q r : Path) : p.le q → q.le r → p.le r := inOrder_trans

def Before (p q : Path) : Prop := p.le q ∧ ¬ q.le p

theorem before_of_ne (hle : p.le q) (hne : p.parts ≠ q.parts) : p.Before q :=
  ⟨hle, fun hge => hne (inOrder_antisymm hle hge)⟩

end Path

namespace Entry

/-- Each entry of a folder has a name, and no two of them the same one. -/
inductive Named : Entry → Prop
  | file : Named (.file content)
  | folder : (es.map (·.1)).Nodup → (∀ x ∈ es, Path.IsName x.1) → (∀ x ∈ es, Named x.2) →
      Named (.folder es)

variable {e : Entry} {es : List (String × Entry)} {place : List String}

theorem mem_of_lookup {name : String} (h : es.lookup name = some e) : (name, e) ∈ es := by
  induction es with
  | nil => cases h
  | cons x es ih =>
    rw [List.lookup_cons] at h
    split at h
    case h_1 heq =>
      cases h
      rw [beq_iff_eq.mp heq]
      exact List.mem_cons_self
    case h_2 => exact List.mem_cons_of_mem _ (ih h)

theorem Named.get? {e' : Entry} (h : e.Named) (hget : e.get? place = some e') : e'.Named := by
  induction place generalizing e with
  | nil =>
    cases hget
    exact h
  | cons name place ih =>
    cases h with
    | file => cases hget
    | folder _ _ hentries =>
      obtain ⟨child, hlookup, hchild⟩ := Option.bind_eq_some_iff.mp hget
      exact ih (hentries _ (mem_of_lookup hlookup)) hchild

theorem descendants_folder (place : List String) (es : List (String × Entry)) :
    descendants place (.folder es) =
      es.flatMap fun x => (place ++ [x.1], x.2) :: descendants (place ++ [x.1]) x.2 := by
  rw [descendants]
  induction es with
  | nil => rfl
  | cons x es ih => rw [descendantsIn, List.flatMap_cons, ih]

theorem Named.exists_of_mem (h : e.Named) {x : List String × Entry}
    (hx : x ∈ e.descendants place) :
    ∃ name rest, x.1 = place ++ name :: rest ∧ ∀ n ∈ name :: rest, Path.IsName n := by
  induction h generalizing place with
  | file => cases hx
  | @folder es _ hnames _ ih =>
    rw [descendants_folder, List.mem_flatMap] at hx
    obtain ⟨child, hchild, hx⟩ := hx
    rcases List.mem_cons.mp hx with rfl | hx
    · exact ⟨child.1, [], rfl, List.forall_mem_singleton.mpr (hnames child hchild)⟩
    · obtain ⟨name, rest, hplace, hrest⟩ := ih child hchild hx
      refine ⟨child.1, name :: rest, ?_, List.forall_mem_cons.mpr ⟨hnames child hchild, hrest⟩⟩
      rw [hplace, List.append_assoc]
      rfl

theorem Named.nodup_descendants (h : e.Named) (place : List String) :
    ((e.descendants place).map (·.1)).Nodup := by
  induction h generalizing place with
  | file => exact List.nodup_nil
  | @folder es hnodup _ hentries ih =>
    -- All that is found by way of an entry has its name behind the place of the folder.
    have hbelow (x) (hx : x ∈ es) (found : List String)
        (hfound : found ∈ ((place ++ [x.1], x.2) ::
          descendants (place ++ [x.1]) x.2).map (·.1)) : ∃ rest, found = place ++ x.1 :: rest := by
      rcases List.mem_cons.mp hfound with rfl | hfound
      · exact ⟨[], rfl⟩
      · obtain ⟨below, hbelow, rfl⟩ := List.mem_map.mp hfound
        obtain ⟨name, rest, hdown, -⟩ := (hentries x hx).exists_of_mem hbelow
        exact ⟨name :: rest, by rw [hdown, List.append_assoc]; rfl⟩
    rw [descendants_folder, List.map_flatMap, List.nodup_flatMap]
    constructor
    · intro x hx
      refine List.nodup_cons.mpr ⟨fun hmem => ?_, ih x hx _⟩
      obtain ⟨below, hmem, hplace⟩ := List.mem_map.mp hmem
      obtain ⟨name, rest, hdown, -⟩ := (hentries x hx).exists_of_mem hmem
      simp [hdown] at hplace
    · refine (List.pairwise_map.mp hnodup).imp_of_mem fun {x y} hx hy hne found hfound hfound' => ?_
      obtain ⟨rest, rfl⟩ := hbelow x hx found hfound
      obtain ⟨rest', heq⟩ := hbelow y hy _ hfound'
      exact hne (List.cons.inj (List.append_cancel_left heq)).1

end Entry

namespace Tree

variable {t : Tree} {p : Path}

theorem get?_of_find {place : List String} {e : Entry} (h : t.find p = .ok (place, e)) :
    t.root.get? place = some e := by
  rw [find] at h
  split at h
  · cases h
  split at h
  · cases h
  split at h
  · cases h
  cases hfollow : t.follow (t.start p) p.parts with
  | error e => rw [hfollow] at h; cases h
  | ok target =>
    rw [hfollow] at h
    simp only [bind, Except.bind] at h
    split at h
    case h_1 => cases h
    case h_2 hfile =>
      split at h
      · cases h
      · cases h
        exact hfile
    case h_3 hfolder =>
      cases h
      exact hfolder

theorem nodup_walk (h : t.root.Named) (p : Path) :
    (((t.walk p).map (·.1)).map Path.parts).Nodup := by
  rw [List.map_map, walk]
  split
  case h_1 => exact List.nodup_nil
  case h_2 place e hfind =>
    have hnamed : e.Named := h.get? (get?_of_find hfind)
    have hparts (x) (hx : x ∈ e.descendants []) : (x.1.foldl Path.join p).parts = p.parts ++ x.1 := by
      obtain ⟨name, rest, hdown, hnames⟩ := hnamed.exists_of_mem hx
      rw [hdown]
      exact Path.parts_foldl_join hnames p
    have hbelow : (e.descendants []).map (fun x => (x.1.foldl Path.join p).parts) =
        ((e.descendants []).map (·.1)).map (p.parts ++ ·) := by
      rw [List.map_map]
      exact List.map_congr_left hparts
    rw [List.map_cons, List.map_map]
    refine List.nodup_cons.mpr ⟨fun hmem => ?_, ?_⟩
    · obtain ⟨x, hx, heq⟩ := List.mem_map.mp hmem
      obtain ⟨name, rest, hdown, -⟩ := hnamed.exists_of_mem hx
      have hsame : p.parts ++ x.1 = p.parts := (hparts x hx).symm.trans heq
      rw [hdown] at hsame
      simp at hsame
    · exact hbelow ▸ (hnamed.nodup_descendants []).map fun a b hab => List.append_cancel_left hab

end Tree

end TraceView
