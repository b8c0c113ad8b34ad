import TraceView.Proofs.Files.Tree
import TraceView.Proofs.Settings.Puts
import TraceView.Proofs.Text.Utf8
import TraceView.Settings.Memory
import Mathlib.Data.List.Induction
import Mathlib.Data.List.Infix

/-!
Settings and the file they live in. Whenever the settings are clean the file holds them, through any
puts and flushes, and also through flushes that break off anywhere: what was put is not lost until a
flush gets through.
-/

namespace TraceView

def Toml.ReadsBack (doc : Toml.Document) : Prop := Toml.parseMarked? (Toml.print doc) = some doc

theorem Toml.parseMarked?_of_node {doc : Toml.Document} {text : String} {node : Toml.Node}
    (hnode : Toml.node? text = some node) (hdoc : node.document? true = some doc) :
    Toml.parseMarked? text = some doc := by
  rw [Toml.parseMarked?, hnode, Option.bind_some, hdoc]

theorem Toml.ReadsBack.of_node {doc : Toml.Document} {text : String} {node : Toml.Node}
    (hprint : Toml.print doc = text) (hnode : Toml.node? text = some node)
    (hdoc : node.document? true = some doc) : Toml.ReadsBack doc := by
  rw [Toml.ReadsBack, hprint]
  exact parseMarked?_of_node hnode hdoc

namespace FileSettings

variable {s : FileSettings} {tree tree' : Tree} {path : Path}

theorem load_of_text {text : String} {doc : Toml.Document} (hexists : tree.exists? path = true)
    (htext : tree.readText path = .ok text) (hdoc : Toml.parseMarked? text = some doc) :
    load tree path = .ok { path, doc } := by
  simp only [load, hexists, htext, hdoc, if_true]

theorem readText_save {text : String}
    (h : tree.save path (Utf8.encode text) = (.ok (), tree')) :
    tree'.exists? path = true ∧ tree'.readText path = .ok text := by
  obtain ⟨place, hfind⟩ := Tree.find_save h
  constructor
  · rw [Tree.exists?, hfind]
    rfl
  · exact Tree.readText_of_find hfind (Utf8.decode?_encode text)

theorem load_save (hsave : tree.save s.path (Utf8.encode (Toml.print s.doc)) = (.ok (), tree'))
    (hprint : Toml.ReadsBack s.doc) : load tree' s.path = .ok { s with dirty := false } := by
  obtain ⟨hexists, hread⟩ := readText_save hsave
  exact load_of_text hexists hread hprint

theorem flush_dirty (h : s.dirty = true) (tree : Tree) :
    (∃ e tree', tree.save s.path (Utf8.encode (Toml.print s.doc)) = (.error e, tree') ∧
        s.flush tree = (.error (.write s.path e), tree')) ∨
      ∃ tree', tree.save s.path (Utf8.encode (Toml.print s.doc)) = (.ok (), tree') ∧
        s.flush tree = (.ok { s with dirty := false }, tree') := by
  cases hsave : tree.save s.path (Utf8.encode (Toml.print s.doc)) with
  | mk result tree' =>
    cases result with
    | error e => exact .inl ⟨e, tree', rfl, by simp [flush, Toml.serialize, h, hsave]⟩
    | ok _ => exact .inr ⟨tree', rfl, by simp [flush, Toml.serialize, h, hsave]⟩

theorem path_load (h : load tree path = .ok s) : s.path = path ∧ s.dirty = false := by
  rw [load] at h
  split at h
  · split at h
    · cases h
    · split at h <;> cases h
      exact ⟨rfl, rfl⟩
  · cases h
    exact ⟨rfl, rfl⟩

def putSetting (s : FileSettings) (key : SettingKey) : Setting → FileSettings
  | .float x => SettingsStore.putFloat s key x
  | .nat n => SettingsStore.putNat s key n
  | .vec4 v => SettingsStore.putVec4 s key v

theorem putSetting_eq (key : SettingKey) (value : Setting) :
    ∃ v, ∀ s : FileSettings, s.putSetting key value = s.put key v := by
  cases value <;> exact ⟨_, fun _ => rfl⟩

end FileSettings

structure Storage where
  settings : FileSettings
  tree : Tree

namespace Storage

/-- What can be done with settings. A flush may break off and leave anything behind. -/
inductive Operation where
  | put (key : SettingKey) (value : Setting)
  | flush (broken : Option Tree)

def flush (st : Storage) : Option Tree → Bool × Storage
  | none =>
    match st.settings.flush st.tree with
    | (.ok settings, tree) => (true, { settings, tree })
    | (.error _, tree) => (false, { st with tree })
  | some left => if st.settings.dirty then (false, { st with tree := left }) else (true, st)

def step (st : Storage) : Operation → Storage
  | .put key value => { st with settings := st.settings.putSetting key value }
  | .flush broken => (st.flush broken).2

def run (st : Storage) (ops : List Operation) : Storage := ops.foldl step st

theorem run_concat (st : Storage) (ops : List Operation) (op : Operation) :
    st.run (ops ++ [op]) = (st.run ops).step op := List.foldl_append

def put (s : FileSettings) : Operation → FileSettings
  | .put key value => s.putSetting key value
  | .flush _ => s

inductive Flushed (st : Storage) : Bool → Storage → Prop
  | idle : st.settings.dirty = false → Flushed st true st
  | failed (tree : Tree) : st.settings.dirty = true → Flushed st false { st with tree }
  | written (tree : Tree) : st.settings.dirty = true →
      st.tree.save st.settings.path (Utf8.encode (Toml.print st.settings.doc)) = (.ok (), tree) →
      Flushed st true { settings := { st.settings with dirty := false }, tree }

theorem flush_clean {st : Storage} (broken : Option Tree) (h : st.settings.dirty = false) :
    st.flush broken = (true, st) := by
  cases broken <;> simp [flush, FileSettings.flush, h]

theorem flushed (st : Storage) (broken : Option Tree) :
    Flushed st (st.flush broken).1 (st.flush broken).2 := by
  cases hdirty : st.settings.dirty with
  | false =>
    rw [flush_clean broken hdirty]
    exact .idle hdirty
  | true =>
    cases broken with
    | some left =>
      simp only [flush, hdirty, if_true]
      exact .failed left hdirty
    | none =>
      rcases FileSettings.flush_dirty hdirty st.tree with
        ⟨e, tree, -, hflush⟩ | ⟨tree, hsave, hflush⟩
      · simp only [flush, hflush]
        exact .failed tree hdirty
      · simp only [flush, hflush]
        exact .written tree hdirty hsave

theorem put_unchanged {s : FileSettings} {key : SettingKey} {value : Setting}
    (h : (s.putSetting key value).dirty = false) : s.putSetting key value = s := by
  obtain ⟨v, hput⟩ := FileSettings.putSetting_eq key value
  rw [hput] at h ⊢
  exact FileSettings.put_clean h

/-- Clean settings are what the file holds. -/
structure Sound (path : Path) (st : Storage) : Prop where
  path_eq : st.settings.path = path
  clean : st.settings.dirty = false → FileSettings.load st.tree path = .ok st.settings

theorem Sound.put {path : Path} {st : Storage} (h : Sound path st) (key : SettingKey)
    (value : Setting) : Sound path { st with settings := st.settings.putSetting key value } := by
  constructor
  · obtain ⟨v, hput⟩ := FileSettings.putSetting_eq key value
    rw [hput, FileSettings.path_put]
    exact h.path_eq
  · intro hclean
    have hsame := put_unchanged hclean
    simp only [hsame] at hclean ⊢
    exact h.clean hclean

theorem Sound.flush {path : Path} {st : Storage} (h : Sound path st) (broken : Option Tree)
    (hprint : Toml.ReadsBack st.settings.doc) : Sound path (st.flush broken).2 := by
  generalize hresult : (st.flush broken).1 = result, hafter : (st.flush broken).2 = after
  have hflushed := st.flushed broken
  rw [hresult, hafter] at hflushed
  cases hflushed with
  | idle => exact h
  | failed tree hdirty =>
    refine ⟨h.path_eq, fun hclean => ?_⟩
    rw [hdirty] at hclean
    cases hclean
  | written tree hdirty hsave =>
    refine ⟨h.path_eq, fun _ => ?_⟩
    rw [← h.path_eq]
    exact FileSettings.load_save hsave hprint

theorem sound_run {path : Path} {st : Storage} (h : Sound path st) (ops : List Operation)
    (hprint : ∀ before, before <+: ops → Toml.ReadsBack (st.run before).settings.doc) :
    Sound path (st.run ops) := by
  induction ops using List.reverseRecOn with
  | nil => exact h
  | append_singleton ops op ih =>
    have hbefore := ih fun before hpre => hprint before (hpre.trans (List.prefix_append ops [op]))
    have hnow := hprint ops (List.prefix_append ops [op])
    rw [run_concat]
    cases op with
    | put key value => exact hbefore.put key value
    | flush broken => exact hbefore.flush broken hnow

theorem settings_flush_failed {st : Storage} (broken : Option Tree)
    (h : (st.flush broken).1 = false) : (st.flush broken).2.settings = st.settings := by
  have hflushed := st.flushed broken
  rw [h] at hflushed
  generalize (st.flush broken).2 = after at hflushed ⊢
  cases hflushed
  rfl

theorem dirty_flush_done {st : Storage} (broken : Option Tree) (h : (st.flush broken).1 = true) :
    (st.flush broken).2.settings.dirty = false := by
  have hflushed := st.flushed broken
  rw [h] at hflushed
  generalize (st.flush broken).2 = after at hflushed ⊢
  cases hflushed with
  | idle hclean => exact hclean
  | written => rfl

theorem doc_flush (st : Storage) (broken : Option Tree) :
    (st.flush broken).2.settings.doc = st.settings.doc := by
  have hflushed := st.flushed broken
  generalize (st.flush broken).1 = result, (st.flush broken).2 = after at hflushed ⊢
  cases hflushed <;> rfl

theorem doc_run (st : Storage) (ops : List Operation) :
    (st.run ops).settings.doc = (ops.foldl put st.settings).doc := by
  induction ops using List.reverseRecOn with
  | nil => rfl
  | append_singleton ops op ih =>
    rw [run_concat, List.foldl_append]
    cases op with
    | put key value =>
      obtain ⟨v, hput⟩ := FileSettings.putSetting_eq key value
      simp only [List.foldl_cons, List.foldl_nil, step, put, hput]
      exact FileSettings.doc_put_congr ih key v
    | flush broken => exact (doc_flush _ broken).trans ih

/-- Clean settings are what the file holds. A put that leaves them clean changed nothing, a flush of
clean settings touches nothing, and a flush that fails leaves the settings as they were. No put is
lost: once a flush gets through, the file reads as everything put so far. -/
theorem clean_settings_are_stored {tree : Tree} {path : Path} {opened : FileSettings}
    (hload : FileSettings.load tree path = .ok opened) (ops : List Operation)
    (hprint : ∀ before, before <+: ops →
      Toml.ReadsBack ((Storage.mk opened tree).run before).settings.doc) :
    let st := (Storage.mk opened tree).run ops
    (st.settings.dirty = false → FileSettings.load st.tree path = .ok st.settings) ∧
    (∀ key value, (st.settings.putSetting key value).dirty = false →
      st.settings.putSetting key value = st.settings) ∧
    (∀ broken, st.settings.dirty = false → st.flush broken = (true, st)) ∧
    (∀ broken, (st.flush broken).1 = false → (st.flush broken).2.settings = st.settings) ∧
    st.settings.doc = (ops.foldl put opened).doc ∧
    ∀ broken, (st.flush broken).1 = true →
      (st.flush broken).2.settings.dirty = false ∧
      ∃ reopened, FileSettings.load (st.flush broken).2.tree path = .ok reopened ∧
        reopened.doc = st.settings.doc ∧
        ∀ key, SettingsStore.getFloat reopened key = SettingsStore.getFloat st.settings key ∧
          SettingsStore.getNat reopened key = SettingsStore.getNat st.settings key ∧
          SettingsStore.getVec4 reopened key = SettingsStore.getVec4 st.settings key := by
  have hstart : Sound path ⟨opened, tree⟩ := ⟨(FileSettings.path_load hload).1, fun _ => hload⟩
  have hsound := sound_run hstart ops hprint
  have hnow := hprint ops List.prefix_rfl
  have hputs := doc_run ⟨opened, tree⟩ ops
  generalize (Storage.mk opened tree).run ops = st at hsound hnow hputs ⊢
  refine ⟨hsound.clean, fun key value => put_unchanged, fun broken => flush_clean broken,
    fun broken => settings_flush_failed broken, hputs, fun broken hdone => ?_⟩
  have hdirty := dirty_flush_done broken hdone
  have hdoc := doc_flush st broken
  refine ⟨hdirty, _, (hsound.flush broken hnow).clean hdirty, hdoc, fun key => ?_⟩
  have hfind := FileSettings.find?_congr hdoc key
  exact ⟨congrArg (·.bind FileSettings.single?) hfind, congrArg (·.bind FileSettings.nat?) hfind,
    congrArg (·.bind FileSettings.vec4?) hfind⟩

theorem clean_settings_are_stored_after_break :
    let tree : Tree := { root := .folder [("s.toml", .file (Utf8.encode "a = 1\n"))] }
    let opened : FileSettings := { path := "s.toml", doc := [("a", .integer 1)] }
    let ops : List Operation :=
      [.put ⟨"a", "k"⟩ (.nat 5), .flush (some {}), .put ⟨"a", "x"⟩ (.nat 0xFFFFFFFFFFFFFFFF),
        .flush none]
    let st := (Storage.mk opened tree).run ops
    FileSettings.load tree "s.toml" = .ok opened ∧
      (∀ before, before <+: ops →
        Toml.ReadsBack ((Storage.mk opened tree).run before).settings.doc) ∧
      FileSettings.load st.tree "s.toml" = .ok st.settings ∧
      st.settings.doc =
        [("a", .table [("k", .integer 5), ("x", .string "18446744073709551615")])] := by
  intro tree opened ops st
  have hload : FileSettings.load tree "s.toml" = .ok opened := rfl
  have hmistyped : Toml.ReadsBack [("a", .integer 1)] :=
    .of_node rfl (show _ = some (.table .header [("a", .scalar (.integer 1))]) from rfl) (by cbv)
  have hone : Toml.ReadsBack [("a", .table [("k", .integer 5)])] :=
    .of_node rfl (show _ = some (.table .header [("a", .table .header
      [("k", .scalar (.integer 5))])]) from rfl) (by cbv)
  have htwo : Toml.ReadsBack
      [("a", .table [("k", .integer 5), ("x", .string "18446744073709551615")])] :=
    .of_node rfl (show _ = some (.table .header [("a", .table .header
      [("k", .scalar (.integer 5)), ("x", .scalar (.string "18446744073709551615"))])]) from rfl)
      (by cbv)
  have hlast : FileSettings.ofNat 0xFFFFFFFFFFFFFFFF = .string "18446744073709551615" := by
    rw [FileSettings.ofNat, if_neg (by decide)]
    exact congrArg Toml.Value.string (by decide +kernel)
  rw [← hlast] at htwo
  have hprint : ∀ before, before <+: ops →
      Toml.ReadsBack ((Storage.mk opened tree).run before).settings.doc := by
    intro before hbefore
    rw [doc_run]
    rw [← List.mem_inits] at hbefore
    simp only [ops, List.inits, List.map_cons, List.map_nil, List.mem_cons, List.not_mem_nil,
      or_false] at hbefore
    rcases hbefore with rfl | rfl | rfl | rfl | rfl
    · exact hmistyped
    · exact hone
    · exact hone
    · exact htwo
    · exact htwo
  have hclean : ((Storage.mk opened tree).run ops).settings.dirty = false := by decide +kernel
  have hstored := (clean_settings_are_stored hload ops hprint).1 hclean
  rw [← hlast]
  refine ⟨hload, hprint, hstored, ?_⟩
  rw [doc_run]
  rfl

end Storage

end TraceView
