import TraceView.Proofs.Session.Steps
import TraceView.Proofs.Settings.Appearance
import TraceView.Proofs.Settings.Flushing

namespace TraceView

theorem FileSettings.load_keeps {tree tree' : Tree} {path : Path} {s : FileSettings}
    (h : load tree path = .ok s) (hdoc : s.doc ≠ []) (hkeeps : Tree.Keeps tree tree') :
    load tree' path = .ok s := by
  rw [load] at h
  split at h
  case isFalse =>
    cases h
    exact absurd rfl hdoc
  case isTrue hexists =>
    split at h
    case h_1 => cases h
    case h_2 text htext =>
      obtain ⟨place, content, hfind, hdecode⟩ := Tree.find_of_readText htext
      have hfind' := hkeeps.find hfind
      have hexists' : tree'.exists? path = true := by rw [Tree.exists?, hfind']; rfl
      have htext' : tree'.readText path = .ok text := Tree.readText_of_find hfind' hdecode
      simp only [load, hexists', htext', if_true]
      exact h

namespace FileSettings

variable {s opened stored : FileSettings} {tree : Tree} {path : Path}

theorem clean_eq (h : s.dirty = false) : { s with dirty := false } = s := by
  obtain ⟨path, doc, dirty⟩ := s
  cases h
  rfl

theorem load_flush {ps : List (SettingKey × Toml.Value)} (hload : load tree path = .ok opened)
    (hdone : ((opened.puts ps).flush tree).1.isOk) (hprint : Toml.ReadsBack (opened.puts ps).doc) :
    load ((opened.puts ps).flush tree).2 path = .ok { opened.puts ps with dirty := false } := by
  obtain ⟨hpath, hclean⟩ := path_load hload
  have hpath' : (opened.puts ps).path = path := (path_puts opened ps).trans hpath
  cases hdirty : (opened.puts ps).dirty with
  | false =>
    have hsame := puts_clean hdirty
    rw [hsame] at hdirty ⊢
    simp only [flush, hdirty, Bool.not_false, if_true]
    rw [hload, clean_eq hclean]
  | true =>
    rcases flush_dirty hdirty tree with ⟨e, tree', -, hflush⟩ | ⟨tree', hsave, hflush⟩
    · rw [hflush] at hdone
      cases hdone
    · rw [hflush, ← hpath']
      exact load_save hsave hprint

theorem load_flush_same (hload : load tree path = .ok stored) (hdoc : s.doc = stored.doc)
    (hpath : s.path = path) (hne : stored.doc ≠ []) (hprint : Toml.ReadsBack stored.doc) :
    load (s.flush tree).2 path = .ok stored := by
  obtain ⟨hpath', hclean⟩ := path_load hload
  cases hdirty : s.dirty with
  | false =>
    simp only [flush, hdirty, Bool.not_false, if_true]
    exact hload
  | true =>
    rcases flush_dirty hdirty tree with ⟨e, tree', hsave, hflush⟩ | ⟨tree', hsave, hflush⟩
    · rw [hflush]
      exact load_keeps hload hne (Tree.keeps_save hsave)
    · have hwritten : { s with dirty := false } = stored := by
        rw [← clean_eq hclean, hdoc, hpath, hpath']
      have hsaved := load_save hsave (hdoc ▸ hprint)
      rw [hwritten, hpath] at hsaved
      rw [hflush]
      exact hsaved

end FileSettings

namespace Session

variable {s s' : Session}

def ColorsKept (loaded : ColorTable) (s : Session) : Prop :=
  ∀ role, s.editor.colors.isChanged role = false → s.editor.colors.get role = loaded.get role

namespace ColorsKept

variable {loaded : ColorTable}

theorem congr (h : s.ColorsKept loaded) (hcolors : s'.editor.colors = s.editor.colors) :
    s'.ColorsKept loaded := by
  unfold ColorsKept
  rw [hcolors]
  exact h

theorem pressed (h : s.ColorsKept loaded) (hs : Pressed s s') : s'.ColorsKept loaded := by
  cases hs with
  | switch | view | clear => exact h
  | edit editor hcolors => exact h.congr hcolors
  | change colors role c verb hset =>
    intro other hother
    obtain ⟨hunchanged, hget⟩ := ColorTable.get_of_set? hset hother
    exact hget.trans (h other hunchanged)

theorem step (h : s.ColorsKept loaded) (x : Step) : (s.step x).ColorsKept loaded := by
  obtain ⟨key, -, hs⟩ | ⟨view, hs⟩ | hs := step_cases s x
  · exact h.pressed hs
  · rw [hs]
    exact h
  · exact h.congr (congrArg Editor.colors hs.editor)

theorem run (h : s.ColorsKept loaded) (xs : List Step) : (s.run xs).ColorsKept loaded := by
  induction xs generalizing s with
  | nil => exact h
  | cons x xs ih => exact ih (h.step x)

end ColorsKept

end Session

def KeyCode.edits : KeyCode → Bool
  | .enter | .char 'r' | .char '+' | .char '-' => true
  | _ => false

namespace Session

variable {s s' : Session}

def Step.edits : Step → Bool
  | .press key => key.motion = .press && key.code.edits
  | _ => false

theorem act_quiet (s : Session) (control : Bool) {code : KeyCode} (h : code.edits = false) :
    (s.act control code).editor.colors = s.editor.colors ∧
      (s.act control code).editor.style = s.editor.style := by
  unfold act
  split
  case h_6 | h_13 | h_21 | h_22 => cases h
  case h_12 => split <;> exact ⟨rfl, rfl⟩
  all_goals exact ⟨rfl, rfl⟩

theorem step_quiet (s : Session) {x : Step} (h : x.edits = false) :
    (s.step x).editor.colors = s.editor.colors ∧ (s.step x).editor.style = s.editor.style := by
  have hsame {s' : Session} (hs : Background s s') :
      s'.editor.colors = s.editor.colors ∧ s'.editor.style = s.editor.style := by
    rw [hs.editor]
    exact ⟨rfl, rfl⟩
  cases x with
  | press key =>
    change (s.press key).editor.colors = _ ∧ (s.press key).editor.style = _
    unfold press
    split
    case isTrue hpress =>
      rw [Step.edits, decide_eq_true hpress, Bool.true_and] at h
      exact act_quiet s _ h
    case isFalse => exact ⟨rfl, rfl⟩
  | draw width height =>
    obtain ⟨view, hdraw⟩ := draw_eq s width height
    change (s.draw width height).2.editor.colors = _ ∧ (s.draw width height).2.editor.style = _
    rw [hdraw]
    exact ⟨rfl, rfl⟩
  | update => exact hsame (background_update s)
  | log entry => exact hsame (background_log s entry)
  | logFromWorker entry => exact hsame (background_logFromWorker s entry)
  | load place => exact hsame (background_stepLoader s place)

theorem run_quiet (s : Session) {xs : List Step} (h : ∀ x ∈ xs, x.edits = false) :
    (s.run xs).editor.colors = s.editor.colors ∧ (s.run xs).editor.style = s.editor.style := by
  induction xs generalizing s with
  | nil => exact ⟨rfl, rfl⟩
  | cons x xs ih =>
    rw [List.forall_mem_cons] at h
    obtain ⟨hcolors, hstyle⟩ := step_quiet s h.1
    obtain ⟨hcolors', hstyle'⟩ := ih (s.step x) h.2
    exact ⟨hcolors'.trans hcolors, hstyle'.trans hstyle⟩

theorem editor_start (config : Config) (palette : Palette) (filter : Filter) (log : Log)
    (tree : Tree) (files : List Path) :
    (start config palette filter log tree files).editor =
      (startEditor palette (opened? config tree)).publish :=
  (background_start config palette filter log tree files).editor

theorem settings_start (config : Config) (palette : Palette) (filter : Filter) (log : Log)
    (tree : Tree) (files : List Path) :
    (start config palette filter log tree files).settings = opened? config tree :=
  (background_start config palette filter log tree files).settings

theorem save_eq (s : Session) (settings : FileSettings) :
    s.save settings = saved s.editor.colors s.editor.style settings := by
  rw [save, ColorTable.save_eq, WidgetStyle.save_eq, saved, FileSettings.puts_append]

theorem tree_shutdown_of_none (h : s.settings = none) (tree : Tree) :
    (s.shutdown tree).tree = tree := by
  simp only [shutdown, persist, h]

theorem shutdown_eq {settings : FileSettings} (h : s.settings = some settings) (tree : Tree) :
    (s.shutdown tree).tree = ((s.save settings).flush tree).2 ∧
      ((s.shutdown tree).result = .ok () ↔ ((s.save settings).flush tree).1.isOk) := by
  simp only [shutdown, persist, h]
  split <;> simp_all [Except.isOk, Except.toBool]

/-- The colors of the other editor, none of them changed since, and its style up to what a float
comparison tells. -/
structure Restored (next e : Editor) : Prop where
  colors : ∀ role, next.colors.get role = e.colors.get role
  changed : next.colors.changedCount = 0
  scale : Binary.Agree next.style.fontScale e.style.fontScale
  part : ∀ part, (next.style.get part).Agree (e.style.get part)

section Restart

variable {t : ColorTable} {w : WidgetStyle} {opened stored : FileSettings}

theorem colors_startEditor (palette : Palette) (stored : FileSettings) :
    (startEditor palette (some stored)).publish.colors = ColorTable.load {} stored := rfl

theorem restored_of_saved (hdoc : stored.doc = (saved t w opened).doc)
    (hkept : ∀ role, t.isChanged role = false → t.get role = (ColorTable.load {} opened).get role)
    (e : Editor) (hcolors : e.colors = t) (hstyle : e.style = w) (palette : Palette) :
    Restored (startEditor palette (some stored)).publish e ∧
      (saved (ColorTable.load {} stored) (WidgetStyle.load {} stored) stored).doc = stored.doc := by
  subst hcolors hstyle
  have hfind := FileSettings.find?_congr hdoc
  obtain ⟨x, hscale, hagree, hsettled⟩ := scale_saved e.colors e.style opened
  have hreadScale : (WidgetStyle.load {} stored).fontScale = x := by
    have hread : SettingsStore.getFloat stored WidgetStyle.scaleKey = some x := by
      change (stored.find? WidgetStyle.scaleKey).bind FileSettings.single? = some x
      rw [hfind, hscale, Option.bind_some, FileSettings.single?_ofSingle]
    rw [WidgetStyle.fontScale_load, hread, Option.getD_some]
  have hparts : ∀ part, ((WidgetStyle.load {} stored).get part).Agree (e.style.get part) ∧
      stored.Settled (WidgetStyle.key part)
        (FileSettings.ofVec4 ((WidgetStyle.load {} stored).get part)) := by
    intro part
    obtain ⟨v, hpart, hagree, hsettled⟩ := part_saved e.colors e.style opened part
    have hread : SettingsStore.getVec4 stored (WidgetStyle.key part) = some v := by
      change (stored.find? (WidgetStyle.key part)).bind FileSettings.vec4? = some v
      rw [hfind, hpart, Option.bind_some, FileSettings.vec4?_ofVec4]
    rw [WidgetStyle.get_load_of_stored _ _ hread]
    exact ⟨hagree, hsettled.congr hdoc⟩
  have hstored : ∀ role, ColorTable.stored? stored role =
      ColorTable.stored? (saved e.colors e.style opened) role := fun role =>
    congrArg (fun v => (v.bind FileSettings.nat?).map fun n => Rgba.ofPacked n.toUInt32)
      (hfind (ColorTable.key role))
  refine ⟨⟨fun role => ?_, ?_, hreadScale ▸ hagree, fun part => (hparts part).1⟩, ?_⟩
  · rw [colors_startEditor, ColorTable.get_load, hstored]
    cases hchanged : e.colors.isChanged role with
    | true => rw [stored?_saved_of_changed _ _ _ hchanged, Option.getD_some]
    | false =>
      rw [stored?_saved_of_unchanged _ _ _ hchanged, hkept role hchanged, ColorTable.get_load]
  · exact ColorTable.changedCount_eq_zero_iff.mpr (ColorTable.isChanged_load_new stored)
  · refine doc_saved_again _ (ColorTable.isChanged_load_new stored) ?_ fun part => (hparts part).2
    rw [hreadScale]
    exact hsettled.congr hdoc

variable {config : Config} {tree : Tree} {path : Path}

theorem opened?_eq (hpath : config.settingsPath = some path) (tree : Tree) :
    opened? config tree = (FileSettings.load tree path).toOption := by
  rw [opened?, hpath, Option.bind_some]

variable (palette : Palette) (filter : Filter) (log : Log) (files : List Path) (xs : List Step)

theorem settings_run_start :
    ((start config palette filter log tree files).run xs).settings = opened? config tree := by
  rw [settings_run, settings_start]

theorem colorsKept_run_start (h : opened? config tree = some opened) :
    ((start config palette filter log tree files).run xs).ColorsKept
      (ColorTable.load {} opened) := by
  refine ColorsKept.run (fun role _ => ?_) xs
  rw [editor_start, h]
  rfl

theorem saved_run_start (hopened : opened? config tree = some stored)
    (hstored : FileSettings.load tree path = .ok stored) (hne : stored.doc ≠ [])
    (hprint : Toml.ReadsBack stored.doc)
    (hagain : (saved (ColorTable.load {} stored) (WidgetStyle.load {} stored) stored).doc =
      stored.doc) (hquiet : ∀ x ∈ xs, x.edits = false) :
    let s := (start config palette filter log tree files).run xs
    (s.save stored).doc = stored.doc ∧
      FileSettings.load (s.shutdown tree).tree path = .ok stored := by
  intro s
  obtain ⟨hcolors, hstyle⟩ := run_quiet (start config palette filter log tree files) hquiet
  have hsame : (s.save stored).doc = stored.doc := by
    rw [save_eq, hcolors, hstyle, editor_start, hopened]
    exact hagain
  have hsettings : s.settings = some stored := (settings_run_start ..).trans hopened
  have hpath : (s.save stored).path = path := by
    rw [save_eq, saved, FileSettings.path_puts]
    exact (FileSettings.path_load hstored).1
  refine ⟨hsame, ?_⟩
  rw [(shutdown_eq hsettings tree).1]
  exact FileSettings.load_flush_same hstored hsame hpath hne hprint

end Restart

section Blank

/-! A settings file with one color and a style that is zero throughout. It is read a line at a time,
whatever follows, since reading it at once takes long to check. -/

open Toml

def blankParts : List String :=
  ["Border", "Button", "ButtonActive", "FrameBg", "Header", "HeaderHovered", "PopupBg",
    "ScrollbarBg", "Text", "TextDisabled", "TitleBg", "WindowBg"]

def blankSettings (background : Int64) : Document :=
  [(ColorTable.area, .table [("GraphBk", .integer background)]),
    (WidgetStyle.area, .table (blankParts.map (·, .array (List.replicate 4 (.float 0))) ++
      [("win_scale", .float 0)]))]

def blankHead (background : String) : String :=
  "[\"$graph_colors$\"]\nGraphBk = " ++ (background ++ "\n\n[\"$imgui_settings$\"]\n")

def blankLine (part : String) : String := part ++ " = [0.0, 0.0, 0.0, 0.0]\n"

def blankText (background : String) : String :=
  blankHead background ++ String.join (blankParts.map blankLine) ++ "win_scale = 0.0\n"

def blankEntry (part : String) : String × Node :=
  (part, .array (List.replicate 4 (.scalar (.float 0))))

def blankNode (background : Int64) (style : List (String × Node)) : Node :=
  .table .header [(ColorTable.area, .table .header [("GraphBk", .scalar (.integer background))]),
    (WidgetStyle.area, .table .header style)]

def blankStyle : List (String × Node) :=
  blankParts.map blankEntry ++ [("win_scale", .scalar (.float 0))]

def blankState (background : Int64) (parts : Nat) : Parser.State where
  root := blankNode background ((blankParts.take parts).map blankEntry)
  header := [WidgetStyle.area]

theorem lines_blankLine (background : Int64) (fuel : Nat) (rest : List Char) (i : Fin 12) :
    Parser.lines (fuel + 1) (blankState background i) ((blankLine blankParts[i]).toList ++ rest) =
      Parser.lines fuel (blankState background (i + 1)) rest := by
  match i with
  | 0 | 1 | 2 | 3 | 4 | 5 | 6 | 7 | 8 | 9 | 10 | 11 => rfl

theorem lines_blankLines (background : Int64) (fuel : Nat) (rest : List Char) {i : Nat}
    (h : i ≤ 12) :
    Parser.lines (fuel + (12 - i)) (blankState background i)
        ((blankParts.drop i).flatMap (fun part => (blankLine part).toList) ++ rest) =
      Parser.lines fuel (blankState background 12) rest := by
  induction h using Nat.decreasingInduction with
  | self => rfl
  | of_succ i hi ih =>
    have hfuel : fuel + (12 - i) = fuel + (12 - (i + 1)) + 1 := by omega
    rw [hfuel, List.drop_eq_getElem_cons hi, List.flatMap_cons, List.append_assoc]
    exact (lines_blankLine background _ _ ⟨i, hi⟩).trans ih

theorem toList_blankText (background : String) :
    (blankText background).toList = (blankHead background).toList ++
      (blankParts.flatMap (fun part => (blankLine part).toList) ++ "win_scale = 0.0\n".toList) := by
  rw [blankText, String.toList_append, String.toList_append, String.toList_join, List.append_assoc]
  rfl

theorem toList_blankHead (background : String) :
    ∃ rest, (blankHead background).toList = '[' :: rest :=
  ⟨_, (String.toList_append ..).trans rfl⟩

theorem node?_blankText {background : Int64} {digits : String}
    (hhead : ∀ fuel rest, Parser.lines (fuel + 4) {} ((blankHead digits).toList ++ rest) =
      Parser.lines fuel (blankState background 0) rest) :
    node? (blankText digits) = some (blankNode background blankStyle) := by
  have hlast (fuel : Nat) :
      Parser.lines (fuel + 2) (blankState background 12) "win_scale = 0.0\n".toList =
        some ⟨blankNode background blankStyle, [WidgetStyle.area]⟩ := rfl
  have hlines (fuel : Nat) : Parser.lines (fuel + 18) {} (blankText digits).toList =
      some ⟨blankNode background blankStyle, [WidgetStyle.area]⟩ := by
    rw [toList_blankText, hhead (fuel + 14)]
    exact (lines_blankLines background (fuel + 2) _ (Nat.zero_le 12)).trans (hlast fuel)
  have hlong : 17 ≤ (blankText digits).toList.length := by
    have hhere : 17 ≤ (blankParts.flatMap (fun part => (blankLine part).toList)).length := by
      decide +kernel
    simp only [toList_blankText, List.length_append]
    omega
  obtain ⟨fuel, hfuel⟩ := Nat.exists_eq_add_of_le' hlong
  obtain ⟨rest, hfirst⟩ : ∃ rest, (blankText digits).toList = '[' :: rest := by
    obtain ⟨rest, hhead⟩ := toList_blankHead digits
    exact ⟨_, (toList_blankText digits).trans (congrArg (· ++ _) hhead)⟩
  rw [node?, hfirst]
  change (Parser.lines (('[' :: rest).length + 1) {} ('[' :: rest)).map (·.root) = _
  rw [← hfirst, hfuel, hlines]
  rfl

theorem document?_blankNode (background : Int64) :
    (blankNode background blankStyle).document? true = some (blankSettings background) := by cbv

theorem print_blankSettings : print (blankSettings 4279505940) = blankText "4279505940" := by
  decide +kernel

end Blank

section Reset

theorem editor_reset (s : Session) :
    (s.run [.press { code := .char 'r' }]).editor = s.editor.reset?.getD s.editor := by
  change (s.change "reset to" s.editor.reset?).editor = _
  cases s.editor.reset? <;> rfl

def blankFile : Tree := { root := .folder [("s.toml", .file (Utf8.encode (blankText "5")))] }

def blankOpened : FileSettings := { path := "s.toml", doc := blankSettings 5 }

theorem load_blankFile : FileSettings.load blankFile "s.toml" = .ok blankOpened := by
  have hnode : Toml.node? (blankText "5") = some (blankNode 5 blankStyle) :=
    node?_blankText fun _ _ => rfl
  have hfind : blankFile.find "s.toml" =
      .ok (["s.toml"], .file (Utf8.encode (blankText "5"))) := rfl
  exact FileSettings.load_of_text rfl (Tree.readText_of_find hfind (Utf8.decode?_encode _))
    (Toml.parseMarked?_of_node hnode (document?_blankNode 5))

def resetEditor : Editor :=
  let e := (startEditor .standard (some blankOpened)).publish
  e.reset?.getD e

theorem doc_reset : (saved resetEditor.colors resetEditor.style blankOpened).doc =
    blankSettings 4279505940 := rfl

theorem flush_reset :
    ((saved resetEditor.colors resetEditor.style blankOpened).flush blankFile).1.isOk = true := by
  decide +kernel

theorem readsBack_reset : Toml.ReadsBack (blankSettings 4279505940) :=
  .of_node print_blankSettings (node?_blankText fun _ _ => rfl) (document?_blankNode _)

def blankConfig : Config := { settingsPath := some "s.toml" }

def resetSession : Session :=
  (start blankConfig .standard ⟨[]⟩ {} blankFile []).run [.press { code := .char 'r' }]

theorem opened?_blankFile : opened? blankConfig blankFile = some blankOpened := by
  have hpath : blankConfig.settingsPath = some "s.toml" := rfl
  rw [opened?_eq hpath, load_blankFile]
  rfl

theorem settings_reset : resetSession.settings = some blankOpened :=
  (settings_run_start ..).trans opened?_blankFile

theorem save_reset : resetSession.save blankOpened =
    saved resetEditor.colors resetEditor.style blankOpened := by
  rw [save_eq, resetSession, editor_reset, editor_start, opened?_blankFile]
  rfl

end Reset

/-- What the settings hold outlives the session. A session that ends well leaves a file from which
the next one starts with the same colors, none of them changed, and the same style; nothing else in
the document changes, and a further session that edits nothing leaves it as it is. Settings that
cannot be read are never written. -/
theorem settings_outlive_session {config : Config} {path : Path}
    (hpath : config.settingsPath = some path) (palette : Palette) (filter : Filter) (log : Log)
    (tree : Tree) (files : List Path) (xs : List Step) :
    let s := (start config palette filter log tree files).run xs
    let ending := s.shutdown tree
    (∀ e, FileSettings.load tree path = .error e → ending.tree = tree) ∧
    ∀ opened, FileSettings.load tree path = .ok opened → ending.result = .ok () →
      Toml.ReadsBack (s.save opened).doc →
      ∃ stored, FileSettings.load ending.tree path = .ok stored ∧
        stored.doc = (s.save opened).doc ∧ Preserved s.editor.colors opened stored ∧
        ∀ (config' : Config) (palette' : Palette) (filter' : Filter) (log' : Log)
          (files' : List Path), config'.settingsPath = some path →
          let next := start config' palette' filter' log' ending.tree files'
          Restored next.editor s.editor ∧
            ∀ ys, (∀ y ∈ ys, y.edits = false) →
              let again := next.run ys
              (again.save stored).doc = stored.doc ∧
                FileSettings.load (again.shutdown ending.tree).tree path = .ok stored := by
  intro s ending
  have hopened := opened?_eq hpath tree
  refine ⟨fun e hload => ?_, fun opened hload hdone hprint => ?_⟩
  · rw [hload] at hopened
    exact tree_shutdown_of_none ((settings_run_start ..).trans hopened) tree
  rw [hload] at hopened
  have hkept : s.ColorsKept (ColorTable.load {} opened) := colorsKept_run_start _ _ _ _ _ hopened
  have hsave := save_eq s opened
  obtain ⟨htree, hresult⟩ := shutdown_eq ((settings_run_start ..).trans hopened) tree
  rw [hsave] at htree hresult hprint ⊢
  have hstored : FileSettings.load ending.tree path =
      .ok { saved s.editor.colors s.editor.style opened with dirty := false } := by
    rw [htree]
    exact FileSettings.load_flush hload (hresult.mp hdone) hprint
  refine ⟨_, hstored, rfl, ?_, fun config' palette' filter' log' files' hpath' => ?_⟩
  · obtain ⟨hkey, hareas, hentry, hcolors⟩ := preserved_saved s.editor.colors s.editor.style opened
    exact ⟨hkey, hareas, hentry, hcolors⟩
  generalize hstore : { saved s.editor.colors s.editor.style opened with dirty := false } = stored
    at hstored ⊢
  have hdoc : stored.doc = (saved s.editor.colors s.editor.style opened).doc := by rw [← hstore]
  have hreopened : opened? config' ending.tree = some stored := by
    rw [opened?_eq hpath', hstored]
    rfl
  obtain ⟨hrestored, hagain⟩ := restored_of_saved hdoc hkept s.editor rfl rfl palette'
  intro next
  have heditor : next.editor = (startEditor palette' (some stored)).publish := by
    rw [editor_start, hreopened]
  have hne : stored.doc ≠ [] := hdoc ▸ doc_saved_ne_nil _ _ _
  exact ⟨heditor ▸ hrestored, fun ys hys =>
    saved_run_start _ _ _ _ _ hreopened hstored hne (hdoc ▸ hprint) hagain hys⟩

theorem settings_outlive_session_reset :
    let ending := resetSession.shutdown blankFile
    FileSettings.load blankFile "s.toml" = .ok blankOpened ∧ ending.result = .ok () ∧
      Toml.ReadsBack (resetSession.save blankOpened).doc ∧
      ∃ stored, FileSettings.load ending.tree "s.toml" = .ok stored ∧
        stored.doc = blankSettings 4279505940 ∧
        let next := start blankConfig .standard ⟨[]⟩ {} ending.tree []
        Restored next.editor resetSession.editor ∧
          let again := next.run [.press { code := .char 't' }, .update]
          (again.save stored).doc = stored.doc ∧
            FileSettings.load (again.shutdown ending.tree).tree "s.toml" = .ok stored := by
  intro ending
  have hdoc : (resetSession.save blankOpened).doc = blankSettings 4279505940 :=
    save_reset ▸ doc_reset
  have hdone : ending.result = .ok () :=
    (shutdown_eq settings_reset blankFile).2.mpr (save_reset ▸ flush_reset)
  have hprint : Toml.ReadsBack (resetSession.save blankOpened).doc := hdoc ▸ readsBack_reset
  have hpath : blankConfig.settingsPath = some "s.toml" := rfl
  obtain ⟨stored, hstored, hsame, -, hnext⟩ :=
    (settings_outlive_session hpath .standard ⟨[]⟩ {} blankFile []
      [.press { code := .char 'r' }]).2 blankOpened load_blankFile hdone hprint
  obtain ⟨hrestored, hagain⟩ := hnext blankConfig .standard ⟨[]⟩ {} [] hpath
  have hquiet : ∀ y ∈ [Step.press { code := .char 't' }, .update], y.edits = false := by decide
  exact ⟨load_blankFile, hdone, hprint, stored, hstored, hsame.trans hdoc, hrestored,
    hagain _ hquiet⟩

end Session

end TraceView
