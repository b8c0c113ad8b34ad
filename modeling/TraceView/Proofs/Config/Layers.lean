import TraceView.Config.Load

namespace TraceView

inductive Variable where
  | frameRate
  | settings
  | smallFont

namespace Variable

def all : List Variable := [frameRate, settings, smallFont]

def name : Variable → String
  | frameRate => "TRACEVIS_FRAME_RATE"
  | settings => "TRACEVIS_SETTINGS"
  | smallFont => "TRACEVIS_SMALL_FONT"

def rate? (text : String) : Option Nat := Natural.read? UInt32.size text

def path? (text : String) : Option Path := if text = "" then none else some ⟨text⟩

def flag? (text : String) : Option Bool :=
  if text ∈ ["1", "true", "yes"] then some true
  else if text ∈ ["0", "false", "no"] then some false
  else none

def isValue : Variable → String → Bool
  | frameRate, text => (rate? text).isSome
  | settings, text => (path? text).isSome
  | smallFont, text => (flag? text).isSome

theorem name_inj {v w : Variable} (h : v.name = w.name) : v = w := by
  cases v <;> cases w <;> first | rfl | exact absurd h (by decide)

end Variable

namespace Environment

def sets (env : Environment) (v : Variable) : Bool := (env.get? v.name).any v.isValue

def setsAny (env : Environment) : Bool := Variable.all.any env.sets

structure AgreeBut (name : String) (env env' : Environment) : Prop where
  get? : ∀ other, other ≠ name → env.get? other = env'.get? other
  accountHome : env.accountHome = env'.accountHome

end Environment

namespace Config

open Variable (rate? path? flag?)

/-- What the file sets: nothing where there is none, and otherwise what it reads as, if the color that it
names is one. -/
inductive FileSets (tree : Tree) : Option Path → FileConfig → Prop
  | none : FileSets tree none {}
  | missing : tree.exists? path = false → FileSets tree (some path) {}
  | read : tree.exists? path = true → tree.readText path = .ok text → Toml.parse? text = some doc →
      FileConfig.ofDocument? doc = some f →
      (∀ color, f.textColor = some color → (Rgba.ofHex? color).isSome) →
      FileSets tree (some path) f

/-- The file cannot be read, or is no configuration, or names a color that is none. -/
inductive FileRefused (tree : Tree) : Option Path → ConfigError → Prop
  | unreadable : tree.exists? path = true → tree.readText path = .error cause →
      FileRefused tree (some path) (.read path cause)
  | misshapen : tree.exists? path = true → tree.readText path = .ok text →
      (Toml.parse? text).bind FileConfig.ofDocument? = none → FileRefused tree (some path) .parse
  | color : tree.exists? path = true → tree.readText path = .ok text →
      (Toml.parse? text).bind FileConfig.ofDocument? = some f → f.textColor = some color →
      Rgba.ofHex? color = none → FileRefused tree (some path) (.color color)

/-- Every field as the highest layer has it that sets it: the environment, the file, the default. -/
def resolved (path : Option Path) (tree : Tree) (env : Environment) (f : FileConfig) : Config where
  frameRate := ((env.get? "TRACEVIS_FRAME_RATE").bind rate? <|> f.frameRate).getD 30
  smallFont := ((env.get? "TRACEVIS_SMALL_FONT").bind flag? <|> f.smallFont).getD true
  textColor := (f.textColor.bind Rgba.ofHex?).getD ⟨230, 230, 230, 255⟩
  settingsPath := (env.get? "TRACEVIS_SETTINGS").bind path? <|> f.settingsPath.map Path.mk <|>
    standardSettingsPath? env
  filePath := path.filter tree.exists?
  source :=
    if env.setsAny then .environment
    else if (path.filter tree.exists?).isSome then .file
    else .standard

theorem getD_orElse {α : Type} (a b : Option α) (d : α) : (a <|> b).getD d = a.getD (b.getD d) := by
  cases a <;> rfl

section Environment

variable (env : Environment)

theorem envFrameRate?_eq : envFrameRate? env = (env.get? "TRACEVIS_FRAME_RATE").bind rate? := rfl

theorem envSettings?_eq : envSettings? env = (env.get? "TRACEVIS_SETTINGS").bind path? := by
  rw [envSettings?]
  split
  case h_1 hempty => rw [hempty]; rfl
  case h_2 hnone => rw [hnone]; rfl
  case h_3 text hne htext =>
    rw [htext, Option.bind_some, path?, if_neg]
    exact fun h => hne h

theorem envSmallFont?_eq : envSmallFont? env = (env.get? "TRACEVIS_SMALL_FONT").bind flag? := by
  rw [envSmallFont?]
  cases env.get? "TRACEVIS_SMALL_FONT" with
  | none => rfl
  | some text =>
    rw [Option.bind_some, flag?]
    split <;> simp_all

theorem sets_frameRate : env.sets .frameRate = (envFrameRate? env).isSome :=
  (Option.isSome_bind ..).symm

theorem sets_settings : env.sets .settings = (envSettings? env).isSome := by
  rw [envSettings?_eq]
  exact (Option.isSome_bind ..).symm

theorem sets_smallFont : env.sets .smallFont = (envSmallFont? env).isSome := by
  rw [envSmallFont?_eq]
  exact (Option.isSome_bind ..).symm

theorem setsAny_eq :
    env.setsAny = ((envFrameRate? env).isSome || (envSettings? env).isSome ||
      (envSmallFont? env).isSome) := by
  simp only [Environment.setsAny, Variable.all, List.any_cons, List.any_nil, Bool.or_false,
    sets_frameRate, sets_settings, sets_smallFont, Bool.or_assoc]

end Environment

variable {tree : Tree} {path : Option Path} {env env' : Environment} {f : FileConfig} {c : Config}
  {e : ConfigError}

def ofSets (path : Option Path) (tree : Tree) (env : Environment) (f : FileConfig) : Config where
  frameRate := f.frameRate.getD 30
  smallFont := f.smallFont.getD true
  textColor := (f.textColor.bind Rgba.ofHex?).getD ⟨230, 230, 230, 255⟩
  settingsPath := f.settingsPath.map Path.mk <|> standardSettingsPath? env
  filePath := path.filter tree.exists?
  source := if (path.filter tree.exists?).isSome then .file else .standard

theorem withEnvironment_ofSets (path : Option Path) (tree : Tree) (env : Environment)
    (f : FileConfig) : (ofSets path tree env f).withEnvironment env = resolved path tree env f := by
  rw [withEnvironment, ofSets, resolved, ← setsAny_eq, ← envFrameRate?_eq, ← envSettings?_eq,
    ← envSmallFont?_eq, getD_orElse, getD_orElse]

theorem withFile_of_color (c : Config)
    (hcolor : ∀ color, f.textColor = some color → (Rgba.ofHex? color).isSome) :
    c.withFile f = .ok { c with
      frameRate := f.frameRate.getD c.frameRate
      smallFont := f.smallFont.getD c.smallFont
      textColor := (f.textColor.bind Rgba.ofHex?).getD c.textColor
      settingsPath := f.settingsPath.map Path.mk <|> c.settingsPath } := by
  unfold withFile
  cases htext : f.textColor with
  | none => rfl
  | some text =>
    obtain ⟨color, hhex⟩ := Option.isSome_iff_exists.mp (hcolor text htext)
    simp only [hhex, Option.bind_some]
    rfl

theorem ofFile_of_sets (h : FileSets tree path f) (env : Environment) :
    ofFile path tree env = .ok (ofSets path tree env f) := by
  cases h with
  | none => rfl
  | missing hexists => simp [ofFile, readFile, hexists, ofSets, standard, Option.filter]
  | read hexists htext hdoc hshape hcolor =>
    simp [ofFile, readFile, hexists, htext, hdoc, hshape, withFile_of_color _ hcolor, ofSets,
      standard, Except.map, Option.filter]

theorem withFile_of_bad_color (c : Config) {color : String} (htext : f.textColor = some color)
    (hhex : Rgba.ofHex? color = none) : c.withFile f = .error (.color color) := by
  unfold withFile
  simp only [htext, hhex]
  rfl

theorem ofFile_of_refused (h : FileRefused tree path e) (env : Environment) :
    ofFile path tree env = .error e := by
  cases h with
  | unreadable hexists htext => simp [ofFile, readFile, hexists, htext]
  | misshapen hexists htext hshape => simp [ofFile, readFile, hexists, htext, hshape]
  | color hexists htext hshape hcolor hhex =>
    simp [ofFile, readFile, hexists, htext, hshape, withFile_of_bad_color _ hcolor hhex, Except.map]

theorem fileSets_or_fileRefused (tree : Tree) (path : Option Path) :
    (∃ f, FileSets tree path f) ∨ ∃ e, FileRefused tree path e := by
  cases path with
  | none => exact .inl ⟨_, .none⟩
  | some path =>
    cases hexists : tree.exists? path with
    | false => exact .inl ⟨_, .missing hexists⟩
    | true =>
      cases htext : tree.readText path with
      | error cause => exact .inr ⟨_, .unreadable hexists htext⟩
      | ok text =>
        cases hshape : (Toml.parse? text).bind FileConfig.ofDocument? with
        | none => exact .inr ⟨_, .misshapen hexists htext hshape⟩
        | some f =>
          obtain ⟨doc, hdoc, hf⟩ := Option.bind_eq_some_iff.mp hshape
          cases hcolor : f.textColor with
          | none => exact .inl ⟨f, .read hexists htext hdoc hf (by simp [hcolor])⟩
          | some color =>
            cases hhex : Rgba.ofHex? color with
            | none => exact .inr ⟨_, .color hexists htext hshape hcolor hhex⟩
            | some _ => exact .inl ⟨f, .read hexists htext hdoc hf (by simp [hcolor, hhex])⟩

theorem bind_get?_of_not_sets {α : Type} {v : Variable} {read? : String → Option α}
    (hread : ∀ text, v.isValue text = (read? text).isSome) (h : env.sets v = false) :
    (env.get? v.name).bind read? = none := by
  rw [Option.bind_eq_none_iff]
  intro text htext
  rw [Environment.sets, htext, Option.any_some, hread] at h
  exact Option.not_isSome_iff_eq_none.mp (Bool.eq_false_iff.mp h)

section AgreeBut

variable {v : Variable} (h : env.AgreeBut v.name env')

include h

theorem standardSettingsPath?_congr : standardSettingsPath? env = standardSettingsPath? env' := by
  have hhome : env.get? "HOME" = env'.get? "HOME" := h.get? _ (by cases v <;> decide)
  have hfolder : env.get? "XDG_CONFIG_HOME" = env'.get? "XDG_CONFIG_HOME" :=
    h.get? _ (by cases v <;> decide)
  simp only [standardSettingsPath?, standardFile?, Environment.configFolder?, Environment.home?, hhome,
    hfolder, h.accountHome]

variable (hsets : env.sets v = false) (hsets' : env'.sets v = false)

include hsets hsets'

theorem bind_get?_congr {α : Type} (w : Variable) (read? : String → Option α)
    (hread : ∀ text, w.isValue text = (read? text).isSome) :
    (env.get? w.name).bind read? = (env'.get? w.name).bind read? := by
  -- The variable itself reads as nothing on both sides; no other differs.
  by_cases hname : w.name = v.name
  · cases Variable.name_inj hname
    rw [bind_get?_of_not_sets hread hsets, bind_get?_of_not_sets hread hsets']
  · rw [h.get? _ hname]

theorem resolved_congr (path : Option Path) (tree : Tree) (f : FileConfig) :
    resolved path tree env f = resolved path tree env' f := by
  have hrate := bind_get?_congr h hsets hsets' .frameRate rate? fun _ => rfl
  have hsettings := bind_get?_congr h hsets hsets' .settings path? fun _ => rfl
  have hsmall := bind_get?_congr h hsets hsets' .smallFont flag? fun _ => rfl
  simp only [Variable.name] at hrate hsettings hsmall
  have hany : env.setsAny = env'.setsAny := by
    rw [setsAny_eq, setsAny_eq, envFrameRate?_eq, envFrameRate?_eq, envSettings?_eq, envSettings?_eq,
      envSmallFont?_eq, envSmallFont?_eq, hrate, hsettings, hsmall]
  rw [resolved, resolved, hrate, hsettings, hsmall, hany, standardSettingsPath?_congr h]

end AgreeBut

theorem isValid_iff : c.isValid = true ↔ slowest ≤ c.frameRate ∧ c.frameRate ≤ fastest := by
  rw [isValid, Bool.and_eq_true, decide_eq_true_eq, decide_eq_true_eq]

theorem checked_of_valid (h : slowest ≤ c.frameRate ∧ c.frameRate ≤ fastest) :
    c.checked = .ok c := by
  rw [checked, validate, if_pos (isValid_iff.mpr h)]
  rfl

theorem checked_of_invalid (h : ¬(slowest ≤ c.frameRate ∧ c.frameRate ≤ fastest)) :
    c.checked = .error (.frameRate c.frameRate) := by
  rw [checked, validate, if_neg fun hvalid => h (isValid_iff.mp hvalid)]
  rfl

theorem load_of_sets (h : FileSets tree path f) (env : Environment) :
    load path tree env =
      if 1 ≤ (resolved path tree env f).frameRate ∧ (resolved path tree env f).frameRate ≤ 240 then
        .ok (resolved path tree env f)
      else .error (.frameRate (resolved path tree env f).frameRate) := by
  rw [load, ofFile_of_sets h]
  change checked ((ofSets path tree env f).withEnvironment env) = _
  rw [withEnvironment_ofSets]
  split
  case isTrue hvalid => exact checked_of_valid hvalid
  case isFalse hinvalid => exact checked_of_invalid hinvalid

theorem load_of_refused (h : FileRefused tree path e) (env : Environment) :
    load path tree env = .error e := by
  rw [load, ofFile_of_refused h]
  rfl

theorem load_congr {v : Variable} (path : Option Path) (tree : Tree)
    (h : env.AgreeBut v.name env') (hsets : env.sets v = false) (hsets' : env'.sets v = false) :
    load path tree env = load path tree env' := by
  obtain ⟨f, hf⟩ | ⟨e, he⟩ := fileSets_or_fileRefused tree path
  · rw [load_of_sets hf, load_of_sets hf, resolved_congr h hsets hsets']
  · rw [load_of_refused he, load_of_refused he]

/-- Every path, file and environment: what is refused and why, what every field is otherwise, that a frame
rate of the environment makes up for any in the file, and that text that is no value changes nothing. -/
theorem load_by_precedence (path : Option Path) (tree : Tree) (env : Environment) :
    ((∃ f, FileSets tree path f) ∨ ∃ e, FileRefused tree path e) ∧
      (∀ e, FileRefused tree path e → load path tree env = .error e) ∧
      (∀ f, FileSets tree path f →
        load path tree env =
          if 1 ≤ (resolved path tree env f).frameRate ∧ (resolved path tree env f).frameRate ≤ 240
          then .ok (resolved path tree env f)
          else .error (.frameRate (resolved path tree env f).frameRate)) ∧
      (∀ f rate, FileSets tree path f → (env.get? "TRACEVIS_FRAME_RATE").bind rate? = some rate →
        1 ≤ rate ∧ rate ≤ 240 → ∃ c, load path tree env = .ok c ∧ c.frameRate = rate) ∧
      ∀ v env', env.AgreeBut v.name env' → env.sets v = false → env'.sets v = false →
        load path tree env = load path tree env' := by
  refine ⟨fileSets_or_fileRefused tree path, fun e he => load_of_refused he env,
    fun f hf => load_of_sets hf env, ?_, fun v env' => load_congr path tree⟩
  intro f rate hf hvariable hrate
  have hresolved : (resolved path tree env f).frameRate = rate := by rw [resolved, hvariable]; rfl
  refine ⟨_, ?_, hresolved⟩
  rw [load_of_sets hf, hresolved, if_pos hrate]

def fastFile : Tree :=
  { root := .folder [("tracevis.toml", .file (Utf8.encode "[ui]\nframe_rate = 500\n"))] }

theorem fastFile_sets : FileSets fastFile (some "tracevis.toml") { frameRate := some 500 } := by
  have hnode : Toml.node? "[ui]\nframe_rate = 500\n" = some (.table .header [("ui", .table .header
      [("frame_rate", .scalar (.integer 500))])]) := rfl
  have hdoc : Toml.parse? "[ui]\nframe_rate = 500\n" =
      some [("ui", .table [("frame_rate", .integer 500)])] := by
    rw [Toml.parse?, hnode, Option.bind_some]
    cbv
  refine .read rfl rfl hdoc rfl ?_
  intro color hcolor
  cases hcolor

theorem load_by_precedence_fast :
    let env : Environment :=
      { vars := [("TRACEVIS_FRAME_RATE", "60"), ("TRACEVIS_SMALL_FONT", "maybe")] }
    FileSets fastFile (some "tracevis.toml") { frameRate := some 500 } ∧
      ∃ c, load (some "tracevis.toml") fastFile env = .ok c ∧ c.frameRate = 60 ∧
        c.smallFont = true ∧ c.filePath = some "tracevis.toml" ∧ c.source = .environment := by
  intro env
  let f : FileConfig := { frameRate := some 500 }
  have hrate : (resolved (some "tracevis.toml") fastFile env f).frameRate = 60 := by decide +kernel
  obtain ⟨-, -, hload, -⟩ := load_by_precedence (some "tracevis.toml") fastFile env
  have hok := hload f fastFile_sets
  rw [hrate, if_pos (by decide)] at hok
  exact ⟨fastFile_sets, _, hok, hrate, by decide +kernel, by decide +kernel, by decide +kernel⟩

end Config

end TraceView
