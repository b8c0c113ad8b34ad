import TraceView.Proofs.Config.Layers

namespace TraceView

def Overrides.setsAny (o : Overrides) : Bool := o.settingsPath.isSome || o.frameRate.isSome

def FileConfig.setsAny (f : FileConfig) : Bool :=
  f.frameRate.isSome || f.smallFont.isSome || f.textColor.isSome || f.settingsPath.isSome

namespace Config

def highestLayer (o : Overrides) (env : Environment) (f : FileConfig) : ConfigSource :=
  if o.setsAny then .commandLine
  else if env.setsAny then .environment
  else if f.setsAny then .file
  else .standard

/-- A file that sets nothing, below layers that set nothing. -/
structure SilentFile (tree : Tree) (path : Option Path) (f : FileConfig) (env : Environment)
    (o : Overrides) : Prop where
  found : (path.filter tree.exists?).isSome = true
  file : f.setsAny = false
  environment : env.setsAny = false
  commandLine : o.setsAny = false

variable {tree : Tree} {path : Option Path} {env : Environment} {f : FileConfig} {c : Config}

theorem found_of_setsAny (h : FileSets tree path f) (hsets : f.setsAny = true) :
    (path.filter tree.exists?).isSome = true := by
  cases h with
  | none => cases hsets
  | missing => cases hsets
  | read hexists => simp [Option.filter, hexists]

theorem eq_resolved_of_load (h : FileSets tree path f) (hload : load path tree env = .ok c) :
    c = resolved path tree env f := by
  rw [load_of_sets h] at hload
  split at hload <;> cases hload
  rfl

theorem source_apply (h : FileSets tree path f) (hload : load path tree env = .ok c) (o : Overrides) :
    (o.apply c).2.source =
      if o.setsAny then .commandLine
      else if env.setsAny then .environment
      else if (path.filter tree.exists?).isSome then .file
      else .standard := by
  rw [eq_resolved_of_load h hload]
  rfl

theorem source_of_silentFile (h : FileSets tree path f) (hload : load path tree env = .ok c)
    {o : Overrides} (hsilent : SilentFile tree path f env o) : (o.apply c).2.source = .file := by
  simp [source_apply h hload, hsilent.found, hsilent.environment, hsilent.commandLine]

/-- The source is the highest layer that sets a field, but for a file that sets nothing. -/
theorem source_highest_iff (h : FileSets tree path f) (hload : load path tree env = .ok c)
    (o : Overrides) :
    (o.apply c).2.source = highestLayer o env f ↔ ¬SilentFile tree path f env o := by
  constructor
  · intro hsource hsilent
    rw [source_of_silentFile h hload hsilent, highestLayer] at hsource
    simp [hsilent.file, hsilent.environment, hsilent.commandLine] at hsource
  · intro hloud
    rw [source_apply h hload, highestLayer]
    split
    case isTrue => rfl
    case isFalse hcommandLine =>
    split
    case isTrue => rfl
    case isFalse henvironment =>
    cases hfile : f.setsAny with
    | true => rw [if_pos (found_of_setsAny h hfile), if_pos rfl]
    | false =>
      have hmissing : ¬(path.filter tree.exists?).isSome = true := fun hfound =>
        hloud ⟨hfound, hfile, Bool.eq_false_iff.mpr henvironment, Bool.eq_false_iff.mpr hcommandLine⟩
      rw [if_neg hmissing, if_neg Bool.false_ne_true]

def emptyFile : Tree := { root := .folder [("tracevis.toml", .file [])] }

theorem emptyFile_sets : FileSets emptyFile (some "tracevis.toml") {} :=
  .read rfl rfl rfl rfl fun _ hcolor => nomatch hcolor

theorem load_emptyFile :
    load (some "tracevis.toml") emptyFile {} = .ok (resolved (some "tracevis.toml") emptyFile {} {}) := by
  rw [load_of_sets emptyFile_sets, if_pos (by decide +kernel)]

theorem source_highest_iff_environment :
    let env : Environment := { vars := [("TRACEVIS_FRAME_RATE", "60")] }
    FileSets emptyFile (some "tracevis.toml") {} ∧
      ∃ c, load (some "tracevis.toml") emptyFile env = .ok c ∧
        (Overrides.apply {} c).2.source = .environment := by
  intro env
  have hload : load (some "tracevis.toml") emptyFile env =
      .ok (resolved (some "tracevis.toml") emptyFile env {}) := by
    rw [load_of_sets emptyFile_sets, if_pos (by decide +kernel)]
  have hlayer : highestLayer {} env {} = .environment := by decide +kernel
  have hsource := (source_highest_iff emptyFile_sets hload {}).mpr fun hsilent =>
    absurd hsilent.environment (by decide +kernel)
  exact ⟨emptyFile_sets, _, hload, hsource.trans hlayer⟩

/-- A file that sets nothing is called the source of a configuration of defaults. -/
theorem silent_file_is_source :
    ¬∀ (tree : Tree) (path : Option Path) (env : Environment) (f : FileConfig) (c : Config)
        (o : Overrides),
      FileSets tree path f → load path tree env = .ok c → (o.apply c).1 = .ok () →
        (o.apply c).2.source = highestLayer o env f := by
  intro hsource
  have happly : (Overrides.apply {} (resolved (some "tracevis.toml") emptyFile {} {})).1 = .ok () := by
    rw [Overrides.apply, validate, if_pos (by decide +kernel)]
  have h := hsource _ _ _ _ _ {} emptyFile_sets load_emptyFile happly
  rw [source_apply emptyFile_sets load_emptyFile] at h
  revert h
  decide +kernel

end Config

end TraceView
