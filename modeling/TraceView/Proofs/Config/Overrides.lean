import TraceView.Proofs.Config.Layers

namespace TraceView.Config

/-- The frame rate of the layers below the command line: that of the environment, or that of the file, or
the default. -/
def lowerRate (env : Environment) (f : FileConfig) : Nat :=
  (envFrameRate? env <|> f.frameRate).getD (standard env).frameRate

variable {tree : Tree} {path : Option Path} {f : FileConfig} {c : Config}

theorem frameRate_resolved (path : Option Path) (tree : Tree) (env : Environment) (f : FileConfig) :
    (resolved path tree env f).frameRate = lowerRate env f := rfl

theorem load_of_fileSets (h : FileSets tree path f) (env : Environment) :
    if slowest ≤ lowerRate env f ∧ lowerRate env f ≤ fastest then
      ∃ c, load path tree env = .ok c
    else load path tree env = .error (.frameRate (lowerRate env f)) := by
  rw [load_of_sets h, ← frameRate_resolved path tree]
  split
  case isTrue hvalid => exact ⟨_, if_pos hvalid⟩
  case isFalse hinvalid => exact if_neg hinvalid

theorem apply_ok {o : Overrides} {rate : Nat} (c : Config) (ho : o.frameRate = some rate)
    (hrate : slowest ≤ rate ∧ rate ≤ fastest) :
    (o.apply c).1 = .ok () ∧ (o.apply c).2.frameRate = rate ∧
      (o.apply c).2.settingsPath = (o.settingsPath <|> c.settingsPath) := by
  have hset : (o.set c).frameRate = rate := by rw [Overrides.set, ho]; rfl
  refine ⟨?_, hset, rfl⟩
  rw [Overrides.apply, validate, if_pos (isValid_iff.mpr (hset ▸ hrate))]

/-- A frame rate and a settings path of the command line stand in the end exactly if the frame rate that
they replace is in range itself. -/
theorem overrides_win (h : FileSets tree path f) (env : Environment) (settings : Option Path)
    {rate : Nat} (hrate : slowest ≤ rate ∧ rate ≤ fastest) :
    (∃ c, load path tree env = .ok c ∧
      let applied := Overrides.apply { settingsPath := settings, frameRate := some rate } c
      applied.1 = .ok () ∧ applied.2.frameRate = rate ∧
        applied.2.settingsPath = (settings <|> c.settingsPath)) ↔
      slowest ≤ lowerRate env f ∧ lowerRate env f ≤ fastest := by
  have hload := load_of_fileSets h env
  constructor
  · rintro ⟨c, hc, -⟩
    split at hload
    case isTrue hvalid => exact hvalid
    case isFalse =>
      rw [hc] at hload
      cases hload
  · intro hvalid
    rw [if_pos hvalid] at hload
    obtain ⟨c, hc⟩ := hload
    exact ⟨c, hc, apply_ok c rfl hrate⟩

theorem overrides_win_over_environment :
    let env : Environment := { vars := [("TRACEVIS_FRAME_RATE", "60")] }
    FileSets fastFile (some "tracevis.toml") { frameRate := some 500 } ∧
      (slowest ≤ 24 ∧ 24 ≤ fastest) ∧ lowerRate env { frameRate := some 500 } = 60 ∧
      ∃ c, load (some "tracevis.toml") fastFile env = .ok c ∧
        let applied := Overrides.apply { settingsPath := some "cli.toml", frameRate := some 24 } c
        applied.1 = .ok () ∧ applied.2.frameRate = 24 ∧
          applied.2.settingsPath = some "cli.toml" := by
  intro env
  have hrate : slowest ≤ 24 ∧ 24 ≤ fastest := by decide
  have hlower : lowerRate env { frameRate := some 500 } = 60 := by decide +kernel
  have hwin := (overrides_win fastFile_sets env (some "cli.toml") hrate).mpr (by rw [hlower]; decide)
  exact ⟨fastFile_sets, hrate, hlower, hwin⟩

/-- The frame rate of the file is refused before that of the command line is looked at. -/
theorem overrides_come_too_late :
    ¬∀ (tree : Tree) (path : Option Path) (f : FileConfig) (env : Environment)
        (settings : Option Path) (rate : Nat),
      FileSets tree path f → slowest ≤ rate ∧ rate ≤ fastest →
      ∃ c, load path tree env = .ok c ∧
        let applied := Overrides.apply { settingsPath := settings, frameRate := some rate } c
        applied.1 = .ok () ∧ applied.2.frameRate = rate ∧
          applied.2.settingsPath = (settings <|> c.settingsPath) := by
  intro hwin
  obtain ⟨c, hc, -⟩ := hwin fastFile _ _ {} none 60 fastFile_sets (by decide)
  have hlower : lowerRate {} { frameRate := some 500 } = 500 := by decide +kernel
  have hload := load_of_fileSets fastFile_sets {}
  rw [hlower, if_neg (by decide), hc] at hload
  cases hload

end TraceView.Config
