import TraceView.CommandLine.Run
import TraceView.Proofs.Config.Sources

namespace TraceView

structure Overrides.Applied (o : Overrides) (c c' : Config) : Prop where
  frameRate : c'.frameRate = o.frameRate.getD c.frameRate
  settingsPath : c'.settingsPath = (o.settingsPath <|> c.settingsPath)
  source : c'.source = if o.setsAny then .commandLine else c.source
  smallFont : c'.smallFont = c.smallFont
  textColor : c'.textColor = c.textColor
  filePath : c'.filePath = c.filePath

namespace Config

variable {c : Config} {e : ConfigError}

theorem validate_eq_ok_iff : c.validate = .ok () ↔ c.isValid = true := by
  rw [validate]
  split <;> simp_all

theorem validate_eq_error_iff :
    c.validate = .error e ↔ c.isValid ≠ true ∧ e = .frameRate c.frameRate := by
  rw [validate]
  split
  case isTrue hvalid => simp [hvalid]
  case isFalse hinvalid => simp [hinvalid, eq_comm]

end Config

namespace CommandLine

variable {a : Arguments} {env : Environment} {tree : Tree} {c : Config} {i : Invocation} {p : Prepared}

theorem isValid_of_resolve (h : (resolve a env tree).2 = .ok c) : c.isValid = true := by
  unfold resolve at h
  dsimp only at h
  split at h
  case h_1 => cases h
  case h_2 =>
  split at h
  case h_1 => cases h
  case h_2 =>
  split at h
  case h_1 => cases h
  case h_2 happly =>
    cases h
    obtain ⟨hvalidate, rfl⟩ := Prod.mk.inj happly
    exact Config.validate_eq_ok_iff.mp hvalidate

theorem isValid_of_prepare (h : prepare i = .ok p) : p.config.isValid = true := by
  unfold prepare at h
  split at h
  case h_1 => cases h
  case h_2 =>
  dsimp only at h
  split at h
  case h_1 => cases h
  case h_2 =>
  split at h
  case h_1 => cases h
  case h_2 hresolve =>
    cases h
    exact isValid_of_resolve hresolve

end CommandLine

namespace Overrides

variable {c : Config} {o : Overrides} {e : ConfigError}

theorem applied (o : Overrides) (c : Config) : o.Applied c (o.apply c).2 :=
  ⟨rfl, rfl, rfl, rfl, rfl, rfl⟩

theorem isValid_set (hvalid : c.isValid = true) (o : Overrides) :
    (o.set c).isValid = true ↔ ∀ rate, o.frameRate = some rate → 1 ≤ rate ∧ rate ≤ 240 := by
  rw [Config.isValid_iff] at hvalid ⊢
  cases hrate : o.frameRate with
  | none => simpa [set, hrate] using hvalid
  | some rate => simp [set, hrate, Config.slowest, Config.fastest]

theorem apply_eq_ok_iff (hvalid : c.isValid = true) (o : Overrides) :
    (o.apply c).1 = .ok () ↔ ∀ rate, o.frameRate = some rate → 1 ≤ rate ∧ rate ≤ 240 := by
  rw [apply, Config.validate_eq_ok_iff, isValid_set hvalid]

theorem apply_eq_error_iff (hvalid : c.isValid = true) (o : Overrides) :
    (o.apply c).1 = .error e ↔
      ∃ rate, o.frameRate = some rate ∧ ¬(1 ≤ rate ∧ rate ≤ 240) ∧ e = .frameRate rate := by
  rw [apply, Config.validate_eq_error_iff, Ne, isValid_set hvalid]
  cases hrate : o.frameRate with
  | none => simp
  | some rate => simp [set, hrate]

/-- Over a configuration in range, a frame rate out of range is all that is refused. Either way the values
of the command line are in place and all else is as it was, so that what was refused is out of range; no
program goes on with it. -/
theorem apply_checks_last (hvalid : c.isValid = true) (o : Overrides) :
    ((o.apply c).1 = .ok () ↔ ∀ rate, o.frameRate = some rate → 1 ≤ rate ∧ rate ≤ 240) ∧
      (∀ e, (o.apply c).1 = .error e ↔
        ∃ rate, o.frameRate = some rate ∧ ¬(1 ≤ rate ∧ rate ≤ 240) ∧ e = .frameRate rate) ∧
      o.Applied c (o.apply c).2 ∧
      ((o.apply c).2.isValid = true ↔ (o.apply c).1 = .ok ()) ∧
      ∀ i p, CommandLine.prepare i = .ok p → p.config.isValid = true := by
  refine ⟨apply_eq_ok_iff hvalid o, fun e => apply_eq_error_iff hvalid o, applied o c, ?_,
    fun i p => CommandLine.isValid_of_prepare⟩
  rw [apply, Config.validate_eq_ok_iff]

theorem apply_checks_last_path :
    let c := Config.standard {}
    let o : Overrides := { settingsPath := some "cli.toml", frameRate := some 0 }
    c.isValid = true ∧ (o.apply c).1 = .error (.frameRate 0) ∧ (o.apply c).2.frameRate = 0 ∧
      (o.apply c).2.settingsPath = some "cli.toml" ∧ (o.apply c).2.source = .commandLine := by
  intro c o
  have hvalid : c.isValid = true := by decide +kernel
  obtain ⟨-, herror, happlied, -⟩ := apply_checks_last hvalid o
  exact ⟨hvalid, (herror _).mpr ⟨0, rfl, by decide, rfl⟩, happlied.frameRate, happlied.settingsPath,
    happlied.source⟩

/-- What was refused is not taken back. -/
theorem refused_rate_stays :
    ¬∀ (c : Config) (o : Overrides) (e : ConfigError),
      c.isValid = true → (o.apply c).1 = .error e → (o.apply c).2 = c := by
  intro hatomic
  let o : Overrides := { settingsPath := some "cli.toml", frameRate := some 0 }
  have hvalid : (Config.standard {}).isValid = true := by decide +kernel
  have herror : (o.apply (Config.standard {})).1 = .error (.frameRate 0) :=
    (apply_eq_error_iff hvalid o).mpr ⟨0, rfl, by decide, rfl⟩
  have hrate := congrArg Config.frameRate (hatomic _ _ _ hvalid herror)
  rw [(applied o _).frameRate] at hrate
  exact absurd hrate (by decide)

end Overrides

end TraceView
