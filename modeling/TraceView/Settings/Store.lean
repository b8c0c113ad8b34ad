import TraceView.Color.Unit

namespace TraceView

structure SettingKey where
  area : String
  name : String
  deriving DecidableEq, Repr

class SettingsStore (σ : Type) where
  getFloat : σ → SettingKey → Option Float32
  getNat : σ → SettingKey → Option UInt64
  getVec4 : σ → SettingKey → Option Vec4
  putFloat : σ → SettingKey → Float32 → σ
  putNat : σ → SettingKey → UInt64 → σ
  putVec4 : σ → SettingKey → Vec4 → σ

end TraceView
