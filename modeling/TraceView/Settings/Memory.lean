import TraceView.Settings.Store

namespace TraceView

inductive Setting where
  | float (x : Float32)
  | nat (n : UInt64)
  | vec4 (v : Vec4)

structure MemorySettings where
  entries : List (SettingKey × Setting) := []
  writes : Nat := 0

namespace MemorySettings

def find? (s : MemorySettings) (key : SettingKey) : Option Setting := s.entries.lookup key

def size (s : MemorySettings) : Nat := s.entries.length

def put (s : MemorySettings) (key : SettingKey) (value : Setting) : MemorySettings where
  entries := (key, value) :: s.entries.filter (·.1 != key)
  writes := s.writes + 1

instance : SettingsStore MemorySettings where
  getFloat s key := match s.find? key with
    | some (.float x) => some x
    | _ => none
  getNat s key := match s.find? key with
    | some (.nat n) => some n
    | _ => none
  getVec4 s key := match s.find? key with
    | some (.vec4 v) => some v
    | _ => none
  putFloat s key x := s.put key (.float x)
  putNat s key n := s.put key (.nat n)
  putVec4 s key v := s.put key (.vec4 v)

end MemorySettings

end TraceView
