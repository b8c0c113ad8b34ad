import TraceView.Color.Unit

namespace TraceView

structure Picker where
  saturation : Float32 := 0.9
  value : Float32 := 0.9
  alpha : Float32 := 1

namespace Picker

inductive Channel where
  | saturation
  | value
  | alpha
  deriving DecidableEq, Repr

def count : Nat := 64

theorem count_pos : 0 < count := by decide

def color (p : Picker) (index : UInt64) : Rgba :=
  Hsv.toRgba ⟨index.toFloat32 / 63, p.saturation, p.value⟩ p.alpha

def swatches (p : Picker) : List Rgba := (List.range count).map fun i => p.color (UInt64.ofNat i)

def select? (p : Picker) (index : Nat) : Option Rgba :=
  if index < count then some (p.color (UInt64.ofNat index)) else none

def set (p : Picker) (channel : Channel) (x : Float32) : Picker :=
  match channel with
  | .saturation => { p with saturation := x }
  | .value => { p with value := x }
  | .alpha => { p with alpha := x }

def get (p : Picker) : Channel → Float32
  | .saturation => p.saturation
  | .value => p.value
  | .alpha => p.alpha

def adjust (p : Picker) (channel : Channel) (delta : Float32) : Picker :=
  p.set channel (Binary.clamp (p.get channel + delta) 0 1)

end Picker

end TraceView
