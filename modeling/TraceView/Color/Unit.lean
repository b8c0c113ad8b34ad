import TraceView.Color.Rgba
import TraceView.Number.Binary

namespace TraceView

structure Vec4 where
  x : Float32
  y : Float32
  z : Float32
  w : Float32
  deriving DecidableEq

namespace Vec4

/-- Componentwise float equality: NaN differs from itself, and the zeros agree. -/
instance : BEq Vec4 := ⟨fun u v => u.x == v.x && u.y == v.y && u.z == v.z && u.w == v.w⟩

def toList (v : Vec4) : List Float32 := [v.x, v.y, v.z, v.w]

def ofList? : List Float32 → Option Vec4
  | [x, y, z, w] => some ⟨x, y, z, w⟩
  | _ => none

end Vec4

namespace Rgba

/-- To nearest, out of range to the ends, NaN to zero. -/
def channelOfUnit (x : Float32) : UInt8 := (Binary.clamp x 0 1 * 255 + 0.5).toUInt8

def inverse255 : Float32 := 1 / 255

def toVec4 (c : Rgba) : Vec4 where
  x := c.r.toFloat32 * inverse255
  y := c.g.toFloat32 * inverse255
  z := c.b.toFloat32 * inverse255
  w := c.a.toFloat32 * inverse255

def ofVec4 (v : Vec4) : Rgba :=
  ⟨channelOfUnit v.x, channelOfUnit v.y, channelOfUnit v.z, channelOfUnit v.w⟩

end Rgba

structure Hsv where
  hue : Float32
  saturation : Float32
  value : Float32

namespace Hsv

def channels (c : Hsv) : Float32 × Float32 × Float32 :=
  let v := c.value
  if c.saturation == 0 then (v, v, v)
  else
    let h := Binary.fraction c.hue * 6
    let sector := h.toInt32
    let f := h - sector.toFloat32
    let p := v * (1 - c.saturation)
    let q := v * (1 - c.saturation * f)
    let t := v * (1 - c.saturation * (1 - f))
    if sector = 0 then (v, t, p)
    else if sector = 1 then (q, v, p)
    else if sector = 2 then (p, v, t)
    else if sector = 3 then (p, q, v)
    else if sector = 4 then (t, p, v)
    else (v, p, q)

def toRgba (c : Hsv) (alpha : Float32) : Rgba :=
  let (r, g, b) := c.channels
  .ofVec4 ⟨r, g, b, alpha⟩

def ofChannels (r g b : Float32) : Hsv :=
  let (g, b, k) : Float32 × Float32 × Float32 := if g < b then (b, g, -1) else (g, b, 0)
  let (r, g, k) : Float32 × Float32 × Float32 :=
    if r < g then (g, r, -2 / 6 - k) else (r, g, k)
  let chroma := r - (if g < b then g else b)
  ⟨(k + (g - b) / (6 * chroma + 1e-20)).abs, chroma / (r + 1e-20), r⟩

def ofRgba (c : Rgba) : Hsv :=
  let v := c.toVec4
  ofChannels v.x v.y v.z

end Hsv

namespace Rgba

/-- A color for a hash: hue from the low 24 bits, brightness from the top byte. -/
def ofHash (hash : UInt32) : Rgba :=
  let hue := (hash &&& 0x00FFFFFF).toFloat32 / 16777215
  let value := (hash >>> 24).toFloat32 / (2 * 255) + 0.5
  Hsv.toRgba ⟨hue, 0.9, value⟩ 1

def complement (c : Rgba) : Rgba :=
  let v := Hsv.ofRgba c
  let h := v.hue + 0.5
  Hsv.toRgba { v with hue := if 1 < h then h - 1 else h } 1

end Rgba

end TraceView
