import TraceView.Color.Rgba

namespace TraceView.Rgba

/-- `(f * a + b * (255 - a)) / 255`, rounded to nearest. -/
def mix (a f b : UInt8) : UInt8 :=
  UInt8.ofNat ((f.toNat * a.toNat + b.toNat * (255 - a.toNat) + 127) / 255)

def composite (fg bg : Rgba) : Rgba :=
  ⟨mix fg.a fg.r bg.r, mix fg.a fg.g bg.g, mix fg.a fg.b bg.b, 255⟩

end TraceView.Rgba
