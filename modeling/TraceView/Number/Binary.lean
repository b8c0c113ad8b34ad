namespace TraceView.Binary

open Float.Model (Format UnpackedFloat)

/-- The value in another format, rounded to nearest. Zeros, infinities and NaN keep their kind. -/
def recast (format : Format) : UnpackedFloat → UnpackedFloat
  | .finite sign mantissa exponent _ => UnpackedFloat.round format sign mantissa exponent
  | x => x

def widen (x : Float32) : Float := .ofModel (.pack (recast .binary64 x.toModel.unpack))

def narrow (x : Float) : Float32 := .ofModel (.pack (recast .binary32 x.toModel.unpack))

def ofInteger (n : Int64) : Float32 := .ofModel (.ofInt64 n)

/-- Toward zero. From 2^23 on every float is whole; NaN stays NaN. -/
def truncated (x : Float32) : Float32 :=
  if x.abs < 8388608 then x.toInt32.toFloat32 else x

def fraction (x : Float32) : Float32 := x - truncated x

/-- NaN is neither below nor above, so it stays. -/
def clamp (x low high : Float32) : Float32 :=
  if x < low then low else if high < x then high else x

end TraceView.Binary
