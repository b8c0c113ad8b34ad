import TraceView.Text.Utf8
import TraceView.Number.Hex

namespace TraceView

@[ext] structure Rgba where
  r : UInt8
  g : UInt8
  b : UInt8
  a : UInt8
  deriving DecidableEq, Repr

namespace Rgba

def white : Rgba := ⟨255, 255, 255, 255⟩
def black : Rgba := ⟨0, 0, 0, 255⟩
def transparent : Rgba := ⟨0, 0, 0, 0⟩

instance : Inhabited Rgba := ⟨transparent⟩

def alphaShift : Nat := 24
def alphaMask : UInt32 := 0xFF000000

def packed (c : Rgba) : UInt32 :=
  UInt32.ofNat (c.a.toNat * 0x1000000 + c.b.toNat * 0x10000 + c.g.toNat * 0x100 + c.r.toNat)

def ofPacked (n : UInt32) : Rgba where
  r := UInt8.ofNat n.toNat
  g := UInt8.ofNat (n.toNat / 0x100)
  b := UInt8.ofNat (n.toNat / 0x10000)
  a := UInt8.ofNat (n.toNat / 0x1000000)

@[simp] theorem ofPacked_packed (c : Rgba) : ofPacked c.packed = c := by
  have hr := c.r.toNat_lt
  have hg := c.g.toNat_lt
  have hb := c.b.toNat_lt
  have ha := c.a.toNat_lt
  apply Rgba.ext <;> apply UInt8.toNat_inj.mp <;>
    simp only [ofPacked, packed, UInt8.toNat_ofNat', UInt32.toNat_ofNat'] <;> omega

def bytes (c : Rgba) : Bytes := [c.r, c.g, c.b, c.a]

def ofBytes? : Bytes → Option Rgba
  | [r, g, b, a] => some ⟨r, g, b, a⟩
  | _ => none

@[simp] theorem ofBytes?_bytes (c : Rgba) : ofBytes? c.bytes = some c := rfl

def withAlpha (c : Rgba) (a : UInt8) : Rgba := { c with a }

/-- Eight hexadecimal digits of the packed form: alpha, blue, green, red. -/
def label (c : Rgba) : String :=
  String.ofList (Hex.byte c.a ++ Hex.byte c.b ++ Hex.byte c.g ++ Hex.byte c.r)

def ofHex? (s : String) : Option Rgba :=
  let ds := match s.toList with
    | '#' :: ds => ds
    | ds => ds
  match ds with
  | [r₁, r₀, g₁, g₀, b₁, b₀] =>
    return ⟨← Hex.pair? r₁ r₀, ← Hex.pair? g₁ g₀, ← Hex.pair? b₁ b₀, 255⟩
  | [r₁, r₀, g₁, g₀, b₁, b₀, a₁, a₀] =>
    return ⟨← Hex.pair? r₁ r₀, ← Hex.pair? g₁ g₀, ← Hex.pair? b₁ b₀, ← Hex.pair? a₁ a₀⟩
  | _ => none

end Rgba

end TraceView
