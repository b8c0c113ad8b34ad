import TraceView.Color.Blend

namespace TraceView

inductive Ink where
  | standard
  | indexed (i : UInt8)
  | rgb (r g b : UInt8)
  deriving DecidableEq, Repr

namespace Ink

def ofRgba (c : Rgba) : Ink := .rgb c.r c.g c.b

def ofRgbaOver (fg bg : Rgba) : Ink := ofRgba (fg.composite bg)

end Ink

/-- From the lowest bit: bold, dim, italic, underlined, slow and fast blinking, reversed, hidden, crossed
out. -/
abbrev Modifiers := BitVec 9

namespace Modifiers

def bold : Modifiers := 1
def italic : Modifiers := 4

def has (m font : Modifiers) : Bool := m &&& font = font

def without (m font : Modifiers) : Modifiers := m &&& ~~~font

@[simp] theorem without_zero (m : Modifiers) : m.without 0#9 = m := BitVec.and_allOnes

@[simp] theorem zero_without (m : Modifiers) : without 0#9 m = 0#9 := BitVec.zero_and

/-- Taking `m'` away and adding `m`, and then `n'` and `n`, for two that may overlap. -/
theorem without_or_assoc (a m m' n n' : Modifiers) :
    (a.without m' ||| m).without n' ||| n =
      a.without (m'.without n ||| n') ||| (m.without n' ||| n) := by
  ext i hi
  simp only [without, BitVec.getElem_or, BitVec.getElem_and, BitVec.getElem_not]
  cases a[i] <;> cases m[i] <;> cases m'[i] <;> cases n[i] <;> cases n'[i] <;> rfl

theorem or_without_assoc (m a a' b b' : Modifiers) :
    ((m ||| a).without a' ||| b).without b' =
      (m ||| (a.without b' ||| b)).without (a'.without b ||| b') := by
  ext i hi
  simp only [without, BitVec.getElem_or, BitVec.getElem_and, BitVec.getElem_not]
  cases m[i] <;> cases a[i] <;> cases a'[i] <;> cases b[i] <;> cases b'[i] <;> rfl

end Modifiers

structure Look where
  fg : Option Ink := none
  bg : Option Ink := none
  underline : Option Ink := none
  add : Modifiers := 0#9
  sub : Modifiers := 0#9
  deriving DecidableEq, Repr

namespace Look

def patch (lower upper : Look) : Look where
  fg := upper.fg <|> lower.fg
  bg := upper.bg <|> lower.bg
  underline := upper.underline <|> lower.underline
  add := lower.add.without upper.sub ||| upper.add
  sub := lower.sub.without upper.add ||| upper.sub

@[simp] theorem patch_empty (l : Look) : l.patch {} = l := by
  cases l; simp [patch]

@[simp] theorem empty_patch (l : Look) : patch {} l = l := by
  cases l; simp [patch]

theorem patch_assoc (a b c : Look) : (a.patch b).patch c = a.patch (b.patch c) := by
  simp [patch, Modifiers.without_or_assoc, Option.or_assoc]

def withFont (l : Look) (font : Modifiers) : Look :=
  { l with add := l.add ||| font, sub := l.sub.without font }

@[simp] theorem withFont_zero (l : Look) : l.withFont 0#9 = l := by
  simp [withFont]

theorem withFont_eq (l : Look) (font : Modifiers) : l.withFont font = l.patch { add := font } := by
  simp [withFont, patch]

def ink (c : Ink) : Look := { fg := some c }

end Look

end TraceView
