import TraceView.Text.Replace

/-!
Compute rings are named `comp_<major>.<minor>.<patch>`, with major 1 to 2, minor 0 to 3 and patch
0 to 8. Each has a dense index below 72.
-/

namespace TraceView

@[ext] structure Ring where
  major : Nat
  minor : Nat
  patch : Nat
  major_pos : 1 ≤ major := by decide
  major_le : major ≤ 2 := by decide
  minor_le : minor ≤ 3 := by decide
  patch_le : patch ≤ 8 := by decide
  deriving DecidableEq, Repr

namespace Ring

abbrev count : Nat := 72

def ofFields? (major minor patch : Nat) : Option Ring :=
  if h : 1 ≤ major ∧ major ≤ 2 ∧ minor ≤ 3 ∧ patch ≤ 8 then
    some ⟨major, minor, patch, h.1, h.2.1, h.2.2.1, h.2.2.2⟩
  else none

def index (v : Ring) : Fin count :=
  ⟨(v.major - 1) * 36 + v.minor * 9 + v.patch, by
    have := v.major_le
    have := v.minor_le
    have := v.patch_le
    simp only [count]; omega⟩

def ofIndex (i : Fin count) : Ring where
  major := i / 36 + 1
  minor := i / 9 % 4
  patch := i % 9
  major_pos := by omega
  major_le := by have : i.val < 72 := i.isLt; omega
  minor_le := by omega
  patch_le := by omega

def ofIndex? (i : Nat) : Option Ring :=
  if h : i < count then some (ofIndex ⟨i, h⟩) else none

@[simp] theorem ofIndex_index (v : Ring) : ofIndex v.index = v := by
  have := v.major_pos
  have := v.major_le
  have := v.minor_le
  have := v.patch_le
  ext <;> simp only [ofIndex, index] <;> omega

def digit (n : Nat) : Char := Char.ofNat ('0'.toNat + n)

def label : List Char := ['c', 'o', 'm', 'p', '_']

def chars (v : Ring) : List Char :=
  label ++ [digit v.major, '.', digit v.minor, '.', digit v.patch]

def name (v : Ring) : String := String.ofList v.chars

instance : ToString Ring := ⟨name⟩

def nameAt (i : Nat) : String := ((ofIndex? i).map name).getD ""

def digit? (c : Char) : Option Nat := if c.isDigit then some (c.toNat - '0'.toNat) else none

/-- The ring whose name a text starts with. What follows the patch digit does not matter. -/
def parse (s : List Char) : Option Ring :=
  match Text.stripPrefix? label s with
  | some (major :: '.' :: minor :: '.' :: patch :: _) => do
    ofFields? (← digit? major) (← digit? minor) (← digit? patch)
  | _ => none

def parse? (s : String) : Option Ring := parse s.toList

def compare (v w : Ring) : Ordering := Ord.compare v.index.val w.index.val

end Ring

end TraceView
