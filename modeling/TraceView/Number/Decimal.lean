/-!
Decimal text of floats. `Decimal.shortest` has the fewest digits that read back as the float;
`Decimal.fixed` has a set number of places, a tie going to the even neighbour. A `Form` says
how the digits are laid out.
-/

namespace TraceView

open Float.Model (UnpackedFloat)

structure Decimal where
  coefficient : Nat
  exponent : Int
  deriving DecidableEq, Repr

namespace Decimal

def digits (n : Nat) : String := String.ofList (Nat.toDigits 10 n)

/-- `num / den` rounded to nearest, a tie to the even neighbour. -/
def roundDiv (num den : Nat) : Nat :=
  let q := num / den
  let twice := 2 * (num % den)
  if den < twice || (twice == den && q % 2 == 1) then q + 1 else q

def power (n base : Nat) : Int → Nat × Nat
  | .ofNat e => (n * base.pow e, 1)
  | .negSucc e => (n, base.pow (e + 1))

/-- Enough decimal places to show a leading digit of every positive double. -/
def deepest : Nat := 340

def leading (num den : Nat) : Int :=
  ((digits (num * Nat.pow 10 deepest / den)).length : Int) - 1 - deepest

/-- The candidate on the grid of `count` digits, if one lies in the interval. All of `low`, `value`
and `high` are over `den`; the ends count when `closed`. Of two candidates the nearer is taken, and
the upper one on a tie. -/
def onGrid (low value high den : Nat) (closed : Bool) (lead : Int) (count : Nat) :
    Option Decimal :=
  let exponent := lead + 1 - count
  let (gridNum, gridDen) := power 1 10 exponent
  let below := value * gridDen / (den * gridNum)
  let scale (n : Nat) := n * gridDen
  let at' (c : Nat) := c * gridNum * den
  let hits (c : Nat) : Bool :=
    if closed then scale low ≤ at' c && at' c ≤ scale high
    else scale low < at' c && at' c < scale high
  let above := below + 1
  let upper : Decimal := if above = Nat.pow 10 count then ⟨1, exponent + count⟩ else ⟨above, exponent⟩
  if hits below then
    if hits above && at' above - scale value ≤ scale value - at' below then some upper
    else some ⟨below, exponent⟩
  else if hits above then some upper
  else none

/-- The fewest digits that read back as the double `mantissa * 2 ^ exponent`, and of those the
nearest. Seventeen digits always suffice. -/
def shortestOf (mantissa : Nat) (exponent : Int) : Decimal :=
  let (unit, den) := power 1 2 (exponent - 2)
  let value := 4 * mantissa * unit
  let high := (4 * mantissa + 2) * unit
  let low := if mantissa = 0x10000000000000 && exponent != -1074 then (4 * mantissa - 1) * unit
    else (4 * mantissa - 2) * unit
  let lead := leading value den
  ((List.range 17).findSome? fun n =>
    onGrid low value high den (mantissa % 2 == 0) lead (n + 1)).getD ⟨0, 0⟩

structure Form where
  positional : Option (Int × Int)
  wholeSuffix : String
  nan : String
  infinity : String

def positional (d : Decimal) (wholeSuffix : String) : String :=
  match d.exponent with
  | .ofNat e => digits (d.coefficient * Nat.pow 10 e) ++ wholeSuffix
  | .negSucc e =>
    let places := e + 1
    let ds := Nat.toDigits 10 d.coefficient
    let padded := List.replicate (places + 1 - ds.length) '0' ++ ds
    let whole := padded.length - places
    String.ofList (padded.take whole) ++ "." ++ String.ofList (padded.drop whole)

def scientific (d : Decimal) : String :=
  let ds := Nat.toDigits 10 d.coefficient
  let tail := if ds.length ≤ 1 then "" else "." ++ String.ofList (ds.drop 1)
  String.ofList (ds.take 1) ++ tail ++ "e" ++ toString (d.exponent + (ds.length - 1 : Int))

def lay (f : Form) (d : Decimal) : String :=
  let lead := d.exponent + ((Nat.toDigits 10 d.coefficient).length - 1 : Int)
  match f.positional with
  | none => positional d f.wholeSuffix
  | some (low, high) =>
    if low ≤ lead && lead < high then positional d f.wholeSuffix else scientific d

def signMark (sign : Float.Model.UnpackedFloat.Sign) : String :=
  match sign with
  | .positive => ""
  | .negative => "-"

def shortest (f : Form) (x : Float) : String :=
  match x.toModel.unpack with
  | .notANumber => f.nan
  | .infinity sign => signMark sign ++ f.infinity
  | .zero sign => signMark sign ++ "0" ++ f.wholeSuffix
  | .finite sign mantissa exponent _ => signMark sign ++ lay f (shortestOf mantissa exponent)

def fixed (places : Nat) (x : Float32) : String :=
  match x.toModel.unpack with
  | .notANumber => "NaN"
  | .infinity sign => signMark sign ++ "inf"
  | .zero sign => signMark sign ++ positional ⟨0, -places⟩ ""
  | .finite sign mantissa exponent _ =>
    let (num, den) := power mantissa 2 exponent
    signMark sign ++ positional ⟨roundDiv (num * Nat.pow 10 places) den, -places⟩ ""

end Decimal

end TraceView
