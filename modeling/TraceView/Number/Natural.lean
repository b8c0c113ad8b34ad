namespace TraceView.Natural

def signBit : Nat := 0x8000000000000000

inductive Refusal where
  | empty
  | notADigit
  | tooLarge
  | tooSmall
  deriving DecidableEq, Repr

def Refusal.message : Refusal → String
  | .empty => "cannot parse integer from empty string"
  | .notADigit => "invalid digit found in string"
  | .tooLarge => "number too large to fit in target type"
  | .tooSmall => "number too small to fit in target type"

/-- One digit after `n`. A bad digit is reported before an overflow at the same place. -/
def push (bound n : Nat) (c : Char) : Except Refusal Nat :=
  if c.isDigit then
    let next := n * 10 + (c.toNat - '0'.toNat)
    if next < bound then .ok next else .error .tooLarge
  else .error .notADigit

def read (bound : Nat) (s : String) : Except Refusal Nat :=
  match s.toList with
  | [] => .error .empty
  | ['+'] => .error .notADigit
  | '+' :: cs => cs.foldlM (push bound) 0
  | cs => cs.foldlM (push bound) 0

def readNegative (bound : Nat) (digits : List Char) : Except Refusal Int :=
  if digits.isEmpty then .error .notADigit
  else
    match digits.foldlM (push (bound + 1)) 0 with
    | .ok n => .ok (-n)
    | .error .tooLarge => .error .tooSmall
    | .error e => .error e

def readInt (bound : Nat) (s : String) : Except Refusal Int :=
  match s.toList with
  | '-' :: digits => readNegative bound digits
  | _ => (read bound s).map Int.ofNat

def read? (bound : Nat) (s : String) : Option Nat := (read bound s).toOption

end TraceView.Natural
