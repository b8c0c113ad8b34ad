import Mathlib

namespace TraceView

namespace Word

inductive Fault where
  | overflow
  | underflow
  | divisionByZero
  deriving DecidableEq

def add (bits m n : Nat) : Except Fault Nat :=
  if m + n < 2 ^ bits then .ok (m + n) else .error .overflow

def sub (m n : Nat) : Except Fault Nat := if n ≤ m then .ok (m - n) else .error .underflow

def mul (bits m n : Nat) : Except Fault Nat :=
  if m * n < 2 ^ bits then .ok (m * n) else .error .overflow

/-- Rounded up. -/
def div (m n : Nat) : Except Fault Nat :=
  if n = 0 then .error .divisionByZero else .ok ((m + n - 1) / n)

def low (bits n : Nat) : Nat := n % 2 ^ bits

variable {bits m n : Nat}

theorem add_of_lt (h : m + n < 2 ^ bits) : add bits m n = .ok (m + n) := if_pos h

theorem sub_of_le (h : n ≤ m) : sub m n = .ok (m - n) := if_pos h

theorem mul_of_lt (h : m * n < 2 ^ bits) : mul bits m n = .ok (m * n) := if_pos h

theorem div_of_pos (h : 0 < n) : div m n = .ok ((m + n - 1) / n) := if_neg (Nat.ne_of_gt h)

theorem low_of_lt (h : n < 2 ^ bits) : low bits n = n := Nat.mod_eq_of_lt h

theorem ok_bind {α β : Type} (a : α) (f : α → Except Fault β) : (Except.ok a >>= f) = f a := rfl

end Word

end TraceView
