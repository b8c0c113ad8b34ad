namespace TraceView

inductive KeyCode where
  | up
  | down
  | left
  | right
  | enter
  | escape
  | pageUp
  | pageDown
  | finish
  | char (c : Char)
  | other
  deriving DecidableEq, Repr

inductive KeyMotion where
  | press
  | hold
  | release
  deriving DecidableEq, Repr

structure KeyEvent where
  code : KeyCode
  control : Bool := false
  motion : KeyMotion := .press
  deriving DecidableEq, Repr

end TraceView
