import TraceView.Palette.Table

namespace TraceView

inductive Level where
  | error
  | warn
  | info
  | debug
  | trace
  deriving DecidableEq, Repr

namespace Level

def all : List Level := [error, warn, info, debug, trace]

def word : Level → String
  | error => "ERROR"
  | warn => "WARN"
  | info => "INFO"
  | debug => "DEBUG"
  | trace => "TRACE"

def role : Level → Role
  | error => .redText
  | warn => .yellowText
  | info => .greenText
  | debug => .dimText
  | trace => .dimText

def color (l : Level) (palette : Palette) : Rgba := palette.get l.role

def verbosity : Level → Nat
  | error => 1
  | warn => 2
  | info => 3
  | debug => 4
  | trace => 5

end Level

end TraceView
