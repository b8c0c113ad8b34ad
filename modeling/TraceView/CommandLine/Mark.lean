import TraceView.Config.Environment

namespace TraceView

inductive Mark where
  | heading
  | literal
  | doubtful
  | failure
  deriving DecidableEq, Repr

namespace Mark

def opening : Mark → String
  | heading => "\x1b[1m\x1b[4m"
  | literal => "\x1b[1m"
  | doubtful => "\x1b[33m"
  | failure => "\x1b[1m\x1b[31m"

def closing : String := "\x1b[0m"

def on (m : Mark) (s : String) : String := m.opening ++ s ++ closing

end Mark

def Environment.keepsMarks (env : Environment) : Bool :=
  ((env.get? "NO_COLOR").getD "").isEmpty && (env.get? "CLICOLOR_FORCE").getD "0" != "0"

end TraceView
