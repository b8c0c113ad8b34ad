import TraceView.Files.Path

namespace TraceView

structure Environment where
  vars : List (String × String) := []
  accountHome : Option Path := none

namespace Environment

def get? (env : Environment) (name : String) : Option String := env.vars.lookup name

def home? (env : Environment) : Option Path :=
  match env.get? "HOME" with
  | some "" | none => env.accountHome
  | some home => some home

/-- A relative `XDG_CONFIG_HOME` does not count. -/
def configFolder? (env : Environment) : Option Path :=
  ((env.get? "XDG_CONFIG_HOME").map Path.mk).filter Path.isAbsolute <|>
    env.home?.map (·.join ".config")

end Environment

end TraceView
