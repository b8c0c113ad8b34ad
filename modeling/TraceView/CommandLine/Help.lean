import TraceView.CommandLine.Arguments
import TraceView.Text.Replace
import TraceView.Text.Wrap

namespace TraceView.Help

structure Row where
  short : Option Char := none
  long : String
  placeholder : String := ""
  purpose : String

namespace Row

def names (mark : String → String) (r : Row) : String :=
  (r.short.map fun c => mark ("-" ++ c.toString) ++ ", ").getD "    " ++ mark r.long

def columns (r : Row) : Nat := (r.names id).length + r.placeholder.length

def ofOption (o : CommandOption) (purpose : String) : Row where
  long := "--" ++ o.name
  placeholder := " <" ++ o.placeholder ++ ">"
  purpose := purpose

end Row

def variableNote (env : Environment) : String :=
  let value := (env.get? Arguments.configVariable).getD ""
  "[env: " ++ Arguments.configVariable ++ "=" ++ value ++ "]"

def rows (env : Environment) : List Row :=
  [.ofOption .config ("Config file " ++ variableNote env),
    .ofOption .settings "Settings store for color and style edits",
    .ofOption .frameRate "Frames per second",
    .ofOption .logFile "Also write diagnostics to this file",
    { short := some 'h', long := "--help", purpose := "Print help" },
    { short := some 'V', long := "--version", purpose := "Print version" }]

def lineColumns : Nat := 100

def spaces (n : Nat) : String := String.ofList (List.replicate n ' ')

def line (start : Nat) (r : Row) : String :=
  "  " ++ r.names Mark.literal.on ++ r.placeholder ++ spaces (start - 2 - r.columns)
    ++ Text.replaceAll (Text.wrap (lineColumns - start) r.purpose) "\n" ("\n" ++ spaces start)

def text (env : Environment) : String :=
  let rows := rows env
  let start := ((rows.map Row.columns).max?).getD 0 + 4
  "\n".intercalate
    (["Terminal trace viewer", "",
      Mark.heading.on "Usage:" ++ " " ++ Mark.literal.on "tracevis-tui" ++ " [OPTIONS] "
        ++ Arguments.filesShown, "",
      Mark.heading.on "Arguments:",
      "  " ++ Arguments.filesShown ++ "  Trace files to scan in the background", "",
      Mark.heading.on "Options:"] ++ rows.map (line start)) ++ "\n"

end TraceView.Help
