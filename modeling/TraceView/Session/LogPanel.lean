import TraceView.Log.Collector
import TraceView.RichText.Render
import TraceView.Screen.LineBuilder
import TraceView.Screen.ScrollView

namespace TraceView

structure LogPanel where
  log : Log := {}
  lines : List TextLine := []
  rendered : Nat := 0
  view : ScrollView := {}

namespace LogPanel

def paintEntry (textColor : Rgba) (b : LineBuilder) (entry : RichText) : LineBuilder :=
  (b.paintAll (entry.render textColor)).finishLine

def linesOf (textColor : Rgba) (entries : List RichText) : List TextLine :=
  (entries.foldl (paintEntry textColor) {}).takeLines.1

/-- Brings the lines up to date. A log that became shorter is rendered anew. -/
def sync (p : LogPanel) (textColor : Rgba) : LogPanel :=
  let p := if p.log.size < p.rendered then { p with lines := [], rendered := 0 } else p
  { p with
    lines := p.lines ++ linesOf textColor (p.log.entries.drop p.rendered)
    rendered := p.log.size }

def clear (p : LogPanel) : LogPanel := { log := p.log.clear }

def merge (p : LogPanel) : LogPanel := { p with log := p.log.merge.2 }

def append (p : LogPanel) (entry : RichText) : LogPanel := { p with log := p.log.append entry }

def send (p : LogPanel) (writer : Writer) (entry : RichText) : LogPanel :=
  { p with log := p.log.send writer entry }

end LogPanel

end TraceView
