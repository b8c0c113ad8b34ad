namespace TraceView.Text

abbrev Pieces := List (Option String)

namespace Pieces

def whole? (ps : Pieces) : Option String := (ps.mapM id).map String.join

def written (ps : Pieces) : String :=
  String.join ((ps.takeWhile Option.isSome).map (·.getD ""))

end Pieces

end TraceView.Text
