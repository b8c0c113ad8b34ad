namespace TraceView.Text

/-- Rising bounds: the first code point in the set, the first one after that which is not, and so
on in turn. -/
structure Ranges where
  bounds : Array Nat

namespace Ranges

/-- How many of the bounds from `start`, and below `start + width`, are at most `n`. The rest of
the bounds before `start` all are, and those from `start + width` on are not. -/
def rank (t : Ranges) (n start width : Nat) : Nat :=
  if h : width = 0 then start
  else
    let half := width / 2
    if t.bounds[start + half]?.getD 0 ≤ n then rank t n (start + half + 1) (width - half - 1)
    else rank t n start half
  termination_by width

def contains (t : Ranges) (n : Nat) : Bool := t.rank n 0 t.bounds.size % 2 == 1

end Ranges

end TraceView.Text
