namespace TraceView.Text

inductive ControlPlace where
  | outside
  | escape
  | intermediate
  | parameters
  /-- After an escape and `]`: a command, which a bell ends. -/
  | command
  /-- After an escape and a letter that a string follows. -/
  | string
  deriving DecidableEq, Repr

namespace ControlPlace

def isShownControl (c : Char) : Bool := c = '\t' || c = '\n' || c = '\x0c' || c = '\r'

def isControl (c : Char) : Bool := c < ' ' || c = '\x7f'

def startsString (c : Char) : Bool := c = 'P' || c = 'X' || c = '^' || c = '_'

def next (p : ControlPlace) (c : Char) : ControlPlace :=
  if c = '\x1b' then escape
  else if c = '\x18' || c = '\x1a' then outside
  else match p with
    | command => if c = '\x07' then outside else command
    | string =>
      if 0x7F < c.toNat && (String.utf8EncodeChar c).contains 0x9C then outside else string
    | p =>
      if isControl c then p
      else match p with
        | escape =>
          if 0x7F < c.toNat then escape
          else if c < '0' then intermediate
          else if c = '[' then parameters
          else if c = ']' then command
          else if startsString c then string
          else outside
        | intermediate => if '0' ≤ c && c < '\x7f' then outside else intermediate
        | parameters => if '@' ≤ c && c < '\x7f' then outside else parameters
        | _ => outside

/-- Whether a character is shown there. A blank that is a control is, but for commands and
strings. -/
def shows (p : ControlPlace) (c : Char) : Bool :=
  match p with
  | outside => isShownControl c || !isControl c
  | command | string => false
  | _ => isShownControl c

end ControlPlace

structure ControlState where
  place : ControlPlace := .outside
  broken : Bool := false

namespace ControlState

/-- The state after a character, and whether it is shown. A sequence that a blank broke goes on at
the next control character, where it is `kept`. -/
def step (kept : Bool) (s : ControlState) (c : Char) : ControlState × Bool :=
  if s.broken && ControlPlace.outside.shows c then
    ({ s with place := if 0x7F < c.toNat then .outside else s.place }, true)
  else if s.place.shows c then (⟨if kept then s.place else .outside, true⟩, true)
  else (⟨s.place.next c, false⟩, false)

end ControlState

def shownFrom (kept : Bool) (s : ControlState) : List Char → List (Char × Bool)
  | [] => []
  | c :: cs => (c, (s.step kept c).2) :: shownFrom kept (s.step kept c).1 cs

def shown (kept : Bool) (s : List Char) : List (Char × Bool) := shownFrom kept {} s

def withoutControls (s : String) : String :=
  String.ofList (((shown true s.toList).filter (·.2)).map (·.1))

end TraceView.Text
