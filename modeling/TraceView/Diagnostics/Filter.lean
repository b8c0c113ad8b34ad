import TraceView.Diagnostics.Event
import TraceView.Diagnostics.Pattern
import TraceView.Number.Natural
import TraceView.Text.Blank
import TraceView.Text.Replace
import TraceView.Text.Split
import TraceView.Text.Tables.Alphanumeric

namespace TraceView

structure Directive where
  target : String := ""
  level : Option Level
  fields : List String := []
  /-- About the inside of a span, or about the value of a field. No event of ours is met by it. -/
  isScoped : Bool := false
  deriving DecidableEq, Repr

namespace Directive

def appliesTo (d : Directive) (e : Event) : Bool :=
  !d.isScoped && (Text.stripPrefix? d.target.toList e.target.toList).isSome
    && d.fields.all e.has

def areBefore : List String → List String → Bool
  | a :: as, b :: bs => a < b || (a == b && areBefore as bs)
  | [], bs => !bs.isEmpty
  | _ :: _, [] => false

/-- Of two directives that one event meets: a longer target, or else more fields. The names of the
fields part equals. -/
def isLessSpecific (a b : Directive) : Bool :=
  a.target.length < b.target.length || (a.target.length == b.target.length &&
    (a.fields.length < b.fields.length || (a.fields.length == b.fields.length &&
      areBefore a.fields b.fields)))

def lowered (s : List Char) : String := String.ofList (s.map Char.toLower)

/-- A level by its word in any case, or by a number; `some none` is off. -/
def level? (s : List Char) : Option (Option Level) :=
  match Natural.read? UInt64.size (String.ofList s), lowered s with
  | some 0, _ | _, "off" => some none
  | some 1, _ | _, "error" => some (some .error)
  | some 2, _ | _, "warn" => some (some .warn)
  | some 3, _ | _, "info" => some (some .info)
  | some 4, _ | _, "debug" => some (some .debug)
  | some 5, _ | _, "trace" => some (some .trace)
  | _, _ => none

def levelOrAll? (s : List Char) : Option (Option Level) :=
  if s.isEmpty then some (some .trace) else level? s

def startsName (c : Char) : Bool :=
  c == '-' || c == ':' || c == '_' || Text.alphanumeric.contains c.toNat

def closed? (d : Directive) : (shape whole : List Char) → Option Directive
  | [], _ => some d
  | '=' :: _, whole => (levelOrAll? (whole.drop 1)).map fun level => { d with level }
  | _, _ => none

def bracketed? (target : List Char) (shape whole : List Char) : Option Directive :=
  let name := shape.takeWhile fun c => c != ']' && c != '\x7b'
  let d : Directive := { target := String.ofList target, level := some .trace }
  let whole := whole.drop name.length
  match shape.drop name.length with
  | ']' :: shape => closed? { d with isScoped := true } shape (whole.drop 1)
  | '\x7b' :: shape =>
    let size := (shape.takeWhile (· != '\x7d')).length
    let field := (whole.drop 1).take size
    match shape.drop size with
    | '\x7d' :: ']' :: shape =>
      let key := field.takeWhile (· != '=')
      let pattern := (field.drop (key.length + 1)).takeWhile (· != '=')
      let hasValue := field.contains '='
      if size = 0 || (hasValue && !Pattern.isWellFormed pattern) then none
      else closed? { d with
        fields := [String.ofList key]
        isScoped := !name.isEmpty || hasValue } shape (whole.drop (size + 3))
    | _ => none
  | _ => none

/-- A level, a target, or a directive of more parts. The blanks around it do not bear on its shape,
but the parts are cut out of the whole where they would stand without them. -/
def parse? (whole : List Char) : Option Directive :=
  match (Text.trim Text.isBlank (String.ofList whole)).toList with
  | [] => none
  | '[' :: shape => bracketed? [] shape (whole.drop 1)
  | c :: shape =>
    if startsName c then
      let size := ((c :: shape).takeWhile fun c => c != '=' && c != '[').length
      let target := whole.take size
      match (c :: shape).drop size with
      | '=' :: _ => (levelOrAll? (whole.drop (size + 1))).map fun level =>
        { target := String.ofList target, level }
      | '[' :: shape => bracketed? target shape (whole.drop (size + 1))
      | _ => match level? whole with
        | some level => some { level }
        | none => some { target := String.ofList whole, level := some .trace }
    else none

end Directive

structure Filter where
  directives : List Directive
  deriving DecidableEq, Repr

namespace Filter

def off : Filter := ⟨[]⟩

def atLeast (level : Level) : Filter := ⟨[{ level := some level }]⟩

def everything : Filter := atLeast .trace

/-- The most specific directive; of two that are equally so, the last. -/
def decisive? (ds : List Directive) : Option Directive :=
  ds.foldl (fun best d =>
    match best with
    | some b => if d.isLessSpecific b then some b else some d
    | none => some d) none

def admits (f : Filter) (e : Event) : Bool :=
  match decisive? (f.directives.filter (·.appliesTo e)) with
  | some { level := some level, .. } => e.level.verbosity ≤ level.verbosity
  | _ => false

/-- Directives parted by commas. No directive at all admits errors. -/
def parse? (s : String) : Option Filter :=
  let parts := (Text.pieces (· == ',') s.toList).filter (!·.isEmpty)
  if parts.isEmpty then some (atLeast .error)
  else (parts.mapM Directive.parse?).map Filter.mk

def ofVariable (value : Option String) : Filter :=
  (value.bind parse?).getD (atLeast .info)

end Filter

end TraceView
