import TraceView.Number.Hex

/-!
Patterns for the values of fields. No event is ever held against one, since the fields of events
have no values yet when they are filtered, but a directive with a malformed pattern is refused.
-/

namespace TraceView.Pattern

def isDecimal (s : List Char) : Bool :=
  let whole := s.takeWhile Char.isDigit
  let afterWhole := s.drop whole.length
  let places := match afterWhole with
    | '.' :: s => s.takeWhile Char.isDigit
    | _ => []
  let afterPlaces := match afterWhole with
    | '.' :: s => s.drop places.length
    | s => s
  !(whole.isEmpty && places.isEmpty) && match afterPlaces with
    | [] => true
    | e :: s =>
      let digits := if s.head? = some '+' || s.head? = some '-' then s.drop 1 else s
      e.toLower = 'e' && !digits.isEmpty && digits.all Char.isDigit

def isNumber (s : List Char) : Bool :=
  isDecimal s || ["inf", "infinity", "nan"].contains (String.ofList (s.map Char.toLower))

def hexCount : Char → Option Nat
  | 'x' => some 2
  | 'u' => some 4
  | 'U' => some 8
  | _ => none

def codePoint? (count : Nat) (s : List Char) : Option (Char × List Char) := do
  let digits := s.take count
  if digits.length < count then none
  else
    let n ← digits.foldlM (fun n c => (Hex.value? c).map (n * 16 + ·)) 0
    if n.isValidChar then some (Char.ofNat n, s.drop count) else none

def escape? : List Char → Option (Option Char × List Char)
  | [] => none
  | c :: s =>
    match hexCount c with
    | some count => (codePoint? count s).map fun (c, s) => (some c, s)
    | none =>
      match c with
      | 'a' => some (some '\x07', s)
      | 'f' => some (some '\x0c', s)
      | 't' => some (some '\t', s)
      | 'n' => some (some '\n', s)
      | 'r' => some (some '\r', s)
      | 'v' => some (some '\x0b', s)
      | 'A' | 'z' => some (none, s)
      | c =>
        if c.isAlphanum || c = '<' || c = '>' || 0x7F < c.toNat then none else some (some c, s)

def member? : List Char → Option (Char × List Char)
  | '\\' :: s =>
    match escape? s with
    | some (some c, s) => some (c, s)
    | _ => none
  | c :: s => some (c, s)
  | [] => none

def classStart (s : List Char) : List Char :=
  let s := if s.head? = some '^' then s.drop 1 else s
  match s with
  | '-' :: s => s.dropWhile (· = '-')
  | ']' :: s => s
  | s => s

def classNames : List String :=
  ["alnum", "alpha", "ascii", "blank", "cntrl", "digit", "graph", "lower", "print", "punct", "space",
    "upper", "word", "xdigit"]

def named? (s : List Char) : Option (List Char) :=
  let s := if s.head? = some '^' then s.drop 1 else s
  let name := s.takeWhile (· ≠ ':')
  match s.drop name.length with
  | ':' :: ']' :: s => if classNames.contains (String.ofList name) then some s else none
  | _ => none

def class? : (fuel depth : Nat) → List Char → Option (List Char)
  | 0, _, _ => none
  | _, 0, s => some s
  | fuel + 1, depth + 1, s =>
    match s with
    | ']' :: s => class? fuel depth s
    | '[' :: s =>
      match s with
      | ':' :: t => class? fuel (if (named? t).isSome then depth + 1 else depth + 2)
          ((named? t).getD (classStart s))
      | s => class? fuel (depth + 2) (classStart s)
    | '&' :: '&' :: s | '-' :: '-' :: s | '~' :: '~' :: s => class? fuel (depth + 1) s
    | s => do
      let (low, s) ← member? s
      match s with
      | '-' :: ']' :: _ | '-' :: '-' :: _ => class? fuel (depth + 1) s
      | '-' :: s =>
        let (high, s) ← member? s
        if high < low then none else class? fuel (depth + 1) s
      | s => class? fuel (depth + 1) s

def isFlag (c : Char) : Bool := ['m', 's', 'U', 'u', 'R', 'x'].contains c

/-- Each flag once, with at most one dash among them and none at the end. -/
def areFlags (s : List Char) : Bool :=
  s.all (fun c => isFlag c || c = '-') && s.Nodup && s.getLast? ≠ some '-'

def isName (s : List Char) : Bool :=
  match s with
  | [] => false
  | c :: s => (c.isAlpha || c = '_') &&
    s.all fun c => c.isAlphanum || c = '_' || c = '.' || c = '[' || c = ']'

def group? (s : List Char) : Option (Bool × List Char) :=
  let named (s : List Char) : Option (Bool × List Char) :=
    let name := s.takeWhile (· ≠ '>')
    if isName name && name.length < s.length then some (true, s.drop (name.length + 1)) else none
  match s with
  | '?' :: 'P' :: '<' :: s => named s
  | '?' :: '<' :: s => named s
  | '?' :: s =>
    let flags := s.takeWhile fun c => isFlag c || c = '-'
    if !areFlags flags then none
    else match s.drop flags.length with
      | ':' :: s => some (true, s)
      | ')' :: s => if flags.isEmpty then none else some (false, s)
      | _ => none
  | s => some (true, s)

def isWellFormedIn : (fuel groups : Nat) → (repeatable : Bool) → List Char → Bool
  | 0, _, _, _ => false
  | _, groups, _, [] => groups = 0
  | fuel + 1, groups, repeatable, c :: s =>
    match c with
    | '\\' => (escape? s).any fun (_, s) => isWellFormedIn fuel groups true s
    | '(' => (group? s).any fun (opened, s) =>
        isWellFormedIn fuel (if opened then groups + 1 else groups) false s
    | ')' => 0 < groups && isWellFormedIn fuel (groups - 1) true s
    | '[' => (class? (s.length + 1) 1 (classStart s)).any (isWellFormedIn fuel groups true)
    | '|' => isWellFormedIn fuel groups false s
    | '*' | '+' | '?' => repeatable && isWellFormedIn fuel groups true s
    | '\x7b' => false
    | _ => isWellFormedIn fuel groups true s

def isWellFormed (s : List Char) : Bool :=
  (s.head? = some '+' && isNumber (s.drop 1)) || isWellFormedIn (s.length + 1) 0 false s

end TraceView.Pattern
