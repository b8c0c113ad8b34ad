import TraceView.Toml.Value
import TraceView.Number.Natural
import TraceView.Toml.Quoted

namespace TraceView.Toml

abbrev Reader (α : Type) := List Char → Option (α × List Char)

namespace Lexeme

def isBlank (c : Char) : Bool := c == ' ' || c == '\t'

def skipBlanks (s : List Char) : List Char := s.dropWhile isBlank

def isVisible (c : Char) : Bool := c == '\t' || (0x20 ≤ c.toNat && c.toNat != 0x7F)

def newline? : List Char → Option (List Char)
  | '\n' :: s => some s
  | '\r' :: '\n' :: s => some s
  | _ => none

def skipComment : List Char → List Char
  | '#' :: s => s.dropWhile isVisible
  | s => s

def lineEnd? (s : List Char) : Option (List Char) :=
  match skipComment (skipBlanks s) with
  | [] => some []
  | s => newline? s

def skipSpace : Nat → List Char → Option (List Char)
  | 0, s => some s
  | fuel + 1, s =>
    match skipBlanks s with
    | '#' :: s => (newline? (skipComment ('#' :: s))).bind (skipSpace fuel)
    | '\n' :: s => skipSpace fuel s
    | '\r' :: '\n' :: s => skipSpace fuel s
    | '\r' :: _ => none
    | s => some s

def expect (c : Char) : List Char → Option (List Char)
  | d :: s => if c = d then some s else none
  | [] => none

/-! Text -/

def hexDigits : Nat → Nat → Reader Nat
  | 0, n, s => some (n, s)
  | count + 1, n, c :: s => (Hex.value? c).bind fun d => hexDigits count (n * 16 + d) s
  | _ + 1, _, [] => none

def scalar? (n : Nat) : Option Char := if n.isValidChar then some (Char.ofNat n) else none

def escape : Reader Char
  | 'b' :: s => some ('\x08', s)
  | 't' :: s => some ('\t', s)
  | 'n' :: s => some ('\n', s)
  | 'f' :: s => some ('\x0c', s)
  | 'r' :: s => some ('\r', s)
  | '"' :: s => some ('"', s)
  | '\\' :: s => some ('\\', s)
  | 'u' :: s => (hexDigits 4 0 s).bind fun (n, s) => (scalar? n).map (·, s)
  | 'U' :: s => (hexDigits 8 0 s).bind fun (n, s) => (scalar? n).map (·, s)
  | _ => none

def basicTail : Nat → List Char → Reader (List Char)
  | 0, _, _ => none
  | fuel + 1, seen, s =>
    match s with
    | '"' :: s => some (seen.reverse, s)
    | '\\' :: s => (escape s).bind fun (c, s) => basicTail fuel (c :: seen) s
    | c :: s => if isVisible c then basicTail fuel (c :: seen) s else none
    | [] => none

/-- Blanks and line endings: what a backslash at the end of a line takes along. -/
def foldedSpace : Nat → List Char → List Char
  | 0, s => s
  | fuel + 1, s =>
    match skipBlanks s with
    | '\n' :: s => foldedSpace fuel s
    | '\r' :: '\n' :: s => foldedSpace fuel s
    | s => s

/-- The rest of a text over several lines between triple `q`. Up to two quotes may stand in the
text, also right before the closing three. `escapes` says whether a backslash escapes. -/
def longTail (q : Char) (escapes : Bool) : Nat → List Char → Reader (List Char)
  | 0, _, _ => none
  | fuel + 1, seen, s =>
    match s with
    | [] => none
    | '\r' :: '\n' :: s => longTail q escapes fuel ('\n' :: seen) s
    | '\n' :: s => longTail q escapes fuel ('\n' :: seen) s
    | c :: s =>
      if c = q then
        let quotes := (c :: s).takeWhile (· == q)
        if quotes.length < 3 then
          longTail q escapes fuel (quotes ++ seen) ((c :: s).drop quotes.length)
        else
          let inner := min quotes.length 5 - 3
          some ((quotes.take inner ++ seen).reverse, (c :: s).drop (inner + 3))
      else if c = '\\' && escapes then
        match newline? (skipBlanks s) with
        | some t => longTail q escapes fuel seen (foldedSpace t.length t)
        | none => (escape s).bind fun (c, s) => longTail q escapes fuel (c :: seen) s
      else if isVisible c then longTail q escapes fuel (c :: seen) s
      else none

/-- A line ending right after the opening quotes is not part of the text. -/
def skipFirstBreak (s : List Char) : List Char := (newline? s).getD s

def literalTail (s : List Char) : Option (List Char × List Char) :=
  let inner := s.takeWhile fun c => isVisible c && c != '\''
  (expect '\'' (s.drop inner.length)).map (inner, ·)

def quotedLine : Reader String
  | '"' :: s => (basicTail (s.length + 1) [] s).map fun (cs, s) => (String.ofList cs, s)
  | '\'' :: s => (literalTail s).map fun (cs, s) => (String.ofList cs, s)
  | _ => none

def quoted : Reader String
  | '"' :: '"' :: '"' :: s =>
    (longTail '"' true (s.length + 1) [] (skipFirstBreak s)).map fun (cs, s) => (String.ofList cs, s)
  | '\'' :: '\'' :: '\'' :: s =>
    (longTail '\'' false (s.length + 1) [] (skipFirstBreak s)).map fun (cs, s) =>
      (String.ofList cs, s)
  | s => quotedLine s

/-! Numbers -/

def digitsTail (isDigit : Char → Bool) : List Char → List Char → Option (List Char × List Char)
  | seen, '_' :: c :: s =>
    if isDigit c then digitsTail isDigit (c :: seen) s else none
  | _, ['_'] => none
  | seen, c :: s => if isDigit c then digitsTail isDigit (c :: seen) s else some (seen.reverse, c :: s)
  | seen, [] => some (seen.reverse, [])

def digits (isDigit : Char → Bool) : Reader (List Char)
  | c :: s => if isDigit c then digitsTail isDigit [c] s else none
  | [] => none

def whole : Reader (List Char)
  | '0' :: s => some (['0'], s)
  | s => digits Char.isDigit s

def sign : List Char → Bool × List Char
  | '-' :: s => (true, s)
  | '+' :: s => (false, s)
  | s => (false, s)

def valueOf (base : Nat) (ds : List Char) : Nat :=
  ds.foldl (fun n c => n * base + (Hex.value? c).getD 0) 0

def signed? (negative : Bool) (n : Nat) : Option Int64 :=
  if negative then (if n ≤ Natural.signBit then some (Int64.ofInt (-n)) else none)
  else if n < Natural.signBit then some (Int64.ofNat n) else none

def isHex (c : Char) : Bool := (Hex.value? c).isSome
def isOctal (c : Char) : Bool := '0' ≤ c && c ≤ '7'
def isBinary (c : Char) : Bool := c == '0' || c == '1'

def based (base : Nat) (isDigit : Char → Bool) (s : List Char) : Option (Int64 × List Char) :=
  (digits isDigit s).bind fun (ds, s) => (signed? false (valueOf base ds)).map (·, s)

def integer : Reader Int64
  | '0' :: 'x' :: s => based 16 isHex s
  | '0' :: 'o' :: s => based 8 isOctal s
  | '0' :: 'b' :: s => based 2 isBinary s
  | s =>
    let (negative, s) := sign s
    (whole s).bind fun (ds, s) => (signed? negative (valueOf 10 ds)).map (·, s)

/-- An exponent part, if one is there: `none` when it is begun and not finished. -/
def exponent (s : List Char) : Option (Option Int × List Char) :=
  match s with
  | c :: t =>
    if c = 'e' || c = 'E' then
      let (negative, t) := sign t
      (digits Char.isDigit t).map fun (ds, t) =>
        let n : Int := valueOf 10 ds
        (some (if negative then -n else n), t)
    else some (none, s)
  | [] => some (none, [])

/-- With a leading exponent beyond these every float is infinite or zero. -/
def extreme : Int := 400

def decimal (n : Nat) (e : Int) : Float :=
  let lead : Int := (Nat.toDigits 10 n).length + e
  if n = 0 then 0
  else if extreme < lead then 1 / 0
  else if lead < -extreme then 0
  else if 0 ≤ e then Float.ofScientific n false e.toNat
  else Float.ofScientific n true (-e).toNat

/-- A point or an exponent makes a number a float. Too large a positive one is refused. -/
def finiteFloat (s : List Char) : Option (Float × List Char) := do
  let (negative, s) := sign s
  let (front, s) ← whole s
  let (back, s) ← match s with
    | '.' :: s => (digits Char.isDigit s).map fun (ds, s) => (some ds, s)
    | s => some (none, s)
  let (power, s) ← exponent s
  if back.isNone && power.isNone then none
  else
    let places := back.getD []
    let x := decimal (valueOf 10 (front ++ places)) (power.getD 0 - places.length)
    if negative then some (-x, s)
    else if x.isInf then none
    else some (x, s)

def specialFloat (s : List Char) : Option (Float × List Char) :=
  let (negative, s) := sign s
  match s with
  | 'i' :: 'n' :: 'f' :: s => some (if negative then -(1 / 0) else 1 / 0, s)
  | 'n' :: 'a' :: 'n' :: s => some (0 / 0, s)
  | _ => none

/-! Dates and times -/

def field (count low high : Nat) (s : List Char) : Option (Nat × List Char) :=
  let ds := s.take count
  if ds.length = count && ds.all Char.isDigit then
    let n := valueOf 10 ds
    if low ≤ n && n ≤ high then some (n, s.drop count) else none
  else none

def date (s : List Char) : Option (Date × List Char) := do
  let (year, s) ← field 4 0 9999 s
  let (month, s) ← field 2 1 12 (← expect '-' s)
  let (day, s) ← field 2 1 (Date.daysIn year month) (← expect '-' s)
  return (⟨year, month, day⟩, s)

/-- Nine places of a second count; further digits are dropped. -/
def nanoseconds : List Char → Option (Nat × List Char)
  | '.' :: s =>
    let ds := s.takeWhile Char.isDigit
    if ds.isEmpty then none
    else
      let nine := ds.take 9
      some (valueOf 10 nine * Nat.pow 10 (9 - nine.length), s.drop ds.length)
  | s => some (0, s)

def clock (lastHour : Nat) (s : List Char) : Option ((Nat × Nat × Nat) × List Char) := do
  let (hour, s) ← field 2 0 lastHour s
  let (minute, s) ← field 2 0 59 (← expect ':' s)
  let (second, s) ← field 2 0 60 (← expect ':' s)
  return ((hour, minute, second), s)

def time (s : List Char) : Option (Time × List Char) := do
  let ((hour, minute, second), s) ← clock 23 s
  match nanoseconds s with
  | some (nano, s) => return (⟨hour, minute, second, nano⟩, s)
  | none => return (⟨hour, minute, second, 0⟩, s)

def offset : List Char → Option (Option Offset × List Char)
  | 'Z' :: s => some (some .zulu, s)
  | 'z' :: s => some (some .zulu, s)
  | c :: s =>
    if c = '+' || c = '-' then do
      let (hour, s) ← field 2 0 23 s
      let (minute, s) ← field 2 0 59 (← expect ':' s)
      let n : Int := hour * 60 + minute
      return (some (.minutes (if c = '-' then -n else n)), s)
    else some (none, c :: s)
  | [] => some (none, [])

def isTimeMark (c : Char) : Bool := c == 'T' || c == 't' || c == ' '

/-- A text that begins like a date or a time and then goes wrong is refused; `none` inside says that
it is neither. -/
def moment (s : List Char) : Option (Option (Moment × List Char)) :=
  if ((field 4 0 9999 s).bind fun (_, s) => expect '-' s).isSome then do
    let (d, s) ← date s
    match s with
    | c :: t =>
      if isTimeMark c && ((field 2 0 23 t).bind fun (_, t) => expect ':' t).isSome then
        let (t, s) ← time t
        let (o, s) ← offset s
        return some (⟨some d, some t, o⟩, s)
      else return some (⟨some d, none, none⟩, s)
    | [] => return some (⟨some d, none, none⟩, [])
  else if ((field 2 0 23 s).bind fun (_, s) => expect ':' s).isSome then do
    let (t, s) ← time s
    return some (⟨none, some t, none⟩, s)
  else some none

/-- A whole text as a date, a time or both. Here a day may end at 24 hours, and the minutes of an
offset go up to 99 as long as it is at most a day. -/
def momentText? (text : String) : Option Moment := do
  let s := text.toList
  let timed (s : List Char) : Option (Time × List Char) := do
    let ((hour, minute, second), s) ← clock 24 s
    let (nano, s) ← nanoseconds s
    return (⟨hour, minute, second, nano⟩, s)
  if s[2]? = some ':' then
    match ← timed s with
    | (t, []) => return ⟨none, some t, none⟩
    | _ => none
  else
    match ← date s with
    | (d, []) => return ⟨some d, none, none⟩
    | (d, c :: s) =>
      if !isTimeMark c then none
      else
        match ← timed s with
        | (t, []) => return ⟨some d, some t, none⟩
        | (t, ['Z']) | (t, ['z']) => return ⟨some d, some t, some .zulu⟩
        | (t, c :: s) =>
          let (hour, s) ← field 2 0 99 s
          let (minute, s) ← field 2 0 99 (← expect ':' s)
          let n : Int := hour * 60 + minute
          if !s.isEmpty || 24 * 60 < n then none
          else if c = '+' then return ⟨some d, some t, some (.minutes n)⟩
          else if c = '-' then return ⟨some d, some t, some (.minutes (-n))⟩
          else none

/-! Scalars -/

def number (s : List Char) : Option (Value × List Char) :=
  match moment s with
  | none => none
  | some (some (m, s)) => some (.moment m, s)
  | some none =>
    match finiteFloat s with
    | some (x, s) => some (.float x, s)
    | none =>
      match specialFloat s with
      | some (x, s) => some (.float x, s)
      | none => (integer s).map fun (n, s) => (.integer n, s)

def scalar : Reader Value
  | 't' :: 'r' :: 'u' :: 'e' :: s => some (.boolean true, s)
  | 'f' :: 'a' :: 'l' :: 's' :: 'e' :: s => some (.boolean false, s)
  | s@('"' :: _) => (quoted s).map fun (t, s) => (.string t, s)
  | s@('\'' :: _) => (quoted s).map fun (t, s) => (.string t, s)
  | s => number s

/-! Keys -/

def simpleKey (s : List Char) : Option (String × List Char) :=
  match s with
  | '"' :: _ => quotedLine s
  | '\'' :: _ => quotedLine s
  | s =>
    let bare := s.takeWhile Quoted.isBare
    if bare.isEmpty then none else some (String.ofList bare, s.drop bare.length)

def keyPath : Nat → Reader (List String)
  | 0, _ => none
  | depth + 1, s => do
    let (k, s) ← simpleKey (skipBlanks s)
    match skipBlanks s with
    | '.' :: s =>
      let (ks, s) ← keyPath depth s
      return (k :: ks, s)
    | s => return ([k], s)

end Lexeme

end TraceView.Toml
