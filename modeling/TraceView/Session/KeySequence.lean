import TraceView.Number.Natural
import TraceView.Session.Key
import TraceView.Text.Split
import TraceView.Text.Utf8

namespace TraceView

inductive KeySequence where
  | unfinished
  | key (e : KeyEvent)
  | nothing
  deriving DecidableEq, Repr

namespace KeySequence

def press (code : KeyCode) : KeySequence := .key { code }

def parameters (bytes : Bytes) : List (List Char) :=
  Text.pieces (· == ';') (bytes.map fun b => Char.ofNat b.toNat)

def number? (bound : Nat) (digits : List Char) : Option Nat :=
  Natural.read? bound (String.ofList digits)

def motionOf (n : Nat) : KeyMotion :=
  if n = 2 then .hold else if n = 3 then .release else .press

structure Manner where
  held : Nat := 0
  motion : KeyMotion := .press

def Manner.shift (m : Manner) : Bool := m.held % 2 == 1
def Manner.control (m : Manner) : Bool := m.held / 4 % 2 == 1

/-- `held + 1`, and after a colon what the key does. -/
def manner? (parameter : Option (List Char)) : Option Manner := do
  let parts := Text.pieces (· == ':') (← parameter)
  let mask ← number? UInt8.size (← parts.head?)
  let motion := (parts[1]?.bind (number? UInt8.size)).getD 1
  return ⟨mask - 1, motionOf motion⟩

def cursor? (last : UInt8) : Option KeyCode :=
  match Char.ofNat last.toNat with
  | 'A' => some .up
  | 'B' => some .down
  | 'C' => some .right
  | 'D' => some .left
  | 'F' => some .finish
  | _ => none

def cursor (last : UInt8) : KeySequence := ((cursor? last).map press).getD .nothing

/-- A cursor sequence with parameters. A manner that does not read has to end in a digit. -/
def cursorIn (body : Bytes) (last : UInt8) : KeySequence :=
  let endsInDigit := body.getLast?.any fun b => (Char.ofNat b.toNat).isDigit
  match cursor? last, manner? (parameters body)[1]?, endsInDigit with
  | some code, some m, _ => .key { code, motion := m.motion }
  | some code, none, true => press code
  | _, _, _ => .nothing

def numbered? : Nat → Option KeyCode
  | 4 | 8 => some .finish
  | 5 => some .pageUp
  | 6 => some .pageDown
  | _ => none

def numbered (body : Bytes) : KeySequence :=
  let ps := parameters body
  let motion := ((manner? ps[1]?).getD {}).motion
  match (ps.head?.bind (number? UInt8.size)).bind numbered? with
  | some code => .key { code, motion }
  | none => .nothing

def functional? (n : Nat) : Option KeyCode :=
  match n with
  | 57409 => some (.char '.')
  | 57410 => some (.char '/')
  | 57411 => some (.char '*')
  | 57412 => some (.char '-')
  | 57413 => some (.char '+')
  | 57414 => some .enter
  | 57415 => some (.char '=')
  | 57416 => some (.char ',')
  | 57417 => some .left
  | 57418 => some .right
  | 57419 => some .up
  | 57420 => some .down
  | 57421 => some .pageUp
  | 57422 => some .pageDown
  | 57424 => some .finish
  | n =>
    if 57399 ≤ n && n ≤ 57408 then some (.char (Char.ofNat ('0'.toNat + (n - 57399))))
    else if (57358 ≤ n && n ≤ 57363) || (57376 ≤ n && n ≤ 57454) then some .other
    else none

def isShift (n : Nat) : Bool := n == 57441 || n == 57447

def scalar? (n : Nat) : Option Char := if n.isValidChar then some (Char.ofNat n) else none

def coded? (n : Nat) : Option KeyCode :=
  match functional? n, scalar? n with
  | some code, _ => some code
  | none, some '\x1b' => some .escape
  | none, some '\r' => some .enter
  | none, some '\t' | none, some '\x7f' => some .other
  | none, some c => some (.char c)
  | none, none => none

def encoded (body : Bytes) : KeySequence :=
  let ps := parameters body
  let points := (ps.head?.map (Text.pieces (· == ':'))).getD []
  let m := (manner? ps[1]?).getD {}
  let point? (digits : Option (List Char)) := digits.bind (number? UInt32.size)
  match point? points.head? with
  | none => .nothing
  | some n =>
    let shifted := if m.shift || isShift n then (point? points[1]?).bind scalar? else none
    match coded? n, shifted with
    | none, _ => .nothing
    | some _, some c => .key { code := .char c, control := m.control, motion := m.motion }
    | some code, none => .key { code, control := m.control, motion := m.motion }

def pasteStart : Bytes := Utf8.encode "200~"
def pasteEnd : Bytes := Utf8.encode "\x1b[201~"

def bracketed (bytes : Bytes) : KeySequence :=
  match bytes, bytes.getLast? with
  | b :: rest, some last =>
    let final := Char.ofNat last.toNat
    match Char.ofNat b.toNat with
    | '[' => if rest.isEmpty then .unfinished else .nothing
    | 'M' => if rest.length < 3 then .unfinished else .nothing
    | '<' => if final = 'm' || final = 'M' then .nothing else .unfinished
    | '?' => if final = 'c' || (final = 'u' && 3 ≤ bytes.length) then .nothing else .unfinished
    | c =>
      if !c.isDigit then cursor b
      else if rest.isEmpty || final < '@' || '~' < final then .unfinished
      else if pasteStart.isPrefixOf bytes then
        if pasteEnd.isSuffixOf bytes then .nothing else .unfinished
      else match final with
        | 'M' | 'R' => .nothing
        | '~' => numbered bytes.dropLast
        | 'u' => encoded bytes.dropLast
        | _ => cursorIn bytes.dropLast last
  | _, _ => .unfinished

def tails : Utf8.Lead → Nat
  | .two => 1
  | .three .. => 2
  | .four .. => 3
  | _ => 0

def ofChar (c : Char) : KeyEvent :=
  if c = '\r' then { code := .enter }
  else if c = '\t' || c = '\x7f' then { code := .other }
  else if c = '\x00' then { code := .char ' ', control := true }
  else if c.toNat < 0x1B then { code := .char (Char.ofNat (c.toNat + 0x60)), control := true }
  else if c.toNat < 0x20 then { code := .char (Char.ofNat (c.toNat - 0x1C + 0x34)), control := true }
  else { code := .char c }

def character (b : UInt8) (rest : Bytes) : KeySequence :=
  let lead := Utf8.Lead.of b
  if lead = .stray then .nothing
  else if rest.length < tails lead then .unfinished
  else .key (ofChar (Utf8.scalar b rest).1)

def escape : UInt8 := 0x1B

/-- What bytes come to, when more are waiting or not. An escape that nothing follows is its key, and
one before a character is passed over. -/
def of (bytes : Bytes) (waiting : Bool) : KeySequence :=
  match bytes with
  | [] => .unfinished
  | b :: rest =>
    if b ≠ escape then character b rest
    else match rest with
      | [] => if waiting then .unfinished else press .escape
      | b :: rest =>
        if b = escape then press .escape
        else match Char.ofNat b.toNat, rest with
          | 'O', [] => .unfinished
          | 'O', last :: _ => cursor last
          | '[', _ => bracketed rest
          | _, _ => character b rest

end KeySequence

namespace KeyEvent

def readFrom (gathered : Bytes) : Bytes → List KeyEvent
  | [] => []
  | b :: bs =>
    match KeySequence.of (gathered ++ [b]) (!bs.isEmpty) with
    | .unfinished => readFrom (gathered ++ [b]) bs
    | .key e => e :: readFrom [] bs
    | .nothing => readFrom [] bs

def read (typed : List Char) : List KeyEvent := readFrom [] (Utf8.encode (String.ofList typed))

end KeyEvent

end TraceView
