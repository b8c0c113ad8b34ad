import TraceView.Text.Cluster
import TraceView.Text.Tables.Width

/-!
How many terminal cells a text takes. The characters of a cluster count one by one, from the last to
the first, so that each knows what follows it: a skin tone, a joiner or a form selector changes what
the character before it takes.
-/

namespace TraceView.Text

def isControl (c : Char) : Bool := c.toNat < 0x20 || (0x7F ≤ c.toNat && c.toNat ≤ 0x9F)

def beyyal : Char := '\u17D8'

def charWidth (c : Char) : Nat :=
  if c.toNat ≤ 0xA0 then 1
  else if zeroWidth.contains c.toNat then 0
  else if c = beyyal then 3
  else if wide.contains c.toNat then 2
  else 1

def asPicture : Char := '\uFE0F'
def asText : Char := '\uFE0E'
def joiner : Char := '\u200D'
def keycap : Char := '\u20E3'
def coeng : Char := '\u17D2'

def isSkinTone (c : Char) : Bool := 0x1F3FB ≤ c.toNat && c.toNat ≤ 0x1F3FF
def isTagLetter (c : Char) : Bool := 0xE0061 ≤ c.toNat && c.toNat ≤ 0xE007A
def isTagDigit (c : Char) : Bool := 0xE0030 ≤ c.toNat && c.toNat ≤ 0xE0039
def isTagEnd (c : Char) : Bool := c.toNat = 0xE007F
def isBlackFlag (c : Char) : Bool := c.toNat = 0x1F3F4

def khmerLetters : Ranges := ⟨#[
  0x1780, 0x1783, 0x1784, 0x1788, 0x1789, 0x178D, 0x178E, 0x1794, 0x1795, 0x1799, 0x179B, 0x179E,
  0x17A0, 0x17A1, 0x17A2, 0x17A3, 0x17A7, 0x17A8, 0x17AB, 0x17AD, 0x17AF, 0x17B0]⟩

/-- Ignorable marks and the joiner: they do not keep a sign from the letter it bears on. -/
def isTransparent (c : Char) : Bool :=
  let n := c.toNat
  n = 0x34F || n = 0x17B4 || n = 0x17B5 || (0x180B ≤ n && n ≤ 0x180F && n ≠ 0x180E) || c = joiner
    || (0xFE00 ≤ n && n ≤ 0xFE0F) || (0xE0100 ≤ n && n ≤ 0xE01EF)

def shrinksAsText (c : Char) : Bool :=
  twoForms.contains c.toNat && shownAsPicture.contains c.toNat
    && !(0x1F200 ≤ c.toNat && c.toNat ≤ 0x1F2FF)

/-- What follows a character, as far as its width hangs on it. -/
inductive Follower where
  | plain
  | pictureForm (beforeJoiner : Bool)
  | textForm
  | picture
  | skinTone
  | joined
  | joinedKeycap
  | tagLetters (n : Nat)
  | tagDigits (n : Nat)
  | khmerLetter
  deriving DecidableEq, Repr

namespace Follower

def ofChar (c : Char) : Follower :=
  if c = asPicture then pictureForm false
  else if c = asText then textForm
  else if isSkinTone c then skinTone
  else if khmerLetters.contains c.toNat then khmerLetter
  else if shownAsPicture.contains c.toNat then picture
  else plain

/-- For a character whose width hangs on what follows it: the cells it adds, and what it is to the
character before it. The sign that puts a letter below another gives back the letter's cell. -/
def bind? (f : Follower) (c : Char) : Option (Int × Follower) :=
  match f with
  | plain => none
  | khmerLetter =>
    if isTransparent c then some (0, khmerLetter)
    else if c = coeng then some (-1, plain)
    else none
  | pictureForm beforeJoiner =>
    if twoForms.contains c.toNat then some (if beforeJoiner then 0 else 2, picture) else none
  | textForm => if shrinksAsText c then some (1, plain) else none
  | picture => if c = joiner then some (0, joined) else none
  | skinTone =>
    if skinToneBases.contains c.toNat then some (0, picture)
    else if c = joiner then some (0, joined)
    else none
  | joined =>
    if c = asPicture then some (0, pictureForm true)
    else if c = keycap then some (0, joinedKeycap)
    else if isSkinTone c then some (0, skinTone)
    else if isTagEnd c then some (0, tagLetters 0)
    else if shownAsPicture.contains c.toNat then some (0, picture)
    else none
  | joinedKeycap => if c = asPicture then some (0, pictureForm true) else none
  | tagLetters n =>
    if isTagLetter c && n < 6 then some (0, tagLetters (n + 1))
    else if isTagDigit c && n ≤ 4 then some (0, tagDigits 1)
    else if isBlackFlag c && 3 ≤ n then some (0, picture)
    else none
  | tagDigits n =>
    if isTagDigit c && n < 3 then some (0, tagDigits (n + 1))
    else if isBlackFlag c && n = 3 then some (0, picture)
    else none

end Follower

def widthBefore (c : Char) (follower : Follower) : Int × Follower :=
  (follower.bind? c).getD (charWidth c, .ofChar c)

def clusterWidth (cluster : List Char) : Nat :=
  (cluster.foldr (fun c (n, follower) =>
    let (w, follower) := widthBefore c follower
    (n + w, follower)) ((0 : Int), Follower.plain)).1.toNat

def width (s : String) : Nat := (clusters s.toList).foldr (fun c n => clusterWidth c + n) 0

end TraceView.Text
