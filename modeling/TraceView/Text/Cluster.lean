import TraceView.Text.Tables.Cluster

namespace TraceView.Text

inductive ClusterClass where
  | carriageReturn
  | lineFeed
  | control
  | mark
  | joiner
  | flagHalf
  | leading
  | spacing
  | hangulL
  | hangulV
  | hangulT
  | hangulLV
  | hangulLVT
  | picture
  | other
  deriving DecidableEq, Repr

namespace ClusterClass

def hangulBase : Nat := 0xAC00
def hangulEnd : Nat := 0xD7A4
def hangulFinals : Nat := 28

def within (n low high : Nat) : Bool := low ≤ n && n ≤ high

def of (c : Char) : ClusterClass :=
  let n := c.toNat
  if within n 0x20 0x7E then other
  else if n = 0x0D then carriageReturn
  else if n = 0x0A then lineFeed
  else if n = 0x200D then joiner
  else if clusterExtend.contains n then mark
  else if clusterControl.contains n then control
  else if within n 0x1F1E6 0x1F1FF then flagHalf
  else if clusterPrepend.contains n then leading
  else if clusterSpacing.contains n then spacing
  else if within n 0x1100 0x115F || within n 0xA960 0xA97C then hangulL
  else if within n 0x1160 0x11A7 || within n 0xD7B0 0xD7C6 || n = 0x16D63
    || within n 0x16D67 0x16D6A then hangulV
  else if within n 0x11A8 0x11FF || within n 0xD7CB 0xD7FB then hangulT
  else if hangulBase ≤ n && n < hangulEnd then
    if (n - hangulBase) % hangulFinals = 0 then hangulLV else hangulLVT
  else if pictographs.contains n then picture
  else other

def isBreak : ClusterClass → Bool
  | carriageReturn | lineFeed | control => true
  | _ => false

end ClusterClass

def nonJoiner : Char := '\u200C'

def isConjunctMark (c : Char) : Bool :=
  c ≠ nonJoiner && (ClusterClass.of c = .mark || ClusterClass.of c = .joiner)

/-- A consonant, then marks with a linker among them; newest first. -/
def isConjunctOpen (opened : List Char) : Bool :=
  let marks := opened.takeWhile isConjunctMark
  marks.any (conjunctLinkers.contains ·.toNat) &&
    ((opened.drop marks.length).head?.any fun c => conjunctConsonants.contains c.toNat)

/-- A picture, marks and a joiner; newest first. -/
def isPictureOpen : List Char → Bool
  | [] => false
  | c :: cs =>
    ClusterClass.of c = .joiner &&
      ((cs.dropWhile fun c => ClusterClass.of c = .mark).head?.any fun c =>
        ClusterClass.of c = .picture)

def joins (opened : List Char) (c : Char) : Bool :=
  match opened with
  | [] => true
  | last :: _ =>
    match ClusterClass.of last, ClusterClass.of c with
    | .carriageReturn, .lineFeed => true
    | before, after =>
      if before.isBreak || after.isBreak then false
      else match before, after with
        | _, .mark | _, .joiner | _, .spacing | .leading, _ => true
        | .hangulL, .hangulL | .hangulL, .hangulV | .hangulL, .hangulLV | .hangulL, .hangulLVT =>
          true
        | .hangulLV, .hangulV | .hangulV, .hangulV => true
        | .hangulLV, .hangulT | .hangulV, .hangulT => true
        | .hangulLVT, .hangulT | .hangulT, .hangulT => true
        | .flagHalf, .flagHalf =>
          (opened.takeWhile fun c => ClusterClass.of c = .flagHalf).length % 2 == 1
        | _, .picture => isPictureOpen opened
        | _, .other => conjunctConsonants.contains c.toNat && isConjunctOpen opened
        | _, _ => false

def clustersFrom (opened : List Char) : List Char → List (List Char)
  | [] => if opened.isEmpty then [] else [opened.reverse]
  | c :: cs =>
    if joins opened c then clustersFrom (c :: opened) cs
    else opened.reverse :: clustersFrom [c] cs

def clusters (s : List Char) : List (List Char) := clustersFrom [] s

theorem flatten_clustersFrom (opened s : List Char) :
    (clustersFrom opened s).flatten = opened.reverse ++ s := by
  induction s generalizing opened with
  | nil =>
    simp only [clustersFrom]
    split <;> simp_all
  | cons c cs ih =>
    simp only [clustersFrom]
    split <;> simp [ih]

@[simp] theorem flatten_clusters (s : List Char) : (clusters s).flatten = s := by
  simp [clusters, flatten_clustersFrom]

end TraceView.Text
