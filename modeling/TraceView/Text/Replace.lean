namespace TraceView.Text

def replaceChar (s : String) (search replace : Char) : String :=
  String.ofList (s.toList.map fun c => if c = search then replace else c)

def stripPrefix? {α : Type} [BEq α] : List α → List α → Option (List α)
  | [], s => some s
  | _ :: _, [] => none
  | p :: ps, c :: cs => if p == c then stripPrefix? ps cs else none

theorem stripPrefix?_eq_some_iff {α : Type} [BEq α] [LawfulBEq α] {p s r : List α} :
    stripPrefix? p s = some r ↔ s = p ++ r := by
  induction p generalizing s with
  | nil => simp [stripPrefix?]
  | cons a p ih =>
    cases s with
    | nil => simp [stripPrefix?]
    | cons b s =>
      by_cases hab : a = b
      · simp [stripPrefix?, hab, ih]
      · simp [stripPrefix?, hab, Ne.symm hab]

theorem isSome_stripPrefix?_iff {α : Type} [BEq α] [LawfulBEq α] {p s : List α} :
    (stripPrefix? p s).isSome ↔ p <+: s := by
  rw [Option.isSome_iff_exists]
  exact exists_congr fun r => stripPrefix?_eq_some_iff.trans eq_comm

/-- Left to right, occurrences that do not overlap. `skip` counts the characters of a match still
to be passed over. -/
def replaceFrom (search replace : List Char) : Nat → List Char → List Char
  | _, [] => []
  | k + 1, _ :: cs => replaceFrom search replace k cs
  | 0, c :: cs =>
    if (stripPrefix? search (c :: cs)).isSome then
      replace ++ replaceFrom search replace (search.length - 1) cs
    else c :: replaceFrom search replace 0 cs

/-- An empty `search` leaves the text unchanged. -/
def replaceAll (s search replace : String) : String :=
  if search.isEmpty then s
  else String.ofList (replaceFrom search.toList replace.toList 0 s.toList)

end TraceView.Text
