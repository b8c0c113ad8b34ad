/-!
Splitting at delimiters. `split_cons` and `split_nil` give the rule; `splitOnto` is the same
function in constant stack.
-/

namespace TraceView.Text

variable {α : Type}

def split (isDelim : α → Bool) : List α → List (List α)
  | [] => [[]]
  | a :: as =>
    if isDelim a then [] :: split isDelim as
    else match split isDelim as with
      | [] => [[a]]
      | w :: ws => (a :: w) :: ws

theorem split_ne_nil (isDelim : α → Bool) (as : List α) : split isDelim as ≠ [] := by
  induction as with
  | nil => simp [split]
  | cons a as ih =>
    simp only [split]
    split
    · simp
    · split <;> simp

def splitOnto (isDelim : α → Bool) (done : List (List α)) (current : List α) :
    List α → List (List α)
  | [] => (current.reverse :: done).reverse
  | a :: as =>
    if isDelim a then splitOnto isDelim (current.reverse :: done) [] as
    else splitOnto isDelim done (a :: current) as

theorem splitOnto_eq (isDelim : α → Bool) (done : List (List α)) (current as : List α) :
    splitOnto isDelim done current as =
      done.reverse ++ (split isDelim as).modifyHead (current.reverse ++ ·) := by
  induction as generalizing done current with
  | nil => simp [splitOnto, split]
  | cons a as ih =>
    by_cases h : isDelim a = true
    · have hs : ∀ ws : List (List α), List.modifyHead (fun w => w) ws = ws := by
        intro ws; cases ws <;> rfl
      simp [splitOnto, split, h, ih, hs]
    · have hn := split_ne_nil isDelim as
      cases hw : split isDelim as with
      | nil => exact absurd hw hn
      | cons w ws => simp [splitOnto, split, h, ih, hw]

def pieces (isDelim : α → Bool) (as : List α) : List (List α) := splitOnto isDelim [] [] as

theorem pieces_eq (isDelim : α → Bool) (as : List α) : pieces isDelim as = split isDelim as := by
  rw [pieces, splitOnto_eq]
  cases split isDelim as <;> simp

def words (isBlank : α → Bool) (as : List α) : List (List α) :=
  (pieces isBlank as).filter (!·.isEmpty)

/-- Stretches that each end at a delimiter or at the end: a last delimiter opens no new one. -/
def lines (isBreak : α → Bool) (as : List α) : List (List α) :=
  let ws := pieces isBreak as
  if ws.getLast?.any List.isEmpty then ws.dropLast else ws

/-- The tokens of a text. A trailing delimiter opens no token, and an empty text has none. -/
def explode (s : String) (delim : Char) : List String :=
  (lines (· == delim) s.toList).map String.ofList

def implode (parts : List String) (delim : String) : String := delim.intercalate parts

end TraceView.Text
