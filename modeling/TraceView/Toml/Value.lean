import TraceView.Toml.Moment

namespace TraceView.Toml

abbrev Entries (α : Type) := List (String × α)

namespace Entries

variable {α : Type}

def find? (es : Entries α) (key : String) : Option α := es.lookup key

def insert (key : String) (a : α) : Entries α → Entries α
  | [] => [(key, a)]
  | (k, b) :: es =>
    if key = k then (key, a) :: es
    else if key < k then (key, a) :: (k, b) :: es
    else (k, b) :: insert key a es

/-- Replaces the entry of the key, or adds one at the end: the order of arrival. -/
def set (key : String) (a : α) : Entries α → Entries α
  | [] => [(key, a)]
  | (k, b) :: es => if key = k then (key, a) :: es else (k, b) :: set key a es

theorem find?_insert_self (key : String) (a : α) (es : Entries α) :
    find? (insert key a es) key = some a := by
  induction es with
  | nil => simp [insert, find?]
  | cons e es ih =>
    obtain ⟨k, b⟩ := e
    simp only [insert]
    split
    · simp [find?]
    · split
      · simp [find?]
      · rename_i h _
        have hk : (key == k) = false := by simpa using h
        simpa [find?, List.lookup_cons, hk] using ih

theorem find?_insert_of_ne {key other : String} (h : other ≠ key) (a : α) (es : Entries α) :
    find? (insert key a es) other = find? es other := by
  have hb : (other == key) = false := by simpa using h
  induction es with
  | nil => simp [insert, find?, List.lookup_cons, hb]
  | cons e es ih =>
    obtain ⟨k, b⟩ := e
    simp only [insert]
    split
    · rename_i hk
      simp [find?, List.lookup_cons, hb, ← hk]
    · split
      · simp [find?, List.lookup_cons, hb]
      · simp only [find?, List.lookup_cons] at ih ⊢
        rw [ih]

end Entries

inductive Value where
  | string (s : String)
  | integer (n : Int64)
  | float (x : Float)
  | boolean (b : Bool)
  | moment (m : Moment)
  | array (xs : List Value)
  | table (es : List (String × Value))

abbrev Document := Entries Value

namespace Value

def isTable : Value → Bool
  | .table _ => true
  | _ => false

def entries? : Value → Option Document
  | .table es => some es
  | _ => none

def elements? : Value → Option (List Value)
  | .array xs => some xs
  | _ => none

mutual

/-- Equality with floats compared as floats: NaN differs from itself, and the zeros agree. -/
def same : Value → Value → Bool
  | .string s, .string t => s == t
  | .integer m, .integer n => m == n
  | .float x, .float y => x == y
  | .boolean a, .boolean b => a == b
  | .moment m, .moment n => m == n
  | .array xs, .array ys => sameList xs ys
  | .table es, .table fs => sameEntries es fs
  | _, _ => false

def sameList : List Value → List Value → Bool
  | [], [] => true
  | x :: xs, y :: ys => same x y && sameList xs ys
  | _, _ => false

def sameEntries : List (String × Value) → List (String × Value) → Bool
  | [], [] => true
  | (k, x) :: es, (l, y) :: fs => k == l && same x y && sameEntries es fs
  | _, _ => false

end

instance : BEq Value := ⟨same⟩

end Value

end TraceView.Toml
