import TraceView.SourcePolicy

namespace TraceView.SourcePolicy

inductive Zone where
  | code
  | literal
  | lineComment
  | blockComment
  deriving DecidableEq

def Zone.IsComment : Zone → Prop
  | .lineComment | .blockComment => True
  | .code | .literal => False

instance : DecidablePred Zone.IsComment
  | .lineComment | .blockComment => .isTrue trivial
  | .code | .literal => .isFalse id

inductive Reading where
  | code (inWord : Bool)
  | string
  | rawString (hashes : Nat)
  | character
  | lineComment
  | blockComment (depth : Nat)
  /-- In a mark of several characters, `left + 1` of which are to come. -/
  | mark (left : Nat) (ofComment : Bool) (next : Reading)

def Reading.behind (left : Nat) (ofComment : Bool) (next : Reading) : Reading :=
  match left with
  | 0 => next
  | left + 1 => .mark left ofComment next

/-- White space beyond ASCII that parts words. -/
def wideBlanks : List Nat := [0x85, 0x200E, 0x200F, 0x2028, 0x2029]

/-- Letters, digits and the underscore; beyond ASCII all but white space. -/
def isWordChar (c : Char) : Bool :=
  c.isAlphanum || c == '_' || (0x80 ≤ c.toNat && !wideBlanks.contains c.toNat)

def hashesBeforeQuote? (cs : List Char) : Option Nat :=
  let hashes := (cs.takeWhile (· == '#')).length
  if cs[hashes]? = some '"' then some hashes else none

def rawStart? : List Char → Option (Nat × Nat)
  | 'r' :: cs => (hashesBeforeQuote? cs).map (1, ·)
  | 'b' :: 'r' :: cs | 'c' :: 'r' :: cs => (hashesBeforeQuote? cs).map (2, ·)
  | _ => none

namespace Reading

/-- Reads a character of code; `cs` comes behind it. A quote that closes nothing begins a lifetime. -/
def readCode (inWord : Bool) (c : Char) (cs : List Char) : Zone × Reading :=
  match c, cs with
  | '/', '/' :: _ => (.lineComment, .lineComment)
  | '/', '*' :: _ => (.blockComment, .mark 0 true (.blockComment 0))
  | '"', _ => (.literal, .string)
  | '\'', '\\' :: _ => (.literal, .character)
  | '\'', _ :: '\'' :: _ => (.literal, .mark 1 false (.code false))
  | '\'', _ => (.code, .code true)
  | c, cs =>
    match inWord, rawStart? (c :: cs) with
    | false, some (letters, hashes) =>
      (.literal, behind (letters + hashes) false (.rawString hashes))
    | _, _ => (.code, .code (isWordChar c))

def read (r : Reading) (c : Char) (cs : List Char) : Zone × Reading :=
  match r with
  | .code inWord => readCode inWord c cs
  | .string =>
    (.literal, if c = '\\' then .mark 0 false .string else if c = '"' then .code false else .string)
  | .rawString hashes =>
    (.literal, if c = '"' ∧ (List.replicate hashes '#') <+: cs then behind hashes false (.code false)
      else .rawString hashes)
  | .character =>
    (.literal, if c = '\\' then .mark 0 false .character else if c = '\'' then .code false
      else .character)
  | .lineComment => if c = '\n' then (.code, .code false) else (.lineComment, .lineComment)
  | .blockComment depth =>
    (.blockComment,
      if c = '*' ∧ cs.head? = some '/' then
        .mark 0 true (if depth = 0 then .code false else .blockComment (depth - 1))
      else if c = '/' ∧ cs.head? = some '*' then .mark 0 true (.blockComment (depth + 1))
      else .blockComment depth)
  | .mark left ofComment next =>
    (if ofComment then .blockComment else .literal, behind left ofComment next)

def zones (r : Reading) : List Char → List Zone
  | [] => []
  | c :: cs => (r.read c cs).1 :: (r.read c cs).2.zones cs

theorem exists_zones_append (r : Reading) (cs more : List Char) :
    ∃ (before : List Zone) (next : Reading), before.length = cs.length ∧
      r.zones (cs ++ more) = before ++ next.zones more := by
  induction cs generalizing r with
  | nil => exact ⟨[], r, rfl, rfl⟩
  | cons c cs ih =>
    obtain ⟨before, next, hlength, heq⟩ := ih (r.read c (cs ++ more)).2
    refine ⟨(r.read c (cs ++ more)).1 :: before, next, congrArg Nat.succ hlength, ?_⟩
    rw [List.cons_append, zones, heq]
    rfl

theorem zones_lineComment {cs : List Char} (h : '\n' ∉ cs) (more : List Char) :
    ∀ i < cs.length, (zones .lineComment (cs ++ more))[i]? = some .lineComment := by
  induction cs with
  | nil => nofun
  | cons c cs ih =>
    rw [List.mem_cons, not_or] at h
    have hread : read .lineComment c (cs ++ more) = (.lineComment, .lineComment) :=
      if_neg (Ne.symm h.1)
    intro i hi
    rw [List.cons_append, zones, hread]
    cases i with
    | zero => rfl
    | succ i => exact ih h.2 i (Nat.lt_of_succ_lt_succ hi)

theorem read_slashes (r : Reading) (cs : List Char) :
    r.read '/' ('/' :: cs) = (.lineComment, .lineComment) ∨
      (r.read '/' ('/' :: cs)).1 = .literal ∨ (r.read '/' ('/' :: cs)).1 = .blockComment := by
  cases r with
  | code => exact .inl rfl
  | lineComment => exact .inl rfl
  | string | rawString | character => exact .inr (.inl rfl)
  | blockComment => exact .inr (.inr rfl)
  | mark left ofComment next =>
    cases ofComment with
    | true => exact .inr (.inr rfl)
    | false => exact .inr (.inl rfl)

end Reading

def zones (text : List Char) : List Zone := Reading.zones (.code false) text

/-- Two slashes stand at a place of a text but begin no line comment. -/
structure Masked (text : List Char) (place : Nat) : Prop where
  slash : text[place]? = some '/'
  next : text[place + 1]? = some '/'
  zone : (zones text)[place]? = some .literal ∨ (zones text)[place]? = some .blockComment

instance (text : List Char) (place : Nat) : Decidable (Masked text place) :=
  decidable_of_iff (text[place]? = some '/' ∧ text[place + 1]? = some '/' ∧
      ((zones text)[place]? = some .literal ∨ (zones text)[place]? = some .blockComment))
    ⟨fun ⟨hslash, hnext, hzone⟩ => ⟨hslash, hnext, hzone⟩, fun h => ⟨h.slash, h.next, h.zone⟩⟩

theorem lineComment_of_slashes (before : List Char) {rest : List Char} (hrest : '\n' ∉ rest)
    (after : List Char) (h : ¬ Masked (before ++ '/' :: '/' :: rest ++ after) before.length) :
    ∀ i < rest.length + 2,
      (zones (before ++ '/' :: '/' :: rest ++ after))[before.length + i]? = some .lineComment := by
  obtain ⟨done, r, hlength, hzones⟩ :=
    Reading.exists_zones_append (.code false) before ('/' :: '/' :: rest ++ after)
  have hplace (i : Nat) : (zones (before ++ '/' :: '/' :: rest ++ after))[before.length + i]? =
      (r.zones ('/' :: '/' :: rest ++ after))[i]? := by
    rw [zones, List.append_assoc, hzones, ← hlength, List.getElem?_append_right (by omega),
      Nat.add_sub_cancel_left]
  have hslashes := r.read_slashes (rest ++ after)
  rcases hslashes with hread | hmasked
  · have hcomment : '\n' ∉ '/' :: rest := by simpa using hrest
    have hlater := Reading.zones_lineComment hcomment after
    intro i hi
    rw [hplace, List.cons_append, List.cons_append, Reading.zones, hread]
    cases i with
    | zero => rfl
    | succ i => exact hlater i (Nat.lt_of_succ_lt_succ hi)
  · refine absurd ⟨?_, ?_, ?_⟩ h
    · simp
    · simp
    · have hfirst := hplace 0
      rw [Nat.add_zero] at hfirst
      rw [hfirst, List.cons_append, List.cons_append, Reading.zones, List.getElem?_cons_zero,
        Option.some.injEq, Option.some.injEq]
      exact hmasked

/-- A string with slashes and a quote in it, a comment in a comment, a slash as a character, a comment up
to the end of the line, and a raw string with a quote in it. -/
example : zones "a\"//\\\"\"/*/**/ */'/'//\nr#\"\"\"#b".toList =
    [.code] ++ .replicate 6 .literal ++ .replicate 9 .blockComment ++ .replicate 3 .literal ++
      [.lineComment, .lineComment, .code] ++ .replicate 6 .literal ++ [.code] := by decide

end TraceView.SourcePolicy
