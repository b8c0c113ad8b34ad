import TraceView.Files.Path

namespace TraceView

inductive FileError where
  | notFound
  | alreadyExists
  | notAFolder
  | isAFolder
  | nameTooLong
  | nulInPath
  | notText
  /-- Whatever else a system may answer. No operation of a tree does. -/
  | other (text : String)
  deriving DecidableEq, Repr

def FileError.message : FileError → String
  | .notFound => "No such file or directory (os error 2)"
  | .alreadyExists => "File exists (os error 17)"
  | .notAFolder => "Not a directory (os error 20)"
  | .isAFolder => "Is a directory (os error 21)"
  | .nameTooLong => "File name too long (os error 36)"
  | .nulInPath => "file name contained an unexpected NUL byte"
  | .notText => "stream did not contain valid UTF-8"
  | .other text => text

inductive Entry where
  | file (content : Bytes)
  | folder (entries : List (String × Entry))

namespace Entry

def get? : List String → Entry → Option Entry
  | [], e => some e
  | n :: ns, .folder es => (es.lookup n).bind (get? ns)
  | _ :: _, .file _ => none

def put : Entry → List String → Entry → Entry
  | _, [], new => new
  | .folder es, n :: ns, new =>
    match es.lookup n with
    | some child => .folder (es.map fun (m, e) => if m = n then (m, child.put ns new) else (m, e))
    | none => if ns.isEmpty then .folder (es ++ [(n, new)]) else .folder es
  | .file content, _ :: _, _ => .file content

mutual

def descendants (place : List String) : Entry → List (List String × Entry)
  | .file _ => []
  | .folder es => descendantsIn place es

def descendantsIn (place : List String) : List (String × Entry) → List (List String × Entry)
  | [] => []
  | (n, e) :: es =>
    (place ++ [n], e) :: descendants (place ++ [n]) e ++ descendantsIn place es

end

end Entry

structure Tree where
  root : Entry := .folder []
  working : List String := []

namespace Tree

def follow (t : Tree) (place : List String) : List String → Except FileError (List String)
  | [] => .ok place
  | part :: rest =>
    match t.root.get? place with
    | some (.folder es) =>
      if 255 < part.utf8ByteSize then .error .nameTooLong
      else if part = ".." then follow t place.dropLast rest
      else if (es.lookup part).isSome then follow t (place ++ [part]) rest
      else .error .notFound
    | some (.file _) => .error .notAFolder
    | none => .error .notFound

def start (t : Tree) (p : Path) : List String := if p.isAbsolute then [] else t.working

def find (t : Tree) (p : Path) : Except FileError (List String × Entry) :=
  if p.hasNul then .error .nulInPath
  else if p.isEmpty then .error .notFound
  else if p.isTooLong then .error .nameTooLong
  else do
    let place ← t.follow (t.start p) p.parts
    match t.root.get? place with
    | none => .error .notFound
    | some (.file c) => if p.namesFolder then .error .notAFolder else .ok (place, .file c)
    | some (.folder es) => .ok (place, .folder es)

def exists? (t : Tree) (p : Path) : Bool := (t.find p).toOption.isSome

def isFolder (t : Tree) (p : Path) : Bool :=
  match t.find p with
  | .ok (_, .folder _) => true
  | _ => false

def read (t : Tree) (p : Path) : Except FileError Bytes := do
  match ← t.find p with
  | (_, .file content) => .ok content
  | (_, .folder _) => .error .isAFolder

def readText (t : Tree) (p : Path) : Except FileError String := do
  match Utf8.decode? (← t.read p) with
  | some s => .ok s
  | none => .error .notText

def folderSize : Nat := 4096

def size (t : Tree) (p : Path) : Nat :=
  match t.find p with
  | .ok (_, .file content) => content.length
  | .ok (_, .folder _) => folderSize
  | .error _ => 0

def site (t : Tree) (p : Path) : Except FileError (List String × String) :=
  if p.hasNul then .error .nulInPath
  else if p.isTooLong then .error .nameTooLong
  else
    match p.parts.getLast? with
    | none => .error (if p.isEmpty then .notFound else .alreadyExists)
    | some name => do
      let place ← t.follow (t.start p) p.parts.dropLast
      match t.root.get? place with
      | some (.folder _) => if 255 < name.utf8ByteSize then .error .nameTooLong else .ok (place, name)
      | some (.file _) => .error .notAFolder
      | none => .error .notFound

def put (t : Tree) (place : List String) (e : Entry) : Tree :=
  { t with root := t.root.put place e }

def write (t : Tree) (p : Path) (content : Bytes) : Except FileError Tree :=
  match t.find p with
  | .ok (place, .file _) => .ok (t.put place (.file content))
  | .ok (_, .folder _) => .error .isAFolder
  | .error .notFound => do
    let (place, name) ← t.site p
    if p.endsInDot then .error .notFound
    else if p.namesFolder || name = ".." then .error .isAFolder
    else .ok (t.put (place ++ [name]) (.file content))
  | .error e => .error e

def makeFolder (t : Tree) (p : Path) : Except FileError Tree := do
  let (place, name) ← t.site p
  match t.root.get? (place ++ [name]) with
  | some _ => .error .alreadyExists
  | none => if name = ".." then .error .alreadyExists else .ok (t.put (place ++ [name]) (.folder []))

/-- Creates the folder named by components, innermost first, and those above it where they are
missing. A folder that is there already will do. What was created stays when the rest fails. -/
def makeFolders (t : Tree) (absolute : Bool) : List String → Except FileError Unit × Tree
  | [] => (.ok (), t)
  | part :: above =>
    let p : Path := ⟨(if absolute then "/" else "") ++ "/".intercalate (part :: above).reverse⟩
    let settle (t : Tree) (e : FileError) : Except FileError Unit × Tree :=
      (if t.isFolder p then .ok () else .error e, t)
    match t.makeFolder p with
    | .ok t => (.ok (), t)
    | .error .notFound =>
      match t.makeFolders absolute above with
      | (.error e, t) => (.error e, t)
      | (.ok (), t) =>
        match t.makeFolder p with
        | .ok t => (.ok (), t)
        | .error e => settle t e
    | .error e => settle t e

def makeParents (t : Tree) (p : Path) : Except FileError Unit × Tree :=
  t.makeFolders p.isAbsolute p.parts.dropLast.reverse

def save (t : Tree) (p : Path) (content : Bytes) : Except FileError Unit × Tree :=
  match t.makeParents p with
  | (.error e, t) => (.error e, t)
  | (.ok (), t) =>
    match t.write p content with
    | .ok t => (.ok (), t)
    | .error e => (.error e, t)

def walk (t : Tree) (p : Path) : List (Path × Entry) :=
  match t.find (if p.isEmpty then "." else p) with
  | .error _ => []
  | .ok (_, e) => (p, e) :: (e.descendants []).map fun (place, e) => (place.foldl Path.join p, e)

end Tree

end TraceView
