import SyscallTables.Files.Path

namespace SyscallTables

/-! A file tree: what stands at each absolute location, a location being the list of names
from the root. Every location in the tree has a directory above it. Paths are looked up from a
current directory part by part as the operating system does: `.` stays, `..` steps up, a name
steps down; every part but the last must lead to a directory, and a missing one or a file in
the way stops the walk with the system's error. A path that ends in a separator asks for a
directory. -/

/-- Why a file operation failed. -/
inductive IoError
  | notFound
  | notADirectory
  | isADirectory
  | alreadyExists
  deriving DecidableEq, Repr

/-- The system's text of an error, with its number. -/
def IoError.message : IoError → String
  | .notFound => "No such file or directory (os error 2)"
  | .notADirectory => "Not a directory (os error 20)"
  | .isADirectory => "Is a directory (os error 21)"
  | .alreadyExists => "File exists (os error 17)"

/-- What stands at a location. -/
inductive Entry
  | file (content : String)
  | directory
  deriving DecidableEq, Repr

/-- A location: the names from the root. -/
abbrev Location := List String

/-- A file tree. -/
structure FileTree where
  entries : List (Location × Entry) := []
  deriving DecidableEq, Repr, Inhabited

namespace FileTree

/-- The tree with only its root. -/
def empty : FileTree := {}

/-- What stands at a location; the root is a directory. -/
def get? (t : FileTree) (loc : Location) : Option Entry :=
  if loc.isEmpty then some .directory else t.entries.lookup loc

/-- The tree with a location set; any previous entry there is replaced. -/
def set (t : FileTree) (loc : Location) (e : Entry) : FileTree :=
  ⟨(t.entries.filter (·.1 != loc)) ++ [(loc, e)]⟩

/-- The tree without a location and everything below it. -/
def remove (t : FileTree) (loc : Location) : FileTree :=
  ⟨t.entries.filter fun (l, _) => !(loc.isPrefixOf l)⟩

/-- The names directly inside a directory, sorted, with what stands there. -/
def children (t : FileTree) (loc : Location) : List (String × Entry) :=
  let direct := t.entries.filterMap fun (l, e) =>
    match l.drop loc.length with
    | [name] => if loc.isPrefixOf l then some (name, e) else none
    | _ => none
  direct.mergeSort fun a b => decide (a.1 ≤ b.1)

/-- The names of a relative path to a place below a directory, with empty and `.` parts
dropped; a listing of files names its places this way. -/
def steps (p : Path) : List String :=
  p.segments.filter fun s => !s.isEmpty && s != "."

/-- The last part of a path: the root (a path of separators only), `.`, `..` or a name. -/
inductive LastPart
  | root
  | current
  | up
  | name (n : String)
  deriving DecidableEq, Repr

/-- The meaning of a non-empty part. -/
def LastPart.ofPart (s : String) : LastPart :=
  if s = "." then .current else if s = ".." then .up else .name s

/-- The location one part leads to from a directory. -/
def LastPart.from (loc : Location) : LastPart → Location
  | .root | .current => loc
  | .up => loc.dropLast
  | .name n => loc ++ [n]

/-- A path looked up up to its last part: the directory that holds the last part, the last
part, and whether separators follow it. -/
structure Lookup where
  dir : Location
  last : LastPart
  trailing : Bool
  deriving DecidableEq, Repr

/-- Where the last part of a lookup leads. -/
def Lookup.target (l : Lookup) : Location := l.last.from l.dir

/-- Walks all parts but the last from a directory: each part must lead to a directory. A part
that leads nowhere fails as missing, one that leads to a file as not a directory. -/
def walk (t : FileTree) : Location → List String → Except IoError Location
  | loc, [] => .ok loc
  | loc, s :: rest =>
    let next := (LastPart.ofPart s).from loc
    match t.get? next with
    | some .directory => walk t next rest
    | some (.file _) => .error .notADirectory
    | none => .error .notFound

/-- Looks a path up from the current directory `cwd` as far as its last part. Empty parts
(doubled or trailing separators) mean nothing, but trailing ones are remembered; an empty
path names nothing. -/
def lookup (t : FileTree) (cwd : Location) (p : Path) : Except IoError Lookup :=
  let start := if p.hasRoot then [] else cwd
  let parts := p.parts
  match parts.getLast? with
  | none => if p.hasRoot then .ok ⟨[], .root, false⟩ else .error .notFound
  | some last => do
    let dir ← walk t start parts.dropLast
    pure ⟨dir, LastPart.ofPart last, p.text.endsWith "/"⟩

/-- What a path names, when something stands there: a path that ends in a separator names
only a directory, and fails as not a directory at a file. -/
def find (t : FileTree) (cwd : Location) (p : Path) : Except IoError (Location × Entry) := do
  let l ← lookup t cwd p
  match t.get? l.target with
  | some (.file c) => if l.trailing then throw .notADirectory else pure (l.target, .file c)
  | some .directory => pure (l.target, .directory)
  | none => throw .notFound

/-- The content of a file. -/
def readFile (t : FileTree) (cwd : Location) (p : Path) : Except IoError String := do
  match (← find t cwd p).2 with
  | .file c => pure c
  | .directory => throw .isADirectory

/-- The entries of a directory. -/
def readDir (t : FileTree) (cwd : Location) (p : Path) :
    Except IoError (List (String × Entry)) := do
  let (loc, e) ← find t cwd p
  match e with
  | .directory => pure (t.children loc)
  | .file _ => throw .notADirectory

/-- Whether anything stands where a path points. -/
def contains (t : FileTree) (cwd : Location) (p : Path) : Bool :=
  match find t cwd p with
  | .ok _ => true
  | .error _ => false

/-- Whether a path names a directory. -/
def isDir (t : FileTree) (cwd : Location) (p : Path) : Bool :=
  match find t cwd p with
  | .ok (_, e) => e == .directory
  | .error _ => false

/-- Makes one directory where a name stands last; nothing may stand there yet, and the root,
`.` and `..` always do. -/
def createDir (t : FileTree) (cwd : Location) (p : Path) : Except IoError FileTree := do
  let l ← lookup t cwd p
  match l.last with
  | .name _ =>
    match t.get? l.target with
    | some _ => throw .alreadyExists
    | none => pure (t.set l.target .directory)
  | _ => throw .alreadyExists

/-- Makes a directory and the missing ones above it; an existing directory is fine. -/
def createDirAll (t : FileTree) (cwd : Location) : Nat → Path → Except IoError FileTree
  | 0, _ => .ok t
  | fuel + 1, p =>
    if p.text.isEmpty then .ok t
    else
      match createDir t cwd p with
      | .ok t' => .ok t'
      | .error .notFound =>
        match p.parent with
        | none => .error .notFound
        | some q => do
          let t' ← createDirAll t cwd fuel q
          match createDir t' cwd p with
          | .ok t'' => .ok t''
          | .error e => if t'.isDir cwd p then .ok t' else .error e
      | .error e => if t.isDir cwd p then .ok t else .error e

/-- Writes a file, replacing its content or creating it in the directory that holds its last
part. A path that ends in a separator, or names a directory, fails as a directory. -/
def writeFile (t : FileTree) (cwd : Location) (p : Path) (content : String) :
    Except IoError FileTree := do
  let l ← lookup t cwd p
  if l.trailing then throw .isADirectory
  match t.get? l.target with
  | some .directory => throw .isADirectory
  | _ => pure (t.set l.target (.file content))

/-- Every file under a directory, keyed by its names below it joined by `/`, sorted. -/
def filesUnder (t : FileTree) (loc : Location) : List (String × String) :=
  let found := t.entries.filterMap fun (l, e) =>
    match e with
    | .file c => if loc.isPrefixOf l then some ("/".intercalate (l.drop loc.length), c) else none
    | .directory => none
  found.mergeSort fun a b => decide (a.1 ≤ b.1)

/-- Creates the directories above a location, as a tree seeded from a listing would have
them. -/
def ensureParents (t : FileTree) (loc : Location) : FileTree :=
  (List.range loc.length).foldl (fun t n =>
    let above := loc.take (n + 1)
    match t.get? above with
    | some _ => t
    | none => t.set above .directory) t

/-- A change a listing of files asks for at a location. -/
inductive Change
  | write (content : String)
  | makeDir
  | delete
  deriving DecidableEq, Repr

/-- Applies a change, creating the directories above a written file or a new directory. -/
def change (t : FileTree) (loc : Location) : Change → FileTree
  | .write content => (t.ensureParents loc.dropLast).set loc (.file content)
  | .makeDir => t.ensureParents loc
  | .delete => t.remove loc

/-- The entries of a tree that another tree does not hold as they are, in the order of the
tree; a directory comes before what was made inside it, since making a location appends it. -/
def changesFrom (after before : FileTree) : List (Location × Entry) :=
  after.entries.filter fun (loc, e) => before.get? loc != some e

end FileTree

end SyscallTables
